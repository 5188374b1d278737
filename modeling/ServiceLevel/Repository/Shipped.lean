import ServiceLevel.Files.Tree
import ServiceLevel.Indicator.Availability

/-!
# The plugins shipped with the library

A directory with a subdirectory for each shipped plugin, as a scan finds them.
-/

namespace ServiceLevel.Repository

/-- The name of the file of a shipped plugin. -/
def shippedFileName : String := "plugin.py"

/-- The directory of a shipped plugin. -/
def shippedEntry (name : String) (plugin : ShippedFile) : String × FileTree :=
  (name, .directory [(shippedFileName, .file (.shipped plugin))])

/-- The directory of the shipped plugins. -/
def shippedTree : FileTree :=
  .directory
    (shippedEntry Availability.id .indicator ::
      Shipped.all.map fun shipped => shippedEntry shipped.moduleName (.processor shipped))

end ServiceLevel.Repository
