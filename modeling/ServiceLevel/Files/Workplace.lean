import ServiceLevel.Files.Tree
import ServiceLevel.Source.Standard

/-!
# Workplaces

Relative paths start at a current directory, tildes stand for home directories,
and the code of plugin files runs with a library.
-/

namespace ServiceLevel

/-- A file tree seen from a current directory and by users with home directories. -/
structure Workplace where
  tree : FileTree
  /-- The current directory, from the top. -/
  current : List String
  home : Homes
  /-- What the code of plugins is given. -/
  library : Source.Library := .standard

namespace Workplace

/-- The current directory as a path. -/
def currentPath (place : Workplace) : FilePath := ⟨.top, place.current⟩

/-- The home directory of the current user. -/
def homePath (place : Workplace) : FilePath := place.home.own

/-- What a path leads to. -/
def find? (place : Workplace) (path : FilePath) : Option FileTree :=
  FileTree.walk [] place.tree (place.currentPath.under path).parts

/-- Whether a path leads to something. -/
def holds (place : Workplace) (path : FilePath) : Bool :=
  (place.find? path).isSome

end Workplace

end ServiceLevel
