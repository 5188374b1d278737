import ServiceLevel.Files.Tree

/-!
# Plugin files

The files of a tree whose names say that they hold plugins.  Their order depends
on their names only, not on the order in which a directory lists its entries.
-/

namespace ServiceLevel.FileTree

/-- What the names of plugin files end in. -/
def pluginEnding : String := "plugin.py"

/-- Whether a file of a name is a plugin file. -/
def isPluginName (name : String) : Bool :=
  pluginEnding.toList.isSuffixOf name.toList

/-- Named things in ascending order of their names. -/
def byName {α : Type} (list : List (String × α)) : List (String × α) :=
  list.mergeSort fun left right => decide (left.1 ≤ right.1)

/-- The plugin files among the entries of a directory. -/
def ownPluginFiles (entries : List (String × FileTree)) : List (String × FileContent) :=
  entries.filterMap fun entry =>
    match entry.2 with
    | .file content => if isPluginName entry.1 then some (entry.1, content) else none
    | .directory _ | .special => none

mutual

/-- The plugin files of a tree with their paths in it: those of a directory in ascending
order, then those of its subdirectories, which follow in ascending order. -/
def pluginFiles : FileTree → List (List String × FileContent)
  | .file _ | .special => []
  | .directory entries =>
    ((byName (ownPluginFiles entries)).map fun file => ([file.1], file.2)) ++
      (byName (innerPluginFiles entries)).flatMap fun inner =>
        inner.2.map fun file => (inner.1 :: file.1, file.2)

/-- The plugin files of each of the subdirectories among some entries. -/
def innerPluginFiles :
    List (String × FileTree) → List (String × List (List String × FileContent))
  | [] => []
  | (_, .file _) :: rest | (_, .special) :: rest => innerPluginFiles rest
  | (name, .directory entries) :: rest =>
    (name, pluginFiles (.directory entries)) :: innerPluginFiles rest

end

end ServiceLevel.FileTree
