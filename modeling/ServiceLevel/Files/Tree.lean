import ServiceLevel.Files.Path
import ServiceLevel.Source.Basic
import ServiceLevel.Processor.Plugin

/-!
# File trees

A directory tree with its files.  A file holds a plugin source, a document, a
text, bytes, or one of the plugins shipped with the library.  Beside files and
directories there may be things of other kinds, which have a name and nothing in
them.  The tree is what a scan for plugins and the search for a config file look
at.
-/

namespace ServiceLevel

/-- A plugin shipped with the library. -/
inductive ShippedFile where
  | indicator
  | processor (shipped : Shipped)
  deriving DecidableEq, Repr

/-- What a file holds. -/
inductive FileContent where
  | source (source : Source)
  | document (data : Json)
  | text (content : String)
  | bytes (content : List UInt8)
  | shipped (plugin : ShippedFile)
  deriving Repr

/-- The text of a file of bytes, if it is one. -/
def FileContent.decode (bytes : List UInt8) : Option String :=
  String.fromUTF8? ⟨bytes.toArray⟩

/-- A file, a directory with named entries, or something of another kind. -/
inductive FileTree where
  | file (content : FileContent)
  | directory (entries : List (String × FileTree))
  /-- Something that can neither be listed nor be read, such as a socket. -/
  | special
  deriving Repr, Inhabited

namespace FileTree

/-- The directory without entries. -/
def empty : FileTree := .directory []

/-- Whether a tree is a directory. -/
def isDirectory : FileTree → Bool
  | .directory _ => true
  | .file _ | .special => false

/-- The entry of a directory with a name. -/
def entry? (tree : FileTree) (name : String) : Option FileTree :=
  match tree with
  | .directory entries => entries.lookup name
  | .file _ | .special => none

/-- What parts of a path lead to, with the directories above for the parts that lead upwards. -/
def walk (above : List FileTree) (here : FileTree) : List String → Option FileTree
  | [] => some here
  | name :: rest =>
    if name = ".." then
      if !here.isDirectory then none
      else
        match above with
        | [] => walk [] here rest
        | outer :: others => walk others outer rest
    else
      match here.entry? name with
      | some next => walk (here :: above) next rest
      | none => none

/-- Set an entry of a list of entries. -/
def putEntry (name : String) (tree : FileTree) :
    List (String × FileTree) → List (String × FileTree)
  | [] => [(name, tree)]
  | (other, old) :: rest =>
    if other = name then (name, tree) :: rest else (other, old) :: putEntry name tree rest

/-- The entries of a directory. -/
def entries : FileTree → List (String × FileTree)
  | .directory entries => entries
  | .file _ | .special => []

/-- Put something at a place; directories on the way are made. -/
def put (tree new : FileTree) : List String → FileTree
  | [] => new
  | name :: rest =>
    .directory (putEntry name (((tree.entry? name).getD empty).put new rest) tree.entries)

/-- Make a directory at a place, unless there is one. -/
def makeDirectory (tree : FileTree) (parts : List String) : FileTree :=
  match walk [] tree parts with
  | some (.directory _) => tree
  | _ => tree.put empty parts

/-- Remove what is at a place. -/
def remove (tree : FileTree) : List String → FileTree
  | [] => tree
  | [name] => .directory (tree.entries.filter fun entry => entry.1 ≠ name)
  | name :: rest =>
    match tree.entry? name with
    | some next => .directory (putEntry name (next.remove rest) tree.entries)
    | none => tree

end FileTree

end ServiceLevel
