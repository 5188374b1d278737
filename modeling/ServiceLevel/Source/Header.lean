import ServiceLevel.Source.Basic
import ServiceLevel.Failure

/-!
# The name of a plugin's module

A source declares the name of its module in a comment that has a line of its
own.  The first such line of the text counts, wherever it stands.
-/

namespace ServiceLevel.Source

/-- What a line that declares the name begins with. -/
def declaration : List Char :=
  "# plugin-module:".toList

/-- Whether a character may begin a name. -/
def isNameStart (c : Char) : Bool :=
  c.isAlpha || c = '_'

/-- Whether a character may stand inside a name. -/
def isNamePart (c : Char) : Bool :=
  c.isAlphanum || c = '_'

/-- The name that a line declares. -/
def declaredName? (line : List Char) : Option String :=
  if declaration.isPrefixOf line then
    let text := (line.drop declaration.length).dropWhile (· = ' ')
    let name := text.takeWhile isNamePart
    let behind := text.dropWhile isNamePart
    if (name.head?.any isNameStart) && behind.all (· = ' ') then some (String.ofList name)
    else none
  else none

/-- The first name that a line of a text declares. -/
def moduleNameOf? (text : List Char) : Option String :=
  (lines text).findSome? declaredName?

/-- A source whose text declares no name. -/
def unnamed : Failure :=
  .pluginLoad "plugin module name declaration ('# plugin-module: <name>') not found"

/-- The name of the module in a text. -/
def moduleNameOf (text : List Char) : Except Failure String :=
  match moduleNameOf? text with
  | some name => .ok name
  | none => .error unnamed

/-- The name of a source's module. -/
def moduleName (source : Source) : Except Failure String :=
  moduleNameOf source.outline

end ServiceLevel.Source
