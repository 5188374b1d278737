import ServiceLevel.Chain
import ServiceLevel.Files.Workplace
import ServiceLevel.Log.Event

/-!
# The config of an application

A config file lists plugins that run for every definition and further directories
with plugins.  It is found at a given path, or else in the current directory, or
else in the home directory; without one the config is empty.
-/

namespace ServiceLevel

/-- The config of an application. -/
structure AppConfig where
  entries : List ChainEntry := []
  pluginPaths : List FilePath := []
  deriving Repr

namespace AppConfig

/-- The name of an entry in messages. -/
def entryName (index : Nat) : String :=
  "plugin " ++ Quantity.integerText index

/-- The entry with an index that a document describes.  An entry needs an identifier. -/
def entryOf (index : Nat) (data : Json) : Except Failure ChainEntry :=
  match (data.field? "id").filter Json.isGiven with
  | none => .error (.configuration (entryName index ++ ": id is required"))
  | some id =>
    match ChainEntry.ofJson data with
    | .ok entry => .ok entry
    | .error cause =>
      if cause.kind = .fault .type ∨ cause.kind = .fault .value then
        .error (.because .configuration ("plugin " ++ id.shown ++ ": " ++ cause.message) cause)
      else .error cause

/-- The entries that documents describe, from an index on. -/
def entriesFrom (index : Nat) : List Json → Except Failure (List ChainEntry)
  | [] => .ok []
  | data :: rest => do
    let entry ← entryOf index data
    let entries ← entriesFrom (index + 1) rest
    return entry :: entries

/-- The items of a field that has to be a list; nothing given is an empty one. -/
def entryItems (data : Json) : Except Failure (List Json) :=
  match (data.field? "plugins").filter Json.isGiven with
  | none => .ok []
  | some (.array items) => .ok items
  | some _ => .error (.configuration "plugins must be a list")

/-- The path that a value names, seen from a directory. -/
def pathOf (homes : Homes) (base : Option FilePath) (data : Json) : Except Failure FilePath :=
  match data with
  | .text content => do
    let path ← (FilePath.ofText content).expandHome homes
    return (base.map fun directory => directory.under path).getD path
  | other =>
    .error (.fault .type ("expected str, bytes or os.PathLike object, not " ++ other.typeName))

/-- The paths that the items of a value name. -/
def pathsOf (homes : Homes) (base : Option FilePath) :
    List Json → Except Failure (List FilePath)
  | [] => .ok []
  | data :: rest => do
    let path ← pathOf homes base data
    let paths ← pathsOf homes base rest
    return path :: paths

/-- The config that a document describes; its relative paths start at a base directory. -/
def ofJson (homes : Homes) (base : Option FilePath) (data : Json) :
    Except Failure AppConfig :=
  match data with
  | .object _ => do
    let items ← entryItems data
    let entries ← entriesFrom 0 items
    let listed ←
      match (data.field? "plugin_paths").filter Json.isGiven with
      | none => .ok []
      | some given => Chain.itemsOf given
    let pluginPaths ← pathsOf homes base listed
    return { entries, pluginPaths }
  | _ => .error (ChainEntry.notObject data)

/-- Where a directory keeps its config file. -/
def location : List String := [".slogen", "config.yaml"]

/-- The config file to use, if there is one. -/
def find? (place : Workplace) : Option FilePath → Option FilePath
  | some path => if place.holds path then some path else none
  | none =>
    let own := place.currentPath.below location
    let common := place.homePath.below location
    if place.holds own then some own
    else if place.holds common then some common
    else none

/-- Whether a line of a config file says nothing. -/
def isSilent (line : List Char) : Bool :=
  match line.dropWhile fun c => c = ' ' || c = '\r' with
  | [] => true
  | c :: _ => c = '#'

/-- The document of a text, which is one only when it says nothing. -/
def documentOfText? (content : String) : Option Json :=
  if (Source.lines content.toList).all isSilent then some .null else none

/-- The document of a config file. -/
def documentOf? : FileContent → Option Json
  | .document data => some data
  | .text content => documentOfText? content
  | .bytes content => (FileContent.decode content).bind documentOfText?
  | _ => none

/-- A config file that cannot be read. -/
def unreadable (path : FilePath) : Failure :=
  .configuration "could not load config file" [("path", .text path.text)]

/-- The failure of a file without a document.  Bytes that are no text are a fault of their own,
which is not turned into a failed configuration. -/
def withoutDocument (path : FilePath) : FileContent → Failure
  | .bytes content =>
    if (FileContent.decode content).isNone then .fault .undecodable "<invalid UTF-8>"
    else unreadable path
  | _ => unreadable path

/-- The event of a config file that was loaded. -/
def loadedEvent (path : FilePath) (config : AppConfig) : LogEvent :=
  ⟨.debug, LogEvent.configLogger, "loaded_config",
    [("path", .text path.text), ("plugins", .ofInt config.entries.length)]⟩

/-- The config of a file. -/
def ofContent (homes : Homes) (path : FilePath) (content : FileContent) :
    Except Failure AppConfig :=
  match documentOf? content with
  | none => .error (withoutDocument path content)
  | some data =>
    if !data.isGiven then ofJson homes (some path.parent) (.object [])
    else
      match data with
      | .object _ => ofJson homes (some path.parent) data
      | _ =>
        .error (.configuration "config file must be a mapping" [("path", .text path.text)])

/-- Load the config file at a path, or the one that is found when no path is given.  Where
there is none, the config is empty. -/
def load (place : Workplace) (path : Option FilePath) :
    Except Failure AppConfig × List LogEvent :=
  match find? place path with
  | none => (.ok {}, [])
  | some path =>
    match place.find? path with
    | some (.file content) =>
      match ofContent place.home path content with
      | .ok config => (.ok config, [loadedEvent path config])
      | .error failure => (.error failure, [])
    | _ => (.error (unreadable path), [])

/-- The path that a text names; an empty text names none. -/
def givenPath (text : Option String) : Option FilePath :=
  (text.filter fun name => !name.isEmpty).map FilePath.ofText

end AppConfig

end ServiceLevel
