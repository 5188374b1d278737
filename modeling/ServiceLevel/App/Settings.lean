import ServiceLevel.Processor.Fields

/-!
# Settings

The settings of an application come from the environment, whose names begin with
a common start and count in any case, and from given values, which win.  A list
is written as a document in the environment.
-/

namespace ServiceLevel

namespace Field

/-- A text that may be missing or nothing. -/
def optionalText (data : Json) (name : String) : Field (Option String) :=
  match data.field? name with
  | none | some .null => .ok none
  | some (.text value) => .ok (some value)
  | some _ => .error [⟨name, .textType⟩]

/-- The texts of a list, or the faults of those items that are none. -/
def textItems (name : String) (index : Nat) : List Json → Field (List String)
  | [] => .ok []
  | item :: rest =>
    let first : Field String :=
      match item with
      | .text value => .ok value
      | _ => .error [⟨name ++ "." ++ Quantity.integerText index, .textType⟩]
    (both first (textItems name (index + 1) rest)).map fun found => found.1 :: found.2

/-- A list of texts. -/
def texts (data : Json) (name : String) : Field (List String) :=
  match data.field? name with
  | none => .ok []
  | some (.array items) => textItems name 0 items
  | some _ => .error [⟨name, .listType⟩]

end Field

/-- The settings of an application. -/
structure Settings where
  pluginPaths : List String
  strict : Bool
  /-- Whether the plugins shipped with the library are loaded. -/
  withShipped : Bool
  configPath : Option String
  optimized : Bool
  logLevel : String
  /-- Whether lines of the log are documents. -/
  logDocuments : Bool
  deriving DecidableEq, Repr

namespace Settings

/-- The name of the field with the list of directories. -/
def pathsField : String := "plugin_paths"

/-- The names of the fields. -/
def fieldNames : List String :=
  [pathsField, "plugins_strict", "include_contrib_plugins", "config_path", "sli_rules_optimized",
    "log_level", "log_json"]

/-- What the names of the settings in the environment begin with. -/
def environmentStart : List Char := "slogen_".toList

/-- The field that a name of the environment stands for. -/
def fieldOf? (name : String) : Option String :=
  let lower := name.toList.map Char.toLower
  if environmentStart.isPrefixOf lower then
    let field := String.ofList (lower.drop environmentStart.length)
    if fieldNames.contains field then some field else none
  else none

/-- The document that a value of the environment is.  A byte order mark is not skipped. -/
def documentOf? (value : String) : Option Json :=
  if value.toList.head? = some '\ufeff' then none else (Json.read value).toOption

/-- The value of a field in the environment; nothing is like a field that is not given. -/
def environmentValue (field value : String) : Except Failure (Option Json) :=
  if field = pathsField then
    match documentOf? value with
    | some .null => .ok none
    | some data => .ok (some data)
    | none => .error (.fault .environment "")
  else .ok (some (.text value))

/-- The fields that the environment gives; of names that differ in case only the last counts. -/
def environmentFields (environment : List (String × String)) : Entries String :=
  .ofList (environment.filterMap fun entry =>
    (fieldOf? entry.1).map fun field => (field, entry.2))

/-- The values of the fields that the environment gives. -/
def environmentValues : List (String × String) → Except Failure (List (String × Json))
  | [] => .ok []
  | (field, value) :: rest => do
    let first ← environmentValue field value
    let others ← environmentValues rest
    return match first with
      | some data => (field, data) :: others
      | none => others

/-- The settings in the fields of an object. -/
def ofFields (data : Json) : Except Failure Settings :=
  let fields :=
    Field.both (Field.texts data pathsField)
      (Field.both (Field.flag data "plugins_strict" false)
        (Field.both (Field.flag data "include_contrib_plugins" true)
          (Field.both (Field.optionalText data "config_path")
            (Field.both (Field.flag data "sli_rules_optimized" false)
              (Field.both (Field.text data "log_level" "INFO")
                (Field.flag data "log_json" true))))))
  match fields with
  | .ok (pluginPaths, strict, withShipped, configPath, optimized, logLevel, logDocuments) =>
    .ok { pluginPaths, strict, withShipped, configPath, optimized, logLevel, logDocuments }
  | .error found => .error (Field.failure "Settings" found)

/-- The settings of an environment and given values. -/
def read (environment : List (String × String)) (values : List (String × Json)) :
    Except Failure Settings := do
  let found ← environmentValues (environmentFields environment).pairs
  let fields := (Entries.ofList found).merge (.ofList values)
  ofFields (.object fields.pairs)

/-- Settings that are read from the environment once.  A failure is not kept. -/
def readOnce (kept : Option Settings) (environment : List (String × String)) :
    Except Failure Settings × Option Settings :=
  match kept with
  | some settings => (.ok settings, kept)
  | none =>
    match read environment [] with
    | .ok settings => (.ok settings, some settings)
    | .error failure => (.error failure, none)

end Settings

end ServiceLevel
