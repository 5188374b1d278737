import ServiceLevel.Source.Surface
import ServiceLevel.Log.Event
import ServiceLevel.Entries

/-!
# Memory

What plugin code can change while its expressions are evaluated: its own copies
of the modules it can import, the objects it has made, and the log.  The symbols
of a source are not part of the memory, so that evaluating an expression binds
none.
-/

namespace ServiceLevel.Source

/-- An object that plugin code can change. -/
inductive Object where
  /-- The items of a list or a tuple. -/
  | items (items : List Value)
  /-- The entries of a map. -/
  | entries (entries : List (Value × Value))
  /-- What has been assigned to the attributes of any other object. -/
  | attributes (attributes : List (String × Value))
  deriving Repr

/-- What plugin code can change besides its symbols. -/
structure Memory where
  moduleName : String
  /-- The importable modules with their names, which plugin code may replace. -/
  modules : Entries (Entries Value)
  /-- The objects, each at the place where it was made. -/
  objects : List Object := []
  events : List LogEvent := []
  deriving Repr

/-- Plugin code that ends with a value or fails. -/
abbrev Run (α : Type) := ExceptT Failure (StateM Memory) α

namespace Memory

/-- The value of a name of a module. -/
def attribute? (memory : Memory) (path name : String) : Option Value :=
  ((memory.modules.get? path).bind fun names => names.get? name).or
    ((Surface.attributes path).lookup name)

/-- Replace a name of a module. -/
def replace (memory : Memory) (path name : String) (value : Value) : Memory :=
  let names := (memory.modules.get? path).getD .empty
  { memory with modules := memory.modules.put path (names.put name value) }

/-- Write a line to the log. -/
def print (memory : Memory) (message : String) : Memory :=
  { memory with
    events := memory.events ++
      [⟨.debug, LogEvent.sandboxLogger, "plugin_print",
        [("module", .text memory.moduleName), ("message", .text message)]⟩] }

/-- The items of a list or a tuple. -/
def itemsAt (memory : Memory) (place : Nat) : List Value :=
  match memory.objects[place]? with
  | some (.items items) => items
  | _ => []

/-- The entries of a map. -/
def entriesAt (memory : Memory) (place : Nat) : List (Value × Value) :=
  match memory.objects[place]? with
  | some (.entries entries) => entries
  | _ => []

/-- The attributes of an object. -/
def attributesAt (memory : Memory) (place : Nat) : List (String × Value) :=
  match memory.objects[place]? with
  | some (.attributes attributes) => attributes
  | _ => []

/-- Replace an object. -/
def put (memory : Memory) (place : Nat) (object : Object) : Memory :=
  { memory with objects := memory.objects.set place object }

/-- Make an object at a place of its own. -/
def make (memory : Memory) (object : Object) : Nat × Memory :=
  (memory.objects.length, { memory with objects := memory.objects ++ [object] })

end Memory

/-- A map with the value of a key set. -/
def putKey (key value : Value) : List (Value × Value) → List (Value × Value)
  | [] => [(key, value)]
  | (other, old) :: rest =>
    if other.isSame key then (other, value) :: rest else (other, old) :: putKey key value rest

/-- Make an object. -/
def newObject (object : Object) : Run Nat :=
  modifyGet fun memory => memory.make object

mutual

/-- The value of a constant; its lists and maps are made anew. -/
def valueOf : Json → Run Value
  | .array items => do
    let items ← valuesOf items
    return .list (← newObject (.items items))
  | .object fields => do
    let entries ← entriesOf [] fields
    return .map (← newObject (.entries entries))
  | scalar => return .data scalar

/-- The values of the items of a list. -/
def valuesOf : List Json → Run (List Value)
  | [] => return []
  | item :: rest => do
    let value ← valueOf item
    let values ← valuesOf rest
    return value :: values

/-- The entries of a map with those of further fields. -/
def entriesOf (entries : List (Value × Value)) :
    List (String × Json) → Run (List (Value × Value))
  | [] => return entries
  | (name, field) :: rest => do
    let value ← valueOf field
    entriesOf (putKey (.text name) value entries) rest

end

/-- The values of the defaults of parameters. -/
def defaultsOf : List Parameter → Run (List (Option Value))
  | [] => return []
  | parameter :: rest => do
    let value ←
      match parameter.default with
      | none => pure none
      | some given => some <$> valueOf given
    let values ← defaultsOf rest
    return value :: values

end ServiceLevel.Source
