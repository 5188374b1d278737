import ServiceLevel.Source.Memory

/-!
# What plugin code does with values

The items of lists, tuples, texts and maps and the names of modules are those of
the language.  What calling a given function does, what an object of any other
kind has, and how deep calls may be nested, is up to the library that plugin code
runs with.  A library may change the memory and call back plugin code, but it
does not reach the symbols of a source, and what it is asked for ends.
-/

namespace ServiceLevel.Source

/-- How plugin code calls a value. -/
abbrev Caller := Value → List Value → Run Value

/-- The functions and objects that are given to plugin code. -/
structure Library where
  /-- How deep calls may be nested. -/
  depth : Nat
  call : Caller → Caller
  attributeOf : Caller → Value → String → Run Value
  setAttribute : Caller → Value → String → Value → Run Unit
  item : Caller → Value → Value → Run Value
  setItem : Caller → Value → Value → Value → Run Unit
  /-- The first items of a value, at most so many. -/
  items : Caller → Nat → Value → Run (List Value)
  /-- A value as a text. -/
  text : Caller → Value → Run String
  /-- How a value is shown inside another one. -/
  shown : Caller → Value → Run String

/-- What an expression is evaluated with. -/
structure Scope where
  library : Library
  call : Caller
  symbols : Entries Value
  /-- What the given names are found in, if not in the usual ones. -/
  given : Option Value := none
  locals : List (String × Value) := []

/-- The fault of a name that stands for nothing. -/
def unknownName (name : String) : Failure :=
  .fault .unknownName ("name " ++ Text.quoted name ++ " is not defined")

/-- The fault of an attribute that a value does not have. -/
def noAttribute (holder : Value) (name : String) : Failure :=
  match holder with
  | .module path =>
    .fault .attribute
      ("module " ++ Text.quoted path ++ " has no attribute " ++ Text.quoted name)
  | other =>
    .fault .attribute
      (Text.quoted other.typeName ++ " object has no attribute " ++ Text.quoted name)

/-- The fault of a value that cannot be the key of a map. -/
def unhashable (key : Value) : Failure :=
  .fault .type ("unhashable type: " ++ Text.quoted key.typeName)

/-- The fault of an index that is no integer. -/
def noIndex (kind : String) (key : Value) : Failure :=
  .fault .type (kind ++ " indices must be integers or slices, not " ++ key.typeName)

/-- The place that an index is of in so many items: a negative one counts from their end. -/
def placeOf? (count : Nat) (index : Int) : Option Nat :=
  let place := if index < 0 then index + count else index
  if 0 ≤ place && place < count then some place.toNat else none

/-- Whether it is up to the library what a value is as an index or a key. -/
def Value.isForeign : Value → Bool
  | .record .. | .tuple _ | .object .. => true
  | _ => false

/-- Whether a value can never be the key of a map. -/
def Value.isContainer : Value → Bool
  | .list _ | .map _ => true
  | _ => false

/-- So many items, if there are so many. -/
def spread (count : Nat) (items : List Value) : Except Failure (List Value) :=
  if items.length < count then
    .error (.fault .value
      ("not enough values to unpack (expected " ++ Quantity.integerText count ++ ", got " ++
        Quantity.integerText items.length ++ ")"))
  else if count < items.length then
    .error (.fault .value
      ("too many values to unpack (expected " ++ Quantity.integerText count ++ ")"))
  else .ok items

namespace Scope

/-- A given name, where nothing else has the name. -/
def given? (scope : Scope) (id : String) : Run Value :=
  let missing : Run Value := throw (unknownName id)
  match scope.given with
  | none => ((Surface.names.lookup id).map pure).getD missing
  | some (.module path) => do
    ((((← get).modules.get? path).bind fun names => names.get? id).map pure).getD missing
  | some other =>
    tryCatch (scope.library.item scope.call other (.text id)) fun failure =>
      if failure.kind = .fault .key then missing else throw failure

/-- The value of a name: a local one, a symbol, or a given one. -/
def value (scope : Scope) (id : String) : Run Value :=
  (((scope.locals.lookup id).or (scope.symbols.get? id)).map pure).getD (scope.given? id)

/-- An attribute of a value. -/
def attributeOf (scope : Scope) (holder : Value) (name : String) : Run Value := do
  match holder with
  | .module path => (((← get).attribute? path name).map pure).getD (throw (noAttribute holder name))
  | .record _ fields =>
    match fields.lookup name with
    | some value => return .data value
    | none => scope.library.attributeOf scope.call holder name
  | other => scope.library.attributeOf scope.call other name

/-- Set an attribute of a value. -/
def setAttribute (scope : Scope) (holder : Value) (name : String) (value : Value) : Run Unit :=
  match holder with
  | .module path => modify fun memory => memory.replace path name value
  | other => scope.library.setAttribute scope.call other name value

/-- An item of a value. -/
def item (scope : Scope) (holder key : Value) : Run Value := do
  let foreign := scope.library.item scope.call holder key
  match holder with
  | .list place | .tuple place =>
    let items := (← get).itemsAt place
    match key.index? with
    | some index =>
      match (placeOf? items.length index).bind fun found => items[found]? with
      | some value => return value
      | none => throw (.fault .index (holder.typeName ++ " index out of range"))
    | none => if key.isForeign then foreign else throw (noIndex holder.typeName key)
  | .data (.text content) =>
    let letters := content.toList
    match key.index? with
    | some index =>
      match (placeOf? letters.length index).bind fun found => letters[found]? with
      | some letter => return .text (String.singleton letter)
      | none => throw (.fault .index "string index out of range")
    | none =>
      if key.isForeign then foreign
      else
        throw (.fault .type
          ("string indices must be integers, not " ++ Text.quoted key.typeName))
  | .map place =>
    if key.isForeign then foreign
    else if key.isContainer then throw (unhashable key)
    else
      match ((← get).entriesAt place).find? fun entry => entry.1.isSame key with
      | some entry => return entry.2
      | none => throw (.fault .key (← scope.library.shown scope.call key))
  | .data _ => throw (.fault .type (Text.quoted holder.typeName ++ " object is not subscriptable"))
  | _ => foreign

/-- Set an item of a value. -/
def setItem (scope : Scope) (holder key value : Value) : Run Unit := do
  let foreign := scope.library.setItem scope.call holder key value
  match holder with
  | .list place =>
    let items := (← get).itemsAt place
    match key.index? with
    | some index =>
      match placeOf? items.length index with
      | some found => modify fun memory => memory.put place (.items (items.set found value))
      | none => throw (.fault .index "list assignment index out of range")
    | none => if key.isForeign then foreign else throw (noIndex "list" key)
  | .map place =>
    if key.isForeign then foreign
    else if key.isContainer then throw (unhashable key)
    else
      modify fun memory =>
        memory.put place (.entries (putKey key value (memory.entriesAt place)))
  | .data _ | .tuple _ =>
    throw (.fault .type
      (Text.quoted holder.typeName ++ " object does not support item assignment"))
  | _ => foreign

/-- The items of a value of which there have to be so many. -/
def unpack (scope : Scope) (count : Nat) (value : Value) : Run (List Value) := do
  match value with
  | .list place | .tuple place => liftExcept (spread count ((← get).itemsAt place))
  | .map place => liftExcept (spread count (((← get).entriesAt place).map Prod.fst))
  | .data (.text content) =>
    liftExcept
      (spread count (content.toList.map fun letter => .text (String.singleton letter)))
  | other => do liftExcept (spread count (← scope.library.items scope.call (count + 1) other))

/-- Values as texts. -/
def texts (scope : Scope) : List Value → Run (List String)
  | [] => return []
  | value :: rest => do
    let text ← scope.library.text scope.call value
    let texts ← scope.texts rest
    return text :: texts

/-- Values as they are shown inside others. -/
def shownAll (scope : Scope) : List Value → Run (List String)
  | [] => return []
  | value :: rest => do
    let text ← scope.library.shown scope.call value
    let texts ← scope.shownAll rest
    return text :: texts

/-- The message of an exception with some arguments. -/
def message (scope : Scope) (kind : Fault) (arguments : List Value) : Run String := do
  match arguments with
  | [] => return ""
  | [argument] =>
    if kind = .key then scope.library.shown scope.call argument
    else scope.library.text scope.call argument
  | arguments => do return "(" ++ ", ".intercalate (← scope.shownAll arguments) ++ ")"

end Scope

end ServiceLevel.Source
