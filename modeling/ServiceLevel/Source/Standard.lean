import ServiceLevel.Source.Library

/-!
# The usual library

A library with the conversions, lengths, containers and copies of the usual one,
and with the attributes of functions, classes and what they make.  A given
function that is not listed here makes an object that nothing more is known of.
-/

namespace ServiceLevel.Source

namespace Standard

/-- How deep calls may be nested. -/
def depth : Nat := 1000

/-! ## Texts -/

/-- How a value is shown inside another one; what is nested too deeply is left out. -/
def shown (memory : Memory) : Nat → Value → String
  | 0, _ => "..."
  | depth + 1, value =>
    let all (values : List Value) : String := ", ".intercalate (values.map (shown memory depth))
    match value with
    | .data value => value.shown
    | .module path => "<module " ++ Text.quoted path ++ ">"
    | .given name _ => "<built-in function " ++ name ++ ">"
    | .fault kind => "<class " ++ Text.quoted kind.name ++ ">"
    | .record typeName fields =>
      typeName ++ "(" ++
        ", ".intercalate (fields.map fun field => field.1 ++ "=" ++ field.2.shown) ++ ")"
    | .list place => "[" ++ all (memory.itemsAt place) ++ "]"
    | .tuple place =>
      match memory.itemsAt place with
      | [item] => "(" ++ shown memory depth item ++ ",)"
      | items => "(" ++ all items ++ ")"
    | .map place =>
      let entry (pair : Value × Value) : String :=
        shown memory depth pair.1 ++ ": " ++ shown memory depth pair.2
      "\x7b" ++ ", ".intercalate ((memory.entriesAt place).map entry) ++ "\x7d"
    | .exception _ kind arguments => kind.name ++ "(" ++ all arguments ++ ")"
    | .function _ name .. => "<function " ++ name ++ ">"
    | .constructor _ name .. => "<class " ++ Text.quoted name ++ ">"
    | .member _ typeName _ | .object _ typeName _ => "<" ++ typeName ++ " object>"

/-- A value as a text: a text stands for itself, and an exception for its message. -/
def display (memory : Memory) : Value → String
  | .data value => value.display
  | .exception _ _ [] => ""
  | .exception _ .key [argument] => shown memory depth argument
  | .exception _ _ [.data value] => value.display
  | .exception _ _ [argument] => shown memory depth argument
  | .exception _ _ arguments =>
    "(" ++ ", ".intercalate (arguments.map (shown memory depth)) ++ ")"
  | other => shown memory depth other

/-- Whether an integer has more digits than are written. -/
def isTooLong : Value → Bool
  | .data (.number (.whole value)) =>
    decide (Text.digitLimit < (Nat.toDigits 10 value.natAbs).length)
  | _ => false

/-- A value as a text, or as it is shown; integers with too many digits have neither. -/
def written (write : Memory → Value → String) (value : Value) : Run String := do
  if isTooLong value then throw (.fault .value Failure.unwrittenDigitsMessage)
  else return write (← get) value

/-! ## Containers -/

/-- The items of a value that has some. -/
def itemsOf? (memory : Memory) : Value → Option (List Value)
  | .list place | .tuple place => some (memory.itemsAt place)
  | .map place => some ((memory.entriesAt place).map Prod.fst)
  | .data (.text content) =>
    some (content.toList.map fun letter => .text (String.singleton letter))
  | _ => none

/-- The items of a value, which has to have some. -/
def itemsOf (value : Value) : Run (List Value) := do
  match itemsOf? (← get) value with
  | some items => return items
  | none => throw (.fault .type (Text.quoted value.typeName ++ " object is not iterable"))

/-- Whether a value counts as true. -/
def isTrue (memory : Memory) : Value → Bool
  | .data value => value.isGiven
  | other => ((itemsOf? memory other).map fun items => !items.isEmpty).getD true

/-- A copy of a value, with the same items. -/
def copyOf (value : Value) : Run Value := do
  match value with
  | .list place => return .list (← newObject (.items ((← get).itemsAt place)))
  | .map place => return .map (← newObject (.entries ((← get).entriesAt place)))
  | other => return other

/-- A copy of a value with copies of its items; what it holds in two places is copied once. -/
def deepCopy : Nat → Value → StateT (List (Nat × Value)) Run Value
  | 0, _ => throw (.fault .recursion "maximum recursion depth exceeded")
  | depth + 1, value => do
    let copies ← get
    match value.place?.bind fun place => copies.lookup place, value with
    | some copied, _ => return copied
    | none, .list place =>
      let copied ← newObject (.items [])
      modify fun copies => (place, .list copied) :: copies
      let items ← (← (get : Run Memory)).itemsAt place |>.mapM (deepCopy depth)
      (modify fun memory => memory.put copied (.items items) : Run Unit)
      return .list copied
    | none, .tuple place =>
      let items ← (← (get : Run Memory)).itemsAt place |>.mapM (deepCopy depth)
      return .tuple (← newObject (.items items))
    | none, .map place =>
      let copied ← newObject (.entries [])
      modify fun copies => (place, .map copied) :: copies
      let entries ← (← (get : Run Memory)).entriesAt place |>.mapM fun entry => do
        return (← deepCopy depth entry.1, ← deepCopy depth entry.2)
      (modify fun memory => memory.put copied (.entries entries) : Run Unit)
      return .map copied
    | none, other => return other

/-! ## Functions -/

/-- The functions of patterns, which look their arguments up. -/
def patternFunctions : List String :=
  ["compile", "findall", "finditer", "fullmatch", "match", "search", "split", "sub", "subn"]

/-- Call a given function. -/
def callGiven (name : String) (arguments : List Value) : Run Value := do
  match name, arguments with
  | "str", [] => return .text ""
  | "str", [value] => return .text (← written display value)
  | "repr", [value] => return .text (← written (shown · depth) value)
  | "bool", [] => return .data (.bool false)
  | "bool", [value] => return .data (.bool (isTrue (← get) value))
  | "callable", [value] => return .data (.bool value.isCallable)
  | "len", [value] =>
    match itemsOf? (← get) value with
    | some items => return .data (.ofInt items.length)
    | none =>
      throw (.fault .type ("object of type " ++ Text.quoted value.typeName ++ " has no len()"))
  | "list", [] => return .list (← newObject (.items []))
  | "list", [value] => do
    let items ← itemsOf value
    return .list (← newObject (.items items))
  | "tuple", [] => return .tuple (← newObject (.items []))
  | "tuple", [value] => do
    let items ← itemsOf value
    return .tuple (← newObject (.items items))
  | "dict", [] => return .map (← newObject (.entries []))
  | "copy", [value] => copyOf value
  | "deepcopy", value :: _ => (deepCopy depth value).run' []
  | "compile", .data (.text _) :: _ =>
    return .object (← newObject (.attributes [])) "re.Pattern" none
  | "pow", [.map _, .map _, .map _] =>
    throw (.fault .type "unsupported operand type(s) for ** or pow(): 'dict', 'dict', 'dict'")
  | "render_template", .map _ :: _ =>
    throw (.fault .attribute "'dict' object has no attribute 'count'")
  | _, arguments =>
    match patternFunctions.contains name, arguments.find? Value.isContainer with
    | true, some container => throw (unhashable container)
    | _, _ => return .object (← newObject (.attributes [])) name none

/-- The type of the methods of what a class makes. -/
def methodType : String := "method"

/-- Where a method keeps its function. -/
def functionEntry : String := "__func__"

/-- Where a method keeps the value that it belongs to. -/
def ownerEntry : String := "__self__"

/-- Call a value that is no function or class of a source. -/
def call (again : Caller) (function : Value) (arguments : List Value) : Run Value := do
  let refused : Run Value :=
    throw (.fault .type (Text.quoted function.typeName ++ " object is not callable"))
  match function with
  | .given name _ => callGiven name arguments
  | .object place _ _ =>
    let kept := (← get).attributesAt place
    match kept.lookup functionEntry, kept.lookup ownerEntry with
    | some called, some owner => again called (owner :: arguments)
    | _, _ => refused
  | _ => refused

/-! ## Attributes and items -/

/-- An attribute of what a class makes: its own one, or that of the class, where a function
becomes a method. -/
def memberAttribute (holder : Value) (place type : Nat) (name : String) : Run Value := do
  let memory ← get
  match (memory.attributesAt place).lookup name, (memory.attributesAt type).lookup name with
  | some value, _ => return value
  | none, some (.function own called parameters defaults given body) => do
    let function := .function own called parameters defaults given body
    let kept ← newObject (.attributes [(functionEntry, function), (ownerEntry, holder)])
    return .object kept methodType ((positionalCount? parameters).map Nat.pred)
  | none, some value => return value
  | none, none => throw (noAttribute holder name)

/-- An attribute of a value. -/
def attributeOf (holder : Value) (name : String) : Run Value := do
  match holder with
  | .function place .. | .constructor place .. | .exception place .. =>
    (((← get).attributesAt place).lookup name).map pure |>.getD (throw (noAttribute holder name))
  | .member place _ type => memberAttribute holder place type name
  | _ => throw (noAttribute holder name)

/-- Set an attribute of a value. -/
def setAttribute (holder : Value) (name : String) (value : Value) : Run Unit :=
  match holder with
  | .function place .. | .constructor place .. | .exception place .. | .member place .. =>
    modify fun memory =>
      memory.put place (.attributes (Entries.putPair name value (memory.attributesAt place)))
  | .fault kind =>
    throw (.fault .type
      ("cannot set " ++ Text.quoted name ++ " attribute of immutable type " ++
        Text.quoted kind.name))
  | _ => throw (noAttribute holder name)

/-- An item of a value. -/
def item (holder key : Value) : Run Value := do
  match holder with
  | .list _ | .tuple _ => throw (noIndex holder.typeName key)
  | .map place =>
    match ((← get).entriesAt place).find? fun entry => entry.1.isSame key with
    | some entry => return entry.2
    | none => throw (.fault .key (← written (shown · depth) key))
  | _ => throw (.fault .type (Text.quoted holder.typeName ++ " object is not subscriptable"))

/-- Set an item of a value. -/
def setItem (holder key value : Value) : Run Unit :=
  match holder with
  | .list _ => throw (noIndex "list" key)
  | .map place =>
    modify fun memory => memory.put place (.entries (putKey key value (memory.entriesAt place)))
  | _ =>
    throw (.fault .type
      (Text.quoted holder.typeName ++ " object does not support item assignment"))

end Standard

/-- The usual library. -/
def Library.standard : Library where
  depth := Standard.depth
  call := Standard.call
  attributeOf _ := Standard.attributeOf
  setAttribute _ := Standard.setAttribute
  item _ := Standard.item
  setItem _ := Standard.setItem
  items _ _ value :=
    throw (.fault .type ("cannot unpack non-iterable " ++ value.typeName ++ " object"))
  text _ := Standard.written Standard.display
  shown _ := Standard.written (Standard.shown · Standard.depth)

end ServiceLevel.Source
