import ServiceLevel.Source.Basic
import ServiceLevel.Failure

/-!
# Values of plugin code

What the names of a plugin source stand for: scalars, modules, the functions and
classes that the source defines, those that are given to it, and objects.  The
items of lists and maps and the attributes of objects can change and are not part
of a value, which only says at which place of the memory they are.  Of a given
function only its name and the number of its positional parameters are known.
-/

namespace ServiceLevel.Source

/-- A value of plugin code. -/
inductive Value where
  /-- Nothing, a truth value, a number or a text. -/
  | data (value : Json)
  | module (path : String)
  /-- A given function or type, with the number of its parameters if all are positional. -/
  | given (name : String) (parameters : Option Nat)
  /-- A given type of exceptions. -/
  | fault (fault : Fault)
  /-- A given value with fields. -/
  | record (typeName : String) (fields : List (String × Json))
  | list (place : Nat)
  | tuple (place : Nat)
  | map (place : Nat)
  | exception (place : Nat) (fault : Fault) (arguments : List Value)
  /-- A function with the values of its parameters' defaults, and what it finds the given
  names in if not in the usual ones. -/
  | function (place : Nat) (name : String) (parameters : List Parameter)
      (defaults : List (Option Value)) (given : Option Value) (body : Body)
  | constructor (place : Nat) (name : String) (parameters : List Parameter)
      (defaults : List (Option Value))
  /-- What a class of the source makes, with the place of the class. -/
  | member (place : Nat) (typeName : String) (type : Nat)
  /-- Anything else, with the number of its parameters if it can be called with positional
  ones alone. -/
  | object (place : Nat) (typeName : String) (parameters : Option Nat)
  deriving Repr, Inhabited

/-- The number of parameters of a function, unless it takes a varying number or named ones. -/
def positionalCount? (parameters : List Parameter) : Option Nat :=
  if parameters.all fun parameter =>
      parameter.kind = .positional || parameter.kind = .positionalOnly then
    some parameters.length
  else none

namespace Value

/-- Nothing. -/
def null : Value := .data .null

/-- A text. -/
def text (value : String) : Value := .data (.text value)

/-- The name of the kind of a value. -/
def typeName : Value → String
  | .data value => value.typeName
  | .module _ => "module"
  | .given .. => "builtin_function_or_method"
  | .fault _ | .constructor .. => "type"
  | .record typeName _ | .member _ typeName _ | .object _ typeName _ => typeName
  | .list _ => "list"
  | .tuple _ => "tuple"
  | .map _ => "dict"
  | .exception _ kind _ => kind.name
  | .function .. => "function"

/-- Whether a value is known to be one that can be called. -/
def isCallable : Value → Bool
  | .given .. | .fault _ | .function .. | .constructor .. => true
  | .object _ _ parameters => parameters.isSome
  | _ => false

/-- How many arguments a value takes when it is called, if that is a fixed number of
positional ones. -/
def arity? : Value → Option Nat
  | .given _ parameters | .object _ _ parameters => parameters
  | .function _ _ parameters .. | .constructor _ _ parameters _ => positionalCount? parameters
  | _ => none

theorem isCallable_of_arity? {value : Value} {count : Nat} (takes : value.arity? = some count) :
    value.isCallable = true := by
  cases value <;> simp_all [arity?, isCallable]

/-- The place of a value in the memory. -/
def place? : Value → Option Nat
  | .list place | .tuple place | .map place | .exception place .. | .function place ..
  | .constructor place .. | .member place .. | .object place .. => some place
  | _ => none

/-- The integer that a value is as an index. -/
def index? : Value → Option Int
  | .data (.bool value) => some (if value then 1 else 0)
  | .data (.number (.whole value)) => some value
  | _ => none

end Value

/-- The number that a value is as the key of a map. -/
def number? : Json → Option Quantity
  | .bool value => some (.whole (if value then 1 else 0))
  | .number value => some value
  | _ => none

/-- Whether two numbers are the same key. -/
def isSameNumber : Quantity → Quantity → Bool
  | .whole left, right => right.compareInt? left = some .eq
  | left, .whole right => left.compareInt? right = some .eq
  | .float left, .float right => left = right || (left.isZero && right.isZero)

/-- Whether two scalars are the same key: a truth value and a number without a fraction count
as integers. -/
def isSameScalar (left right : Json) : Bool :=
  match number? left, number? right with
  | some left, some right => isSameNumber left right
  | none, none => left = right
  | _, _ => false

/-- Whether two values are the same key of a map: scalars by what they are, given values by
their names, and all others by their places. -/
def Value.isSame : Value → Value → Bool
  | .data left, .data right => isSameScalar left right
  | .module left, .module right => left = right
  | .given left parameters, .given right others => left = right && parameters = others
  | .fault left, .fault right => left = right
  | .record left fields, .record right others => left = right && fields = others
  | left, right => left.place?.isSome && left.place? = right.place?

end ServiceLevel.Source
