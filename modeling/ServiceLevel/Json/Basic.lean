import ServiceLevel.Quantity.Basic

/-!
# Documents

The values of JSON documents.  Objects keep the order of their fields, and
numbers remember whether they were written as integers.
-/

namespace ServiceLevel

/-- A value of a JSON document. -/
inductive Json where
  | null
  | bool (value : Bool)
  | number (value : Quantity)
  | text (value : String)
  | array (items : List Json)
  | object (fields : List (String × Json))
  deriving Repr, Inhabited

namespace Json

mutual

/-- Equality of documents is decided value by value. -/
def decideEq : (left right : Json) → Decidable (left = right)
  | .null, .null => isTrue rfl
  | .bool a, .bool b => decidable_of_iff (a = b) (by simp)
  | .number a, .number b => decidable_of_iff (a = b) (by simp)
  | .text a, .text b => decidable_of_iff (a = b) (by simp)
  | .array a, .array b =>
    match decideEqItems a b with
    | isTrue same => isTrue (by rw [same])
    | isFalse differ => isFalse (by simpa using differ)
  | .object a, .object b =>
    match decideEqFields a b with
    | isTrue same => isTrue (by rw [same])
    | isFalse differ => isFalse (by simpa using differ)
  | .null, .bool _ | .null, .number _ | .null, .text _ | .null, .array _ | .null, .object _
  | .bool _, .null | .bool _, .number _ | .bool _, .text _ | .bool _, .array _
  | .bool _, .object _
  | .number _, .null | .number _, .bool _ | .number _, .text _ | .number _, .array _
  | .number _, .object _
  | .text _, .null | .text _, .bool _ | .text _, .number _ | .text _, .array _
  | .text _, .object _
  | .array _, .null | .array _, .bool _ | .array _, .number _ | .array _, .text _
  | .array _, .object _
  | .object _, .null | .object _, .bool _ | .object _, .number _ | .object _, .text _
  | .object _, .array _ => isFalse (by simp)

/-- Equality of lists of documents. -/
def decideEqItems : (left right : List Json) → Decidable (left = right)
  | [], [] => isTrue rfl
  | [], _ :: _ => isFalse (by simp)
  | _ :: _, [] => isFalse (by simp)
  | a :: as, b :: bs =>
    match decideEq a b, decideEqItems as bs with
    | isTrue head, isTrue tail => isTrue (by rw [head, tail])
    | isFalse head, _ => isFalse (by simp [head])
    | _, isFalse tail => isFalse (by simp [tail])

/-- Equality of lists of fields. -/
def decideEqFields : (left right : List (String × Json)) → Decidable (left = right)
  | [], [] => isTrue rfl
  | [], _ :: _ => isFalse (by simp)
  | _ :: _, [] => isFalse (by simp)
  | (j, a) :: as, (k, b) :: bs =>
    if name : j = k then
      match decideEq a b, decideEqFields as bs with
      | isTrue head, isTrue tail => isTrue (by rw [name, head, tail])
      | isFalse head, _ => isFalse (by simp [head])
      | _, isFalse tail => isFalse (by simp [tail])
    else isFalse (by simp [name])

end

instance : DecidableEq Json := decideEq

instance : Coe String Json := ⟨.text⟩

/-- A document that is an integer. -/
def ofInt (value : Int) : Json :=
  .number (.whole value)

/-- The name of the kind of a value, as messages give it. -/
def typeName : Json → String
  | .null => "NoneType"
  | .bool _ => "bool"
  | .number (.whole _) => "int"
  | .number (.float _) => "float"
  | .text _ => "str"
  | .array _ => "list"
  | .object _ => "dict"

/-- Whether a value counts as given: neither null nor false, zero or empty. -/
def isGiven : Json → Bool
  | .null => false
  | .bool value => value
  | .number value => !value.isZero
  | .text value => !value.isEmpty
  | .array items => !items.isEmpty
  | .object fields => !fields.isEmpty

/-- The field of an object with the given name. -/
def field? (name : String) : Json → Option Json
  | .object fields => fields.lookup name
  | _ => none

/-- The text of a value that is one. -/
def text? : Json → Option String
  | .text value => some value
  | _ => none

@[simp]
theorem isGiven_null : Json.null.isGiven = false := rfl

@[simp]
theorem isGiven_text (value : String) : (Json.text value).isGiven = !value.isEmpty := rfl

@[simp]
theorem text?_text (value : String) : (Json.text value).text? = some value := rfl

end Json

end ServiceLevel
