import ServiceLevel.Json.Writer
import ServiceLevel.Failure
import ServiceLevel.Text.Digit

/-!
# Plugin settings

The config of a plugin in a chain.  It comes from a config file or from a
program, so beside the values of documents it may hold values that have no
written form, maps whose names are not texts, and a list that holds itself.
Some values without a written form cannot be copied either.  Plugins receive the
written form of their config.
-/

namespace ServiceLevel

/-- The name of an entry of a map. -/
inductive SettingKey where
  | null
  | bool (value : Bool)
  | number (value : Quantity)
  | text (value : String)
  | tuple
  deriving DecidableEq, Repr

/-- A value of a config. -/
inductive Setting where
  | null
  | bool (value : Bool)
  | number (value : Quantity)
  | text (value : String)
  | array (items : List Setting)
  | map (entries : List (SettingKey × Setting))
  /-- A value of a kind that has no written form, and what becomes of copying it if that fails. -/
  | foreign (kind : String) (copyFailure : Option Failure := none)
  /-- A list that holds itself. -/
  | circular
  deriving Repr, Inhabited

namespace Setting

mutual

/-- Whether two configs are the same. -/
def isSame : (left right : Setting) → Bool
  | .null, .null | .circular, .circular => true
  | .bool left, .bool right => left = right
  | .number left, .number right => left = right
  | .text left, .text right => left = right
  | .array left, .array right => areSame left right
  | .map left, .map right => haveSame left right
  | .foreign left failure, .foreign right other => left = right && failure = other
  | _, _ => false

/-- Whether two lists of configs are the same. -/
def areSame : (left right : List Setting) → Bool
  | [], [] => true
  | first :: left, other :: right => isSame first other && areSame left right
  | _, _ => false

/-- Whether two lists of entries are the same. -/
def haveSame : (left right : List (SettingKey × Setting)) → Bool
  | [], [] => true
  | (key, first) :: left, (name, other) :: right =>
    key = name && isSame first other && haveSame left right
  | _, _ => false

end

mutual

theorem isSame_iff : (left right : Setting) → (left.isSame right ↔ left = right)
  | .array items, right => by
    cases right <;> simp [isSame, areSame_iff items]
  | .map entries, right => by
    cases right <;> simp [isSame, haveSame_iff entries]
  | .null, right | .bool _, right | .number _, right | .text _, right
  | .foreign .., right | .circular, right => by
    cases right <;> simp [isSame]

theorem areSame_iff : (left right : List Setting) → (areSame left right ↔ left = right)
  | [], right => by cases right <;> simp [areSame]
  | first :: left, right => by
    cases right <;> simp [areSame, isSame_iff first, areSame_iff left]

theorem haveSame_iff :
    (left right : List (SettingKey × Setting)) → (haveSame left right ↔ left = right)
  | [], right => by cases right <;> simp [haveSame]
  | (key, first) :: left, right => by
    cases right <;> simp [haveSame, isSame_iff first, haveSame_iff left, Prod.ext_iff]

end

instance : DecidableEq Setting := fun left right =>
  decidable_of_iff (left.isSame right) (isSame_iff left right)

end Setting

/-- The written form of a number.  An integer with too many digits has none. -/
def Setting.writeNumber : Quantity → Except Failure String
  | .whole value =>
    if Text.digitLimit < (Nat.toDigits 10 value.natAbs).length then
      .error (.fault .value Failure.unwrittenDigitsMessage)
    else .ok (Json.writeNumber (.whole value))
  | .float value => .ok (Json.writeNumber (.float value))

namespace SettingKey

/-- The written name of an entry; a tuple has none. -/
def write : SettingKey → Except Failure String
  | .null => .ok "null"
  | .bool true => .ok "true"
  | .bool false => .ok "false"
  | .number value => Setting.writeNumber value
  | .text value => .ok value
  | .tuple =>
    .error (.fault .type "keys must be str, int, float, bool or None, not tuple")

end SettingKey

namespace Setting

mutual

/-- The written form of a config, if all its values have one. -/
def write : Setting → Except Failure String
  | .null => .ok "null"
  | .bool true => .ok "true"
  | .bool false => .ok "false"
  | .number value => writeNumber value
  | .text value => .ok (Json.writeText value)
  | .array items => do
    let parts ← writeItems items
    return "[" ++ ", ".intercalate parts ++ "]"
  | .map entries => do
    let parts ← writeEntries entries
    return "\x7b" ++ ", ".intercalate parts ++ "\x7d"
  | .foreign kind _ =>
    .error (.fault .type ("Object of type " ++ kind ++ " is not JSON serializable"))
  | .circular => .error (.fault .value "Circular reference detected")

/-- The written items of a list. -/
def writeItems : List Setting → Except Failure (List String)
  | [] => .ok []
  | item :: rest => do
    let part ← write item
    let parts ← writeItems rest
    return part :: parts

/-- The written entries of a map. -/
def writeEntries : List (SettingKey × Setting) → Except Failure (List String)
  | [] => .ok []
  | (key, value) :: rest => do
    let name ← key.write
    let part ← write value
    let parts ← writeEntries rest
    return (Json.writeText name ++ ": " ++ part) :: parts

end

mutual

/-- The failure of copying a config: that of the first value in it that cannot be copied. -/
def copyFailure? : Setting → Option Failure
  | .null | .bool _ | .number _ | .text _ | .circular => none
  | .array items => copyItemsFailure? items
  | .map entries => copyEntriesFailure? entries
  | .foreign _ failure => failure

/-- The failure of copying the items of a list. -/
def copyItemsFailure? : List Setting → Option Failure
  | [] => none
  | item :: rest => (copyFailure? item).or (copyItemsFailure? rest)

/-- The failure of copying the entries of a map. -/
def copyEntriesFailure? : List (SettingKey × Setting) → Option Failure
  | [] => none
  | (_, value) :: rest => (copyFailure? value).or (copyEntriesFailure? rest)

end

mutual

/-- The config of a document. -/
def ofJson : Json → Setting
  | .null => .null
  | .bool value => .bool value
  | .number value => .number value
  | .text value => .text value
  | .array items => .array (ofItems items)
  | .object fields => .map (ofFields fields)

/-- The configs of the items of a list. -/
def ofItems : List Json → List Setting
  | [] => []
  | item :: rest => ofJson item :: ofItems rest

/-- The configs of the fields of an object. -/
def ofFields : List (String × Json) → List (SettingKey × Setting)
  | [] => []
  | (name, value) :: rest => (.text name, ofJson value) :: ofFields rest

end

mutual

/-- The document of a config, if it can stand in one. -/
def toJson? : Setting → Option Json
  | .null => some .null
  | .bool value => some (.bool value)
  | .number value => some (.number value)
  | .text value => some (.text value)
  | .array items => (toItems? items).map .array
  | .map entries => (toFields? entries).map .object
  | .foreign _ _ | .circular => none

/-- The documents of the items of a list. -/
def toItems? : List Setting → Option (List Json)
  | [] => some []
  | item :: rest =>
    match toJson? item, toItems? rest with
    | some value, some values => some (value :: values)
    | _, _ => none

/-- The fields of the entries of a map. -/
def toFields? : List (SettingKey × Setting) → Option (List (String × Json))
  | [] => some []
  | (.text name, item) :: rest =>
    match toJson? item, toFields? rest with
    | some value, some values => some ((name, value) :: values)
    | _, _ => none
  | _ :: _ => none

end

mutual

/-- What has a written form can be copied. -/
theorem copyFailure?_of_write :
    (config : Setting) → {text : String} → write config = .ok text → copyFailure? config = none
  | .null, _, _ | .bool _, _, _ | .number _, _, _ | .text _, _, _ | .circular, _, _ => by
      rw [copyFailure?]
  | .array items, _, written => by
      rw [write] at written
      cases parts : writeItems items with
      | error failure =>
          rw [parts] at written
          cases written
      | ok texts => rw [copyFailure?, copyItemsFailure?_of_writeItems items parts]
  | .map entries, _, written => by
      rw [write] at written
      cases parts : writeEntries entries with
      | error failure =>
          rw [parts] at written
          cases written
      | ok texts => rw [copyFailure?, copyEntriesFailure?_of_writeEntries entries parts]
  | .foreign _ _, _, written => by
      rw [write] at written
      cases written

theorem copyItemsFailure?_of_writeItems :
    (items : List Setting) → {texts : List String} → writeItems items = .ok texts →
      copyItemsFailure? items = none
  | [], _, _ => by rw [copyItemsFailure?]
  | item :: rest, _, written => by
      rw [writeItems] at written
      cases first : write item with
      | error failure =>
          rw [first] at written
          cases written
      | ok text =>
          cases others : writeItems rest with
          | error failure =>
              rw [first, others] at written
              cases written
          | ok texts =>
              rw [copyItemsFailure?, copyFailure?_of_write item first,
                copyItemsFailure?_of_writeItems rest others]
              rfl

theorem copyEntriesFailure?_of_writeEntries :
    (entries : List (SettingKey × Setting)) → {texts : List String} →
      writeEntries entries = .ok texts → copyEntriesFailure? entries = none
  | [], _, _ => by rw [copyEntriesFailure?]
  | (key, value) :: rest, _, written => by
      rw [writeEntries] at written
      cases name : key.write with
      | error failure =>
          rw [name] at written
          cases written
      | ok keyText =>
          cases first : write value with
          | error failure =>
              rw [name, first] at written
              cases written
          | ok text =>
              cases others : writeEntries rest with
              | error failure =>
                  rw [name, first, others] at written
                  cases written
              | ok texts =>
                  rw [copyEntriesFailure?, copyFailure?_of_write value first,
                    copyEntriesFailure?_of_writeEntries rest others]
                  rfl

end

mutual

theorem toJson?_ofJson : (data : Json) → toJson? (ofJson data) = some data
  | .null | .bool _ | .number _ | .text _ => by simp [ofJson, toJson?]
  | .array items => by simp [ofJson, toJson?, toItems?_ofItems items]
  | .object fields => by simp [ofJson, toJson?, toFields?_ofFields fields]

theorem toItems?_ofItems : (items : List Json) → toItems? (ofItems items) = some items
  | [] => by simp [ofItems, toItems?]
  | item :: rest => by simp [ofItems, toItems?, toJson?_ofJson item, toItems?_ofItems rest]

theorem toFields?_ofFields :
    (fields : List (String × Json)) → toFields? (ofFields fields) = some fields
  | [] => by simp [ofFields, toFields?]
  | (_, value) :: rest => by
    simp [ofFields, toFields?, toJson?_ofJson value, toFields?_ofFields rest]

end

end Setting

end ServiceLevel
