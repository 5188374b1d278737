import ServiceLevel.Json.Basic
import ServiceLevel.Text.Quoted

/-!
# Documents in messages

How a value is shown inside a message: a text is shown as it is at the top and
between quotation marks inside a container; numbers are literals; the other
values have names.
-/

namespace ServiceLevel.Json

mutual

/-- A value with its texts between quotation marks. -/
def shown : Json → String
  | .null => "None"
  | .bool true => "True"
  | .bool false => "False"
  | .number value => value.literal
  | .text value => Text.quoted value
  | .array items => "[" ++ ", ".intercalate (shownItems items) ++ "]"
  | .object fields => "\x7b" ++ ", ".intercalate (shownFields fields) ++ "\x7d"

/-- The values of a list with their texts between quotation marks. -/
def shownItems : List Json → List String
  | [] => []
  | item :: rest => shown item :: shownItems rest

/-- The fields of an object, each name between quotation marks. -/
def shownFields : List (String × Json) → List String
  | [] => []
  | (name, value) :: rest => (Text.quoted name ++ ": " ++ shown value) :: shownFields rest

end

/-- A value in a message: a text is shown without quotation marks. -/
def display : Json → String
  | .text value => value
  | other => shown other

@[simp]
theorem display_text (value : String) : (Json.text value).display = value := rfl

end ServiceLevel.Json
