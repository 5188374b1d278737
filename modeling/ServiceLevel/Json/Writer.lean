import ServiceLevel.Json.Basic
import ServiceLevel.Text.Quoted

/-!
# Written documents

The written form of a document uses ASCII only: control characters and
characters beyond ASCII are escapes of four hexadecimal digits, those beyond the
first plane two such escapes.  Items are separated by a comma and a blank.
-/

namespace ServiceLevel.Json

/-- An escape of four hexadecimal digits. -/
def unitEscape (unit : Nat) : List Char :=
  '\\' :: 'u' :: Text.hexDigits 4 unit

/-- How one character is written inside a string. -/
def escapeChar (c : Char) : List Char :=
  if c = '"' then ['\\', '"']
  else if c = '\\' then ['\\', '\\']
  else if c = '\n' then ['\\', 'n']
  else if c = '\r' then ['\\', 'r']
  else if c = '\t' then ['\\', 't']
  else if c = '\x08' then ['\\', 'b']
  else if c = '\x0c' then ['\\', 'f']
  else if 32 ≤ c.toNat && c.toNat < 127 then [c]
  else if c.toNat < 65536 then unitEscape c.toNat
  else
    let offset := c.toNat - 65536
    unitEscape (55296 + offset / 1024) ++ unitEscape (56320 + offset % 1024)

/-- A written string with its quotation marks. -/
def writeText (value : String) : String :=
  String.ofList ('"' :: value.toList.flatMap escapeChar ++ ['"'])

/-- A written number; the numbers that are not finite have names. -/
def writeNumber : Quantity → String
  | .whole value => Quantity.integerText value
  | .float .nan => "NaN"
  | .float (.infinity false) => "Infinity"
  | .float (.infinity true) => "-Infinity"
  | .float value => value.literal

mutual

/-- The written form of a document. -/
def write : Json → String
  | .null => "null"
  | .bool true => "true"
  | .bool false => "false"
  | .number value => writeNumber value
  | .text value => writeText value
  | .array items => "[" ++ ", ".intercalate (writeItems items) ++ "]"
  | .object fields => "\x7b" ++ ", ".intercalate (writeFields fields) ++ "\x7d"

/-- The written items of an array. -/
def writeItems : List Json → List String
  | [] => []
  | item :: rest => write item :: writeItems rest

/-- The written fields of an object. -/
def writeFields : List (String × Json) → List String
  | [] => []
  | (name, value) :: rest => (writeText name ++ ": " ++ write value) :: writeFields rest

end

end ServiceLevel.Json
