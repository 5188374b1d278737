import ServiceLevel.Entries
import ServiceLevel.Json.Basic
import ServiceLevel.Text.Digit

/-!
# Reading documents

The reader of JSON documents.  It is strict: no trailing comma, no raw control
character inside a string, nothing after the document.  Beyond the standard it
reads the names of the numbers that are not finite, keeps the last of several
fields of one name, and skips one byte order mark in front.  A number without
fraction and exponent is an integer of any size within the digit limit.
-/

namespace ServiceLevel.Json

/-- Why a text is not read. -/
inductive ReadError where
  /-- The text is not a document. -/
  | malformed
  /-- An integer has more digits than are read. -/
  | tooManyDigits (count : Nat)
  deriving DecidableEq, Repr

/-- Whether a character may stand between the parts of a document. -/
def isGap (c : Char) : Bool :=
  c = ' ' || c = '\t' || c = '\n' || c = '\r'

/-- The text behind the gap in front. -/
def skipGap (text : List Char) : List Char :=
  text.dropWhile isGap

/-- The value of a hexadecimal digit. -/
def hexValue? (c : Char) : Option Nat :=
  let code := c.toNat
  if 48 ≤ code && code ≤ 57 then some (code - 48)
  else if 97 ≤ code && code ≤ 102 then some (code - 87)
  else if 65 ≤ code && code ≤ 70 then some (code - 55)
  else none

/-- Four hexadecimal digits and the text behind them. -/
def readUnit : List Char → Option (Nat × List Char)
  | a :: b :: c :: d :: rest => do
    let a ← hexValue? a
    let b ← hexValue? b
    let c ← hexValue? c
    let d ← hexValue? d
    return (((a * 16 + b) * 16 + c) * 16 + d, rest)
  | _ => none

/-- Two units of a surrogate pair as a code point. -/
def joinUnits (high low : Nat) : Nat :=
  65536 + (high - 55296) * 1024 + (low - 56320)

/-- The character of a unit; a unit of a broken pair has none and is replaced. -/
def unitChar (unit : Nat) : Char :=
  if 55296 ≤ unit && unit ≤ 57343 then Char.ofNat 65533 else Char.ofNat unit

/-- The character behind a backslash and a letter. -/
def simpleEscape? : Char → Option Char
  | '"' => some '"'
  | '\\' => some '\\'
  | '/' => some '/'
  | 'b' => some '\x08'
  | 'f' => some '\x0c'
  | 'n' => some '\n'
  | 'r' => some '\r'
  | 't' => some '\t'
  | _ => none

/-- The rest of a string, up to its closing mark; `done` is what was read so far, reversed. -/
def readString : Nat → List Char → List Char → Except ReadError (String × List Char)
  | 0, _, _ => .error .malformed
  | _ + 1, _, [] => .error .malformed
  | fuel + 1, done, c :: rest =>
    if c = '"' then .ok (String.ofList done.reverse, rest)
    else if c = '\\' then
      match rest with
      | 'u' :: rest =>
        match readUnit rest with
        | none => .error .malformed
        | some (unit, rest) =>
          if 55296 ≤ unit && unit ≤ 56319 then
            match rest with
            | '\\' :: 'u' :: low =>
              match readUnit low with
              | none => .error .malformed
              | some (second, behind) =>
                if 56320 ≤ second && second ≤ 57343 then
                  readString fuel (Char.ofNat (joinUnits unit second) :: done) behind
                else readString fuel (unitChar unit :: done) rest
            | _ => readString fuel (unitChar unit :: done) rest
          else readString fuel (unitChar unit :: done) rest
      | letter :: rest =>
        match simpleEscape? letter with
        | some escaped => readString fuel (escaped :: done) rest
        | none => .error .malformed
      | [] => .error .malformed
    else if c.toNat < 32 then .error .malformed
    else readString fuel (c :: done) rest

/-- The digits in front of a text and the text behind them. -/
def spanDigits (text : List Char) : List Char × List Char :=
  (text.takeWhile Char.isDigit, text.dropWhile Char.isDigit)

/-- The fraction digits in front of a text, if there is a fraction. -/
def readFraction (text : List Char) : Option (List Char × List Char) :=
  match text with
  | '.' :: rest =>
    let (digits, rest) := spanDigits rest
    if digits.isEmpty then none else some (digits, rest)
  | _ => none

/-- The exponent in front of a text, if there is one. -/
def readExponent (text : List Char) : Option (Int × List Char) :=
  match text with
  | mark :: rest =>
    if mark = 'e' || mark = 'E' then
      let (negative, rest) :=
        match rest with
        | '-' :: rest => (true, rest)
        | '+' :: rest => (false, rest)
        | _ => (false, rest)
      let (digits, rest) := spanDigits rest
      if digits.isEmpty then none
      else
        let size := (Text.digitsValue 0 digits : Int)
        some (if negative then -size else size, rest)
    else none
  | [] => none

/-- A number; `negative` says that a minus sign stood in front. -/
def readNumber (negative : Bool) (text : List Char) : Except ReadError (Json × List Char) :=
  let (digits, rest) :=
    match text with
    | '0' :: rest => (['0'], rest)
    | _ => spanDigits text
  if digits.isEmpty then .error .malformed
  else
    match readFraction rest, readExponent ((readFraction rest).elim rest Prod.snd) with
    | none, none =>
      if Text.digitLimit < digits.length then .error (.tooManyDigits digits.length)
      else
        let size := (Text.digitsValue 0 digits : Int)
        .ok (ofInt (if negative then -size else size), rest)
    | fraction, exponent =>
      let (places, rest) := fraction.getD ([], rest)
      let (power, rest) := exponent.getD (0, rest)
      let value := Text.digitsValue 0 (digits ++ places)
      .ok (.number (.float (Binary64.ofDecimal negative value (power - places.length))), rest)

/-- A word in front of a text. -/
def dropWord (word : String) (text : List Char) : Option (List Char) :=
  if word.toList.isPrefixOf text then some (text.drop word.length) else none

/-- A value that is a word or a number. -/
def readScalar (text : List Char) : Except ReadError (Json × List Char) :=
  if let some rest := dropWord "null" text then .ok (.null, rest)
  else if let some rest := dropWord "true" text then .ok (.bool true, rest)
  else if let some rest := dropWord "false" text then .ok (.bool false, rest)
  else if let some rest := dropWord "NaN" text then .ok (.number (.float .nan), rest)
  else if let some rest := dropWord "Infinity" text then
    .ok (.number (.float (.infinity false)), rest)
  else if let some rest := dropWord "-Infinity" text then
    .ok (.number (.float (.infinity true)), rest)
  else
    match text with
    | '-' :: rest => readNumber true rest
    | _ => readNumber false text

mutual

/-- A value.  The fuel bounds the nesting and the number of parts. -/
def readValue : Nat → List Char → Except ReadError (Json × List Char)
  | 0, _ => .error .malformed
  | fuel + 1, source =>
    match source with
    | '"' :: rest => do
      let (value, rest) ← readString (rest.length + 1) [] rest
      return (.text value, rest)
    | '[' :: rest =>
      match skipGap rest with
      | ']' :: rest => .ok (.array [], rest)
      | rest => do
        let (items, rest) ← readItems fuel rest
        return (.array items, rest)
    | '\x7b' :: rest =>
      match skipGap rest with
      | '\x7d' :: rest => .ok (.object [], rest)
      | rest => do
        let (fields, rest) ← readFields fuel rest
        return (.object (Entries.ofList fields).pairs, rest)
    | _ => readScalar source

/-- The items of an array and its closing bracket. -/
def readItems : Nat → List Char → Except ReadError (List Json × List Char)
  | 0, _ => .error .malformed
  | fuel + 1, source => do
    let (item, rest) ← readValue fuel source
    match skipGap rest with
    | ',' :: rest =>
      let (items, rest) ← readItems fuel (skipGap rest)
      return (item :: items, rest)
    | ']' :: rest => return ([item], rest)
    | _ => .error .malformed

/-- The fields of an object and its closing bracket. -/
def readFields : Nat → List Char → Except ReadError (List (String × Json) × List Char)
  | 0, _ => .error .malformed
  | fuel + 1, source =>
    match source with
    | '"' :: rest => do
      let (name, rest) ← readString (rest.length + 1) [] rest
      match skipGap rest with
      | ':' :: rest =>
        let (value, rest) ← readValue fuel (skipGap rest)
        match skipGap rest with
        | ',' :: rest =>
          let (fields, rest) ← readFields fuel (skipGap rest)
          return ((name, value) :: fields, rest)
        | '\x7d' :: rest => return ([(name, value)], rest)
        | _ => .error .malformed
      | _ => .error .malformed
    | _ => .error .malformed

end

/-- Read a whole text as one document. -/
def read (text : String) : Except ReadError Json :=
  let chars :=
    match text.toList with
    | c :: rest => if c.toNat = 65279 then rest else c :: rest
    | [] => []
  match readValue (chars.length + 1) (skipGap chars) with
  | .ok (value, rest) => if (skipGap rest).isEmpty then .ok value else .error .malformed
  | .error problem => .error problem

end ServiceLevel.Json
