import ServiceLevel.Duration.Basic
import ServiceLevel.Text.Digit

/-!
# Reading durations

The notation of durations is a sequence of counts with units, the units in
descending order and each at most once.  A count is a run of decimal digits of
any script.  The text `0` needs no unit, and one line break at the end is
ignored.
-/

namespace ServiceLevel.Duration

/-- The text without one final line break. -/
def dropLineEnd (text : List Char) : List Char :=
  match text.reverse with
  | '\n' :: rest => rest.reverse
  | _ => text

/-- Drop a symbol in front of a text. -/
def dropSymbol (symbol : List Char) (text : List Char) : Option (List Char) :=
  if symbol.isPrefixOf text then some (text.drop symbol.length) else none

/--
The counts of the given units in front of a text, each unit being optional, and
nothing behind them.
-/
def readParts : List DurationUnit → List Char → Option (List (List Char × DurationUnit))
  | [], text => if text.isEmpty then some [] else none
  | unit :: units, text =>
    let digits := text.takeWhile Text.isDigit
    let skipped := readParts units text
    if digits.isEmpty then skipped
    else
      match dropSymbol unit.symbol.toList (text.dropWhile Text.isDigit) with
      | none => skipped
      | some rest =>
        match readParts units rest with
        | some parts => some ((digits, unit) :: parts)
        | none => skipped

/-- The sum of counts of milliseconds; a count beyond the digit limit is a fault. -/
def total : List (List Char × DurationUnit) → Except Failure Nat
  | [] => .ok 0
  | (digits, unit) :: rest =>
    if Text.digitLimit < digits.length then
      .error (.fault .value (Failure.digitLimitMessage digits.length))
    else
      match total rest with
      | .error failure => .error failure
      | .ok sum => .ok (Text.digitsValue 0 digits * unit.milliseconds + sum)

/-- The failure of a text that is no duration. -/
def unreadable (text : String) : Failure :=
  .fault .value ("could not parse prom duration " ++ Text.quoted text)

/-- Read a duration. -/
def read (text : String) : Except Failure Duration :=
  if text = "0" then .ok zero
  else if text.isEmpty then .error (unreadable text)
  else
    match readParts units (dropLineEnd text.toList) with
    | none => .error (unreadable text)
    | some parts =>
      match total parts with
      | .error failure => .error failure
      | .ok sum => ofMicroseconds (sum * 1000)

/-- The failure of a value that should be a text. -/
def notText (value : Json) : Failure :=
  .fault .type ("expected string or bytes-like object, got '" ++ value.typeName ++ "'")

/-- Read a duration from a document, where it has to be a text. -/
def ofJson : Json → Except Failure Duration
  | .text text => read text
  | value => .error (notText value)

end ServiceLevel.Duration
