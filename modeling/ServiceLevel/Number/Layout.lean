import ServiceLevel.Number.Shortest

/-!
# Layouts of decimals

Three ways of writing the shortest decimal of a number.  The plain layout never
uses an exponent.  The concise layout switches to an exponent when the first
digit stands at 10^6 or above, or below 10^-4.  The literal layout always shows
that the number is a floating point one, and keeps positional notation up to
10^16.
-/

namespace ServiceLevel

namespace Decimal

/-- The sign of a decimal as text. -/
def sign (negative : Bool) : List Char :=
  if negative then ['-'] else []

/-- Digits with a point such that the last of them stands at `10 ^ exponent`. -/
def positional (digits : List Char) (exponent : Int) : List Char :=
  if 0 ≤ exponent then digits ++ List.replicate exponent.natAbs '0'
  else
    let places := exponent.natAbs
    if places < digits.length then
      digits.take (digits.length - places) ++ '.' :: digits.drop (digits.length - places)
    else
      '0' :: '.' :: (List.replicate (places - digits.length) '0' ++ digits)

/-- An exponent with its sign and at least two digits. -/
def exponentText (exponent : Int) : List Char :=
  let digits := Nat.toDigits 10 exponent.natAbs
  (if exponent < 0 then '-' else '+') ::
    (List.replicate (2 - digits.length) '0' ++ digits)

/-- Digits with a point after the first one, and an exponent. -/
def scientific (digits : List Char) (leading : Int) : List Char :=
  let mantissa :=
    match digits with
    | first :: second :: rest => first :: '.' :: second :: rest
    | few => few
  mantissa ++ 'e' :: exponentText leading

/-- Plain decimal notation. -/
def plain (decimal : Decimal) : List Char :=
  sign decimal.negative ++ positional decimal.digitChars decimal.exponent

/-- Plain notation in the middle range, scientific notation outside. -/
def concise (decimal : Decimal) : List Char :=
  if decimal.leading < -4 || 6 ≤ decimal.leading then
    sign decimal.negative ++ scientific decimal.digitChars decimal.leading
  else plain decimal

/-- The notation of floating point literals: always a point or an exponent. -/
def literal (decimal : Decimal) : List Char :=
  if decimal.leading < -4 || 16 ≤ decimal.leading then
    sign decimal.negative ++ scientific decimal.digitChars decimal.leading
  else
    plain decimal ++ (if 0 ≤ decimal.exponent then ['.', '0'] else [])

end Decimal

namespace Binary64

/-- The name of a number that is not finite, in lower case. -/
def specialName : Binary64 → String
  | .infinity true => "-inf"
  | .infinity false => "inf"
  | _ => "nan"

/-- The text of a number as a floating point literal. -/
def literal (x : Binary64) : String :=
  match x with
  | .finite negative significand _ =>
    if significand = 0 then if negative then "-0.0" else "0.0"
    else ((x.shortest?.map Decimal.literal).elim "" String.ofList)
  | other => other.specialName

/-- A number with six decimal places, the last one rounded half to even. -/
def sixPlaces (x : Binary64) : String :=
  match x with
  | .finite negative significand exponent =>
    let scaled := scaleRatio (significand * Nat.pow 10 6) 1 exponent
    let rounded := roundHalfEven scaled.1 scaled.2
    let digits := Nat.toDigits 10 rounded
    let padded := List.replicate (7 - digits.length) '0' ++ digits
    String.ofList (Decimal.sign negative ++ Decimal.positional padded (-6))
  | other => other.specialName

end Binary64

end ServiceLevel
