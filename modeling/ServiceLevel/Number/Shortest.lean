import ServiceLevel.Number.Binary64

/-!
# Shortest decimals

The shortest decimal of a finite number is the one with the fewest digits
among the decimals that round back to it, and the nearest of those.  The
decimals that round back form an interval around the number, its ends included
when the significand is even.  For each count of digits only the two
neighbours of the number on that decimal grid have to be tried.
-/

namespace ServiceLevel

/-- The decimal `± digits * 10 ^ exponent`, with no factor of ten left in the digits. -/
structure Decimal where
  negative : Bool
  digits : Nat
  exponent : Int
  deriving DecidableEq, Repr, Inhabited

namespace Decimal

/-- Remove at most `fuel` trailing zeros of the digits. -/
def stripZeros : Nat → Nat → Int → Nat × Int
  | 0, digits, exponent => (digits, exponent)
  | fuel + 1, digits, exponent =>
    if digits ≠ 0 && digits % 10 = 0 then stripZeros fuel (digits / 10) (exponent + 1)
    else (digits, exponent)

/-- The decimal of the given value with no trailing zero in its digits. -/
def ofDigits (negative : Bool) (digits : Nat) (exponent : Int) : Decimal :=
  let stripped := stripZeros digits digits exponent
  ⟨negative, stripped.1, stripped.2⟩

/-- The digits as characters, first digit first. -/
def digitChars (decimal : Decimal) : List Char :=
  Nat.toDigits 10 decimal.digits

/-- The exponent of the first digit. -/
def leading (decimal : Decimal) : Int :=
  decimal.exponent + decimal.digitChars.length - 1

end Decimal

namespace Binary64

/--
The numbers that round to a given one: all are quotients over the common
denominator, which makes the bounds integers.
-/
structure RoundingInterval where
  low : Nat
  value : Nat
  high : Nat
  den : Nat
  closed : Bool
  deriving DecidableEq, Repr

namespace RoundingInterval

/-- Whether `digits * 10 ^ exponent` rounds back. -/
def holds (interval : RoundingInterval) (digits : Nat) (exponent : Int) : Bool :=
  let num := if exponent < 0 then digits else digits * Nat.pow 10 exponent.natAbs
  let scale := if exponent < 0 then Nat.pow 10 exponent.natAbs else 1
  let scaled := num * interval.den
  let low := interval.low * scale
  let high := interval.high * scale
  if interval.closed then low ≤ scaled && scaled ≤ high else low < scaled && scaled < high

/-- The value on the grid of multiples of `10 ^ exponent`: floor, remainder and grid step. -/
def onGrid (interval : RoundingInterval) (exponent : Int) : Nat × Nat × Nat :=
  let num := if exponent < 0 then interval.value * Nat.pow 10 exponent.natAbs else interval.value
  let step := if exponent < 0 then interval.den else interval.den * Nat.pow 10 exponent.natAbs
  (num / step, num % step, step)

/-- The nearest grid point that rounds back, an exact tie going to the even digit. -/
def hit? (interval : RoundingInterval) (exponent : Int) : Option Nat :=
  let (floor, rest, step) := interval.onGrid exponent
  let below := interval.holds floor exponent
  let above := interval.holds (floor + 1) exponent
  if below && above then
    if 2 * rest < step then some floor
    else if 2 * rest > step then some (floor + 1)
    else if floor % 2 = 0 then some floor else some (floor + 1)
  else if below then some floor
  else if above then some (floor + 1)
  else none

/-- The first grid with a hit, starting at `exponent` and refining at most `count` times. -/
def search (interval : RoundingInterval) : Nat → Int → Option (Nat × Int)
  | 0, _ => none
  | count + 1, exponent =>
    match interval.hit? exponent with
    | some digits => some (digits, exponent)
    | none => search interval count (exponent - 1)

end RoundingInterval

/-- The numbers that round to the finite number `significand * 2 ^ exponent`. -/
def roundingInterval (significand : Nat) (exponent : Int) : RoundingInterval :=
  let lowStep := if significand = Nat.pow 2 52 && exponent > minExponent then 1 else 2
  let shift := exponent - 2
  let scale := if shift < 0 then 1 else Nat.pow 2 shift.natAbs
  { low := (4 * significand - lowStep) * scale
    value := 4 * significand * scale
    high := (4 * significand + 2) * scale
    den := if shift < 0 then Nat.pow 2 shift.natAbs else 1
    closed := significand % 2 = 0 }

/-- The exponent of the first decimal digit of a positive quotient. -/
def floorLog10 (num den : Nat) : Int :=
  if den ≤ num then ((Nat.toDigits 10 (num / den)).length : Int) - 1
  else
    let guess := (Nat.toDigits 10 (den / num)).length
    if den ≤ num * Nat.pow 10 (guess - 1) then -((guess : Int) - 1) else -(guess : Int)

/-- The shortest decimal of a finite number that is not zero. -/
def shortest? : Binary64 → Option Decimal
  | .finite negative significand exponent =>
    let interval := roundingInterval significand exponent
    let start := floorLog10 interval.value interval.den
    (interval.search 17 start).map fun (digits, place) =>
      Decimal.ofDigits negative digits place
  | _ => none

end Binary64

end ServiceLevel
