/-!
# Binary floating point numbers

The numbers of the 64-bit binary format, as exact values.  A finite number is
a significand below 2^53 times a power of two; `ofRatio` rounds a quotient of
natural numbers to the nearest of them, a quotient halfway between two going to
the one with the even significand.  Arithmetic goes through exact quotients and
rounds once.
-/

namespace ServiceLevel

/-- A number of the 64-bit binary floating point format. -/
inductive Binary64 where
  /-- Not a number. -/
  | nan
  /-- A number beyond the finite range. -/
  | infinity (negative : Bool)
  /-- The number `± significand * 2 ^ exponent`. -/
  | finite (negative : Bool) (significand : Nat) (exponent : Int)
  deriving DecidableEq, Repr, Inhabited

namespace Binary64

/-- The exponent of the smallest numbers. -/
def minExponent : Int := -1074

/-- The largest exponent. -/
def maxExponent : Int := 971

/-- The two zeros. -/
def zero (negative : Bool) : Binary64 := .finite negative 0 0

/-- A quotient scaled by a power of two, as numerator and denominator. -/
def scaleRatio (num den : Nat) (shift : Int) : Nat × Nat :=
  if shift < 0 then (num, den * Nat.pow 2 shift.natAbs) else (num * Nat.pow 2 shift.natAbs, den)

/-- The nearest natural number of a quotient, halves going to the even neighbour. -/
def roundHalfEven (num den : Nat) : Nat :=
  let low := num / den
  let double := 2 * (num % den)
  if double < den then low
  else if double > den then low + 1
  else if low % 2 = 0 then low else low + 1

/-- The greatest power of two, as an exponent, that a positive quotient reaches. -/
def floorLog2 (num den : Nat) : Int :=
  let guess : Int := num.log2 - den.log2
  let scaled := scaleRatio num den (-guess)
  if scaled.1 < scaled.2 then guess - 1 else guess

/-- The number nearest to a quotient of natural numbers; too large a quotient is infinite. -/
def ofRatio (negative : Bool) (num den : Nat) : Binary64 :=
  if num = 0 || den = 0 then zero negative
  else
    let exponent := max (floorLog2 num den - 52) minExponent
    let scaled := scaleRatio num den (-exponent)
    let significand := roundHalfEven scaled.1 scaled.2
    let carried := significand = Nat.pow 2 53
    let significand := if carried then Nat.pow 2 52 else significand
    let exponent := if carried then exponent + 1 else exponent
    if exponent > maxExponent then .infinity negative
    else if significand = 0 then zero negative
    else .finite negative significand exponent

/-- The number nearest to an integer. -/
def ofInt (value : Int) : Binary64 :=
  ofRatio (value < 0) value.natAbs 1

/--
The number nearest to `digits * 10 ^ exponent`.  Exponents far outside the
range are decided without computing the power.
-/
def ofDecimal (negative : Bool) (digits : Nat) (exponent : Int) : Binary64 :=
  let width : Int := (digits.log2 / 3 : Nat) + 1
  if digits = 0 then zero negative
  else if exponent > 400 then .infinity negative
  else if exponent + width < -400 then zero negative
  else if exponent < 0 then ofRatio negative digits (Nat.pow 10 exponent.natAbs)
  else ofRatio negative (digits * Nat.pow 10 exponent.natAbs) 1

/-- Whether a number is zero, of either sign. -/
def isZero : Binary64 → Bool
  | .finite _ 0 _ => true
  | _ => false

/-- Whether a number is finite. -/
def isFinite : Binary64 → Bool
  | .finite .. => true
  | _ => false

/-- A number divided by a positive natural number. -/
def divNat (x : Binary64) (divisor : Nat) : Binary64 :=
  match x with
  | .finite negative significand exponent =>
    let scaled := scaleRatio significand divisor exponent
    ofRatio negative scaled.1 scaled.2
  | other => other

/-- A finite number without its fraction, rounded towards zero. -/
def truncate? : Binary64 → Option Int
  | .finite negative significand exponent =>
    let scaled := scaleRatio significand 1 exponent
    let magnitude : Int := (scaled.1 / scaled.2 : Nat)
    some (if negative then -magnitude else magnitude)
  | _ => none

/-- How a number compares with an integer; nothing for not-a-number. -/
def compareInt? (x : Binary64) (bound : Int) : Option Ordering :=
  match x with
  | .nan => none
  | .infinity negative => some (if negative then .lt else .gt)
  | .finite negative significand exponent =>
    let scaled := scaleRatio significand 1 exponent
    let num : Int := if negative then -(scaled.1 : Int) else scaled.1
    some (compare num (bound * scaled.2))

@[simp]
theorem isZero_zero (negative : Bool) : (zero negative).isZero = true := rfl

@[simp]
theorem ofRatio_zero_left (negative : Bool) (den : Nat) :
    ofRatio negative 0 den = zero negative := by
  simp [ofRatio]

end Binary64

end ServiceLevel
