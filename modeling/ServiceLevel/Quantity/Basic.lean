import ServiceLevel.Number.Layout

/-!
# Quantities

A quantity of a definition is an integer without bound or a binary floating
point number.  The two kinds are compared exactly, and a quantity is written as
a literal in the notation of its kind.
-/

namespace ServiceLevel

/-- A number as definitions give it. -/
inductive Quantity where
  | whole (value : Int)
  | float (value : Binary64)
  deriving DecidableEq, Repr, Inhabited

namespace Quantity

/-- The decimal digits of an integer, with its sign. -/
def integerText (value : Int) : String :=
  String.ofList (Decimal.sign (value < 0) ++ Nat.toDigits 10 value.natAbs)

/-- The literal of a quantity: only floating point numbers have a point or an exponent. -/
def literal : Quantity → String
  | .whole value => integerText value
  | .float value => value.literal

/-- Whether a quantity is zero. -/
def isZero : Quantity → Bool
  | .whole value => value = 0
  | .float value => value.isZero

/-- How a quantity compares with an integer; nothing for not-a-number. -/
def compareInt? : Quantity → Int → Option Ordering
  | .whole value, bound => some (compare value bound)
  | .float value, bound => value.compareInt? bound

@[simp]
theorem isZero_whole (value : Int) : (whole value).isZero = decide (value = 0) := rfl

end Quantity

end ServiceLevel
