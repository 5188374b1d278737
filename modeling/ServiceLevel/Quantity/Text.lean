import ServiceLevel.Failure

/-!
# Texts of quantities

The texts in which quantities stand in rules: the concise one in expressions,
the plain one in labels and the one with six places in plugin metadata.  An
integer beyond the floating point range has none of them.
-/

namespace ServiceLevel.Quantity

/-- The failure of an integer beyond the floating point range. -/
def beyondRange : Failure :=
  .fault .overflow "int too large to convert to float"

/-- The nearest floating point number of a quantity. -/
def toBinary64 : Quantity → Except Failure Binary64
  | .float value => .ok value
  | .whole value =>
    match Binary64.ofInt value with
    | .infinity _ => .error beyondRange
    | rounded => .ok rounded

/-- A quantity divided by a positive natural number, rounded once. -/
def divNat (quantity : Quantity) (divisor : Nat) : Except Failure Binary64 :=
  match quantity with
  | .float value => .ok (value.divNat divisor)
  | .whole value =>
    match Binary64.ofRatio (value < 0) value.natAbs divisor with
    | .infinity _ => .error (.fault .overflow "integer division result too large for a float")
    | rounded => .ok rounded

/-- The name of a number that is not finite, in plain notation. -/
def plainSpecial : Binary64 → String
  | .infinity true => "-Infinity"
  | .infinity false => "Infinity"
  | _ => "NaN"

/-- The concise text of a number: an exponent for very small or large magnitudes. -/
def conciseBinary64 (value : Binary64) : String :=
  if value.isZero then "0"
  else (value.shortest?.map Decimal.concise).elim value.specialName String.ofList

/-- The plain text of a number: never an exponent. -/
def plainBinary64 (value : Binary64) : String :=
  if value.isZero then "0"
  else (value.shortest?.map Decimal.plain).elim (plainSpecial value) String.ofList

/-- The concise text of a quantity. -/
def concise (quantity : Quantity) : Except Failure String := do
  let value ← quantity.toBinary64
  return conciseBinary64 value

/-- The plain text of a quantity. -/
def plain (quantity : Quantity) : Except Failure String := do
  let value ← quantity.toBinary64
  return plainBinary64 value

/-- The text with six decimal places. -/
def sixPlaces (quantity : Quantity) : Except Failure String := do
  let value ← quantity.toBinary64
  return value.sixPlaces

end ServiceLevel.Quantity
