import Mathlib.Tactic.SplitIfs
import ServiceLevel.Duration.Basic
import ServiceLevel.Proofs.Attempt
import ServiceLevel.Quantity.Text

/-!
# Quantities and durations that have texts

A floating point number always has a text, and so have an integer that does not come near
the end of the floating point range and a duration that is not negative.
-/

namespace ServiceLevel

namespace Binary64

theorem floorLog2_le (num den : Nat) : floorLog2 num den ≤ num.log2 := by
  have guess : (num.log2 : Int) - den.log2 ≤ num.log2 := by
    omega
  rw [floorLog2]
  split
  · omega
  · exact guess

/-- A quotient below `2 ^ 1023` is no infinite number. -/
theorem ofRatio_ne_infinity
    {num den : Nat}
    (inRange : floorLog2 num den < 1023)
    (negative : Bool)
    (sign : Bool) :
    ofRatio negative num den ≠ .infinity sign := by
  rw [ofRatio]
  split
  · intro impossible
    cases impossible
  · have notBeyond :
        max (floorLog2 num den - 52) minExponent + 1 ≤ maxExponent := by
      rw [minExponent, maxExponent]
      omega
    have carriedNotBeyond (carried : Prop) [Decidable carried] :
        ¬ (if carried then max (floorLog2 num den - 52) minExponent + 1
          else max (floorLog2 num den - 52) minExponent) > maxExponent := by
      split
      · exact Int.not_lt.mpr notBeyond
      · exact Int.not_lt.mpr (Int.le_of_lt notBeyond)
    simp only
    rw [if_neg (carriedNotBeyond _)]
    split_ifs
    all_goals
      intro impossible
      cases impossible

/-- A quotient without a sign is not negative, and so is what is left of it. -/
theorem truncate?_ofRatio_nonneg (num den : Nat) :
    0 ≤ (ofRatio false num den).truncate?.getD 0 := by
  rw [ofRatio]
  split
  · exact Int.le_refl 0
  · simp only
    split_ifs
    all_goals
      first
        | exact Int.le_refl 0
        | exact Int.natCast_nonneg _

end Binary64

namespace Quantity

/-- An integer of at most 1023 binary digits, or a floating point number. -/
def InRange : Quantity → Prop
  | .whole value => value.natAbs.log2 < 1023
  | .float _ => True

instance : DecidablePred InRange
  | .whole value => inferInstanceAs (Decidable (value.natAbs.log2 < 1023))
  | .float _ => isTrue trivial

/-- No quotient of an integer in this range comes near the end of the range of numbers. -/
theorem InRange.floorLog2_lt
    {value : Int}
    (inRange : (whole value).InRange)
    (den : Nat) :
    Binary64.floorLog2 value.natAbs den < 1023 :=
  Int.lt_of_le_of_lt (Binary64.floorLog2_le value.natAbs den) (Int.ofNat_lt.mpr inRange)

/-- A quotient that is no infinite number is no failure. -/
theorem exists_rounded
    {num den : Nat}
    (inRange : Binary64.floorLog2 num den < 1023)
    (negative : Bool)
    (failure : Failure) :
    ∃ ratio,
      (match Binary64.ofRatio negative num den with
        | .infinity _ => .error failure
        | rounded => .ok rounded) =
      Except.ok ratio := by
  have notInfinite := Binary64.ofRatio_ne_infinity inRange negative
  split
  · rename_i sign infinite
    exact absurd infinite (notInfinite sign)
  · exact ⟨_, rfl⟩

theorem exists_toBinary64
    {quantity : Quantity}
    (inRange : quantity.InRange) :
    ∃ value, quantity.toBinary64 = .ok value := by
  cases quantity with
  | float value => exact ⟨value, rfl⟩
  | whole value => exact exists_rounded (inRange.floorLog2_lt 1) (value < 0) _

theorem exists_divNat
    {quantity : Quantity}
    (inRange : quantity.InRange)
    (divisor : Nat) :
    ∃ value, quantity.divNat divisor = .ok value := by
  cases quantity with
  | float value => exact ⟨_, rfl⟩
  | whole value => exact exists_rounded (inRange.floorLog2_lt divisor) (value < 0) _

theorem exists_concise
    {quantity : Quantity}
    (inRange : quantity.InRange) :
    ∃ text, quantity.concise = .ok text := by
  rcases exists_toBinary64 inRange with ⟨value, isValue⟩
  exact ⟨_, Attempt.bind_eq_ok_iff.mpr ⟨value, isValue, rfl⟩⟩

theorem exists_plain
    {quantity : Quantity}
    (inRange : quantity.InRange) :
    ∃ text, quantity.plain = .ok text := by
  rcases exists_toBinary64 inRange with ⟨value, isValue⟩
  exact ⟨_, Attempt.bind_eq_ok_iff.mpr ⟨value, isValue, rfl⟩⟩

end Quantity

namespace Duration

theorem exists_prometheus
    {duration : Duration}
    (notNegative : 0 ≤ duration.microseconds) :
    ∃ text, duration.prometheus = .ok text := by
  have noSign : decide (duration.microseconds < 0) = false :=
    decide_eq_false (Int.not_lt.mpr notNegative)
  have counted : ¬ duration.milliseconds < 0 := by
    apply Int.not_lt.mpr
    rw [milliseconds, noSign]
    exact Binary64.truncate?_ofRatio_nonneg _ _
  simp only [prometheus]
  rw [if_neg counted]
  exact ⟨_, rfl⟩

end Duration

end ServiceLevel
