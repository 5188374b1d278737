import Mathlib.Algebra.Order.Field.Power
import Mathlib.Algebra.Order.Ring.Cast
import Mathlib.Algebra.Order.Ring.Rat
import Mathlib.Order.Compare
import Mathlib.Tactic.FieldSimp
import Mathlib.Tactic.Positivity
import ServiceLevel.Proofs.Number.Truncation
import ServiceLevel.Proofs.Quantity

/-!
# Exact values of numbers

The value of a quantity as a rational number, which not-a-number and the infinities do not
have.  Comparisons with integers are comparisons of these values, and a rounded quotient has
a significand of at most 53 binary digits.
-/

namespace ServiceLevel

namespace Binary64

/-- A significand of at most 53 binary digits, as every finite number of the format has. -/
def InPrecision : Binary64 → Prop
  | .finite _ significand _ => significand < 2 ^ 53
  | _ => True

/-- The value of a finite number. -/
def value? : Binary64 → Option ℚ
  | .finite negative significand exponent =>
    some ((if negative then -(significand : ℚ) else significand) * 2 ^ exponent)
  | _ => none

/-! ## Scaled quotients -/

theorem scaleRatio_snd_pos
    {den : Nat}
    (positive : 0 < den)
    (num : Nat)
    (shift : Int) :
    0 < (scaleRatio num den shift).2 := by
  rw [scaleRatio]
  split
  · exact Nat.mul_pos positive (Nat.two_pow_pos _)
  · exact positive

theorem scaleRatio_fst
    {den : Nat}
    (positive : 0 < den)
    (num : Nat)
    (shift : Int) :
    ((scaleRatio num den shift).1 : ℚ) =
      num / den * 2 ^ shift * (scaleRatio num den shift).2 := by
  have notZero : (den : ℚ) ≠ 0 := by positivity
  obtain ⟨scale, rfl | rfl⟩ := shift.eq_nat_or_neg
  · rw [scaleRatio_natCast, zpow_natCast]
    push_cast
    field_simp
  · rw [scaleRatio_neg, zpow_neg, zpow_natCast]
    push_cast
    field_simp

theorem scaleRatio_lt_iff
    {num den : Nat}
    (positive : 0 < den)
    {shift : Int} :
    (scaleRatio num den shift).1 < (scaleRatio num den shift).2 ↔
      (num : ℚ) / den * 2 ^ shift < 1 := by
  have scaledPositive : (0 : ℚ) < (scaleRatio num den shift).2 := by
    exact_mod_cast scaleRatio_snd_pos positive num shift
  rw [← Nat.cast_lt (α := ℚ), scaleRatio_fst positive, mul_lt_iff_lt_one_left scaledPositive]

theorem scaleRatio_le_mul_iff
    {num den : Nat}
    (positive : 0 < den)
    {shift : Int}
    {bound : Nat} :
    (scaleRatio num den shift).1 ≤ bound * (scaleRatio num den shift).2 ↔
      (num : ℚ) / den * 2 ^ shift ≤ bound := by
  have scaledPositive : (0 : ℚ) < (scaleRatio num den shift).2 := by
    exact_mod_cast scaleRatio_snd_pos positive num shift
  rw [← Nat.cast_le (α := ℚ), scaleRatio_fst positive, Nat.cast_mul,
    mul_le_mul_iff_of_pos_right scaledPositive]

theorem lt_two_zpow_floorLog2
    {den : Nat}
    (positive : 0 < den)
    (num : Nat) :
    (num : ℚ) / den < 2 ^ (floorLog2 num den + 1) := by
  have castPositive : (0 : ℚ) < den := by exact_mod_cast positive
  have guessed : (num : ℚ) / den < 2 ^ ((num.log2 : Int) - den.log2 + 1) := by
    have numBelow : (num : ℚ) < 2 ^ (num.log2 + 1) := by
      exact_mod_cast Nat.lt_log2_self
    have denReached : (2 : ℚ) ^ den.log2 ≤ den := by
      exact_mod_cast Nat.log2_self_le positive.ne'
    rw [div_lt_iff₀ castPositive]
    calc
      (num : ℚ) < 2 ^ (num.log2 + 1) := numBelow
      _ = 2 ^ ((num.log2 : Int) - den.log2 + 1) * 2 ^ den.log2 := by
        rw [← zpow_natCast, ← zpow_natCast, ← zpow_add₀ two_ne_zero]
        congr 1
        push_cast
        ring
      _ ≤ 2 ^ ((num.log2 : Int) - den.log2 + 1) * den :=
        mul_le_mul_of_nonneg_left denReached (by positivity)
  simp only [floorLog2]
  split
  · -- The guess was one too high, which the scaled quotient has shown.
    rename_i less
    rw [scaleRatio_lt_iff positive, zpow_neg, mul_inv_lt_iff₀ (by positivity), one_mul] at less
    rwa [sub_add_cancel]
  · exact guessed

/-! ## Rounded quotients -/

theorem roundHalfEven_le
    {num den bound : Nat}
    (positive : 0 < den)
    (isBelow : num ≤ bound * den) :
    roundHalfEven num den ≤ bound := by
  have near := two_mul_roundHalfEven_le num den
  by_contra above
  have reached : (bound + 1) * den ≤ roundHalfEven num den * den :=
    Nat.mul_le_mul_right den (Nat.not_le.mp above)
  rw [Nat.add_one_mul] at reached
  omega

/-- Scaled to the precision of the format a quotient has at most 53 binary digits. -/
theorem scaleRatio_le_of_floorLog2_le
    {num den : Nat}
    (positive : 0 < den)
    {exponent : Int}
    (enough : floorLog2 num den - 52 ≤ exponent) :
    (scaleRatio num den (-exponent)).1 ≤
      2 ^ 53 * (scaleRatio num den (-exponent)).2 := by
  rw [scaleRatio_le_mul_iff positive, zpow_neg, mul_inv_le_iff₀ (by positivity)]
  push_cast
  calc
    (num : ℚ) / den ≤ 2 ^ (floorLog2 num den + 1) := (lt_two_zpow_floorLog2 positive num).le
    _ ≤ 2 ^ (53 + exponent) := zpow_le_zpow_right₀ one_le_two (by omega)
    _ = 2 ^ 53 * 2 ^ exponent := zpow_add₀ two_ne_zero 53 exponent

theorem inPrecision_ofRatio
    (negative : Bool)
    (num den : Nat) :
    (ofRatio negative num den).InPrecision := by
  have ofZero : (zero negative).InPrecision := Nat.two_pow_pos 53
  rw [ofRatio]
  split
  · exact ofZero
  · rename_i started
    have positive : 0 < den := by
      simp only [Bool.or_eq_true, decide_eq_true_eq, not_or] at started
      exact Nat.pos_of_ne_zero started.2
    have rounded :=
      roundHalfEven_le (scaleRatio_snd_pos positive num _)
        (scaleRatio_le_of_floorLog2_le positive
          (le_max_left (floorLog2 num den - 52) minExponent))
    simp only
    split_ifs with carried
    · exact trivial
    · exact ofZero
    · exact Nat.pow_lt_pow_right (by decide) (by decide)
    · exact trivial
    · exact ofZero
    · exact lt_of_le_of_ne rounded carried

theorem ofRatio_ne_nan
    (negative : Bool)
    (num den : Nat) :
    ofRatio negative num den ≠ .nan := by
  rw [ofRatio]
  simp only
  split_ifs
  all_goals
    intro impossible
    cases impossible

/-- What is read from a decimal is a number of the format. -/
theorem inPrecision_ofDecimal
    (negative : Bool)
    (digits : Nat)
    (exponent : Int) :
    (ofDecimal negative digits exponent).InPrecision := by
  have ofZero : (zero negative).InPrecision := Nat.two_pow_pos 53
  simp only [ofDecimal]
  split_ifs
  · exact ofZero
  · exact trivial
  · exact ofZero
  · exact inPrecision_ofRatio _ _ _
  · exact inPrecision_ofRatio _ _ _

theorem isFinite_ofRatio
    {num den : Nat}
    (inRange : floorLog2 num den < 1023)
    (negative : Bool) :
    (ofRatio negative num den).isFinite = true := by
  cases rounded : ofRatio negative num den with
  | nan => exact absurd rounded (ofRatio_ne_nan negative num den)
  | infinity sign => exact absurd rounded (ofRatio_ne_infinity inRange negative sign)
  | finite sign significand exponent => rfl

theorem inPrecision_divNat
    (x : Binary64)
    (divisor : Nat) :
    (x.divNat divisor).InPrecision := by
  cases x with
  | nan => exact trivial
  | infinity negative => exact trivial
  | finite negative significand exponent => exact inPrecision_ofRatio _ _ _

/-- A number that is not greater than what it is divided by has a finite quotient. -/
theorem isFinite_divNat
    {x : Binary64}
    {value : ℚ}
    (isValue : value ∈ x.value?)
    {divisor : Nat}
    (positive : 0 < divisor)
    (notGreater : |value| ≤ divisor) :
    (x.divNat divisor).isFinite = true := by
  cases x with
  | nan => cases isValue
  | infinity negative => cases isValue
  | finite negative significand exponent =>
      cases isValue
      have magnitude :
          |(if negative then -(significand : ℚ) else significand) * 2 ^ exponent| =
            significand * 2 ^ exponent := by
        have power : |(2 : ℚ) ^ exponent| = 2 ^ exponent := abs_of_pos (zpow_pos two_pos exponent)
        cases negative <;> simp [abs_mul, power]
      rw [magnitude] at notGreater
      have scaled :
          (scaleRatio significand divisor exponent).1 ≤
            1 * (scaleRatio significand divisor exponent).2 := by
        rw [scaleRatio_le_mul_iff positive, Nat.cast_one, div_mul_eq_mul_div,
          div_le_one (by exact_mod_cast positive)]
        exact notGreater
      have scaledPositive := scaleRatio_snd_pos positive significand exponent
      apply isFinite_ofRatio
      rcases Nat.eq_zero_or_pos (scaleRatio significand divisor exponent).1 with isZero | notZero
      · rw [isZero]
        exact (floorLog2_le 0 _).trans_lt (by decide)
      · have low : floorLog2 (scaleRatio significand divisor exponent).1
            (scaleRatio significand divisor exponent).2 < (1 : Nat) :=
          floorLog2_lt notZero.ne' (by omega)
        omega

/-! ## Comparisons -/

theorem compareInt?_eq
    {x : Binary64}
    {value : ℚ}
    (isValue : value ∈ x.value?)
    (bound : Int) :
    x.compareInt? bound = some (compare value bound) := by
  cases x with
  | nan => cases isValue
  | infinity negative => cases isValue
  | finite negative significand exponent =>
      cases isValue
      have positive : (0 : ℚ) < (scaleRatio significand 1 exponent).2 := by
        exact_mod_cast scaleRatio_snd_pos one_pos significand exponent
      have scaled := scaleRatio_fst one_pos significand exponent
      rw [Nat.cast_one, div_one] at scaled
      have signed :
          (((if negative then -((scaleRatio significand 1 exponent).1 : Int)
              else (scaleRatio significand 1 exponent).1) : Int) : ℚ) =
            (if negative then -(significand : ℚ) else significand) * 2 ^ exponent *
              (scaleRatio significand 1 exponent).2 := by
        cases negative <;> simp [scaled]
      simp only [compareInt?, Option.some.injEq]
      rw [← cmp_eq_compare, ← cmp_eq_compare, ← (Int.cast_strictMono (R := ℚ)).cmp_map_eq,
        signed,
        Int.cast_mul, Int.cast_natCast, cmp_mul_pos_right positive]

end Binary64

namespace Quantity

/-- The value of a quantity that is a number. -/
def value? : Quantity → Option ℚ
  | .whole value => some value
  | .float value => value.value?

/-- An integer, or a number of the floating point format. -/
def InPrecision : Quantity → Prop
  | .whole _ => True
  | .float value => value.InPrecision

theorem compareInt?_eq_of_mem
    {quantity : Quantity}
    {value : ℚ}
    (isValue : value ∈ quantity.value?)
    (bound : Int) :
    quantity.compareInt? bound = some (compare value bound) := by
  cases quantity with
  | float x => exact Binary64.compareInt?_eq isValue bound
  | whole whole =>
      cases isValue
      rw [compareInt?, ← cmp_eq_compare, ← cmp_eq_compare,
        (Int.cast_strictMono (R := ℚ)).cmp_map_eq]

/-- A rounded quotient that is no failure is a finite number. -/
theorem isFinite_of_rounded
    {negative : Bool}
    {num den : Nat}
    {failure : Failure}
    {ratio : Binary64}
    (made :
      (match Binary64.ofRatio negative num den with
        | .infinity _ => .error failure
        | rounded => .ok rounded) =
      Except.ok ratio) :
    ratio.isFinite = true ∧ ratio.InPrecision := by
  have inPrecision := Binary64.inPrecision_ofRatio negative num den
  cases isRatio : Binary64.ofRatio negative num den with
  | nan => exact absurd isRatio (Binary64.ofRatio_ne_nan negative num den)
  | infinity sign =>
      rw [isRatio] at made
      cases made
  | finite sign significand exponent =>
      rw [isRatio] at made inPrecision
      cases made
      exact ⟨rfl, inPrecision⟩

end Quantity

end ServiceLevel
