import Mathlib.Algebra.Order.Field.Power
import Mathlib.Algebra.Order.Ring.Rat
import Mathlib.Tactic.Linarith
import Mathlib.Tactic.LinearCombination
import Mathlib.Tactic.NormNum
import Mathlib.Tactic.Positivity
import ServiceLevel.Number.Shortest

/-!
# Seventeen digits are enough

The search for the shortest decimal of a number gives up behind the seventeenth digit.  It
never has to: the numbers that round to a number with a significand of 53 binary digits at
most are an interval of more than its `10 ^ 16`-th part, and on the seventeenth grid two
neighbours are not further apart than that.
-/

namespace ServiceLevel.Binary64

/-! ## The first digit -/

theorem pow_length_toDigits_le
    {value : Nat}
    (positive : 0 < value) :
    10 ^ ((Nat.toDigits 10 value).length - 1) ≤ value := by
  rcases Nat.eq_zero_or_pos ((Nat.toDigits 10 value).length - 1) with single | several
  · rw [single]
    exact positive
  · have notShorter :
        ¬ (Nat.toDigits 10 value).length ≤ (Nat.toDigits 10 value).length - 1 := by omega
    exact Nat.not_lt.mp
      (mt (Nat.length_toDigits_le_iff (by decide) several).mpr notShorter)

theorem lt_pow_length_toDigits (value : Nat) :
    value < 10 ^ (Nat.toDigits 10 value).length :=
  (Nat.length_toDigits_le_iff (by decide) Nat.length_toDigits_pos).mp le_rfl

/-- A quotient reaches the power of ten of its first digit. -/
theorem ten_zpow_floorLog10_le
    {num den : Nat}
    (numPositive : 0 < num)
    (denPositive : 0 < den) :
    (10 : ℚ) ^ floorLog10 num den * den ≤ num := by
  simp only [floorLog10]
  split
  · rename_i atLeastOne
    have quotientPositive := Nat.div_pos atLeastOne denPositive
    have digits := Nat.length_toDigits_pos (b := 10) (n := num / den)
    have reached :
        10 ^ ((Nat.toDigits 10 (num / den)).length - 1) * den ≤ num :=
      (Nat.mul_le_mul_right den (pow_length_toDigits_le quotientPositive)).trans
        (Nat.div_mul_le_self num den)
    rw [← Int.natCast_pred_of_pos digits, zpow_natCast]
    exact_mod_cast reached
  · have digits := Nat.length_toDigits_pos (b := 10) (n := den / num)
    split
    · rename_i reached
      rw [← Int.natCast_pred_of_pos digits, zpow_neg, zpow_natCast,
        inv_mul_le_iff₀ (by positivity), mul_comm]
      exact_mod_cast reached
    · have reached := (Nat.div_lt_iff_lt_mul numPositive).mp (lt_pow_length_toDigits (den / num))
      rw [zpow_neg, zpow_natCast, inv_mul_le_iff₀ (by positivity)]
      exact_mod_cast reached.le

namespace RoundingInterval

variable {interval : RoundingInterval}

/-! ## Grids -/

theorem mul_ten_zpow_mul_of_neg
    {exponent : Int}
    (isNegative : exponent < 0)
    (digits den : ℚ) :
    digits * (10 ^ exponent * den) * 10 ^ exponent.natAbs = digits * den := by
  have unit : (10 : ℚ) ^ exponent * 10 ^ exponent.natAbs = 1 := by
    rw [← zpow_natCast, ← zpow_add₀ (by norm_num), Int.ofNat_natAbs_of_nonpos isNegative.le,
      add_neg_cancel, zpow_zero]
  linear_combination digits * den * unit

theorem ten_zpow_of_nonneg
    {exponent : Int}
    (notNegative : ¬ exponent < 0) :
    (10 : ℚ) ^ exponent = 10 ^ exponent.natAbs := by
  rw [← zpow_natCast, Int.natAbs_of_nonneg (not_lt.mp notNegative)]

/-- A decimal between the ends rounds back. -/
theorem holds_of_lt
    {digits : Nat}
    {exponent : Int}
    (above : (interval.low : ℚ) < digits * (10 ^ exponent * interval.den))
    (below : digits * (10 ^ exponent * interval.den) < (interval.high : ℚ)) :
    interval.holds digits exponent = true := by
  suffices between :
      interval.low * (if exponent < 0 then Nat.pow 10 exponent.natAbs else 1) <
          (if exponent < 0 then digits else digits * Nat.pow 10 exponent.natAbs) *
            interval.den ∧
        (if exponent < 0 then digits else digits * Nat.pow 10 exponent.natAbs) *
            interval.den <
          interval.high * (if exponent < 0 then Nat.pow 10 exponent.natAbs else 1) by
    simp only [holds]
    split
    · simp only [Bool.and_eq_true, decide_eq_true_eq]
      exact ⟨between.1.le, between.2.le⟩
    · simp only [Bool.and_eq_true, decide_eq_true_eq]
      exact between
  by_cases isNegative : exponent < 0
  · have scalePositive : (0 : ℚ) < 10 ^ exponent.natAbs := by positivity
    have aboveScaled := mul_lt_mul_of_pos_right above scalePositive
    have belowScaled := mul_lt_mul_of_pos_right below scalePositive
    rw [mul_ten_zpow_mul_of_neg isNegative] at aboveScaled belowScaled
    simp only [if_pos isNegative]
    exact ⟨by exact_mod_cast aboveScaled, by exact_mod_cast belowScaled⟩
  · rw [ten_zpow_of_nonneg isNegative, ← mul_assoc] at above below
    simp only [if_neg isNegative, mul_one]
    exact ⟨by exact_mod_cast above, by exact_mod_cast below⟩

/-- The value lies between its two neighbours on a grid. -/
theorem onGrid_bounds
    (positive : 0 < interval.den)
    (exponent : Int) :
    (interval.onGrid exponent).1 * (10 ^ exponent * interval.den) ≤ (interval.value : ℚ) ∧
      (interval.value : ℚ) <
        ((interval.onGrid exponent).1 + 1 : Nat) * (10 ^ exponent * interval.den) := by
  by_cases isNegative : exponent < 0
  · have scalePositive : (0 : ℚ) < 10 ^ exponent.natAbs := by positivity
    simp only [onGrid, if_pos isNegative]
    constructor
    · apply le_of_mul_le_mul_right _ scalePositive
      rw [mul_ten_zpow_mul_of_neg isNegative]
      exact_mod_cast Nat.div_mul_le_self (interval.value * 10 ^ exponent.natAbs) interval.den
    · apply lt_of_mul_lt_mul_right _ scalePositive.le
      rw [mul_ten_zpow_mul_of_neg isNegative]
      exact_mod_cast Nat.lt_mul_of_div_lt (Nat.lt_succ_self _) positive
  · have stepPositive : 0 < interval.den * 10 ^ exponent.natAbs := by positivity
    simp only [onGrid, if_neg isNegative]
    rw [ten_zpow_of_nonneg isNegative, mul_comm (10 ^ exponent.natAbs : ℚ)]
    constructor
    · exact_mod_cast Nat.div_mul_le_self interval.value (interval.den * 10 ^ exponent.natAbs)
    · exact_mod_cast Nat.lt_mul_of_div_lt (Nat.lt_succ_self _) stepPositive

/-! ## The search -/

/-- An interval of more than the `2 ^ 53`-th part of its value, around the value. -/
structure Wide (interval : RoundingInterval) : Prop where
  den : 0 < interval.den
  low : interval.low < interval.value
  high : interval.value < interval.high
  wide : interval.value + 2 ^ 53 * interval.low ≤ 2 ^ 53 * interval.high

/-- On the grid of the seventeenth digit one of the two neighbours rounds back. -/
theorem exists_hit?
    (isWide : interval.Wide)
    {exponent : Int}
    (fine : 10 ^ 16 * (10 ^ exponent * interval.den) ≤ (interval.value : ℚ)) :
    ∃ digits, interval.hit? exponent = some digits := by
  have step : (0 : ℚ) < 10 ^ exponent * interval.den := by
    have := isWide.den
    positivity
  have low : (interval.low : ℚ) < interval.value := by exact_mod_cast isWide.low
  have high : (interval.value : ℚ) < interval.high := by exact_mod_cast isWide.high
  have wide : (interval.value : ℚ) + 2 ^ 53 * interval.low ≤ 2 ^ 53 * interval.high := by
    exact_mod_cast isWide.wide
  obtain ⟨floor, ceiling⟩ := onGrid_bounds isWide.den exponent
  have found :
      interval.holds (interval.onGrid exponent).1 exponent = true ∨
        interval.holds ((interval.onGrid exponent).1 + 1) exponent = true := by
    by_contra neither
    have floorOutside :
        ((interval.onGrid exponent).1 : ℚ) * (10 ^ exponent * interval.den) ≤ interval.low := by
      by_contra inside
      exact neither (.inl (holds_of_lt (not_le.mp inside) (floor.trans_lt high)))
    have ceilingOutside :
        (interval.high : ℚ) ≤
          ((interval.onGrid exponent).1 + 1 : Nat) * (10 ^ exponent * interval.den) := by
      by_contra inside
      exact neither (.inr (holds_of_lt (low.trans ceiling) (not_le.mp inside)))
    push_cast at ceilingOutside
    -- The whole interval lies within one step, which is too short for it.
    linarith
  simp only [hit?]
  rcases found with below | above
  · rw [below]
    split_ifs
    all_goals first | exact ⟨_, rfl⟩ | contradiction
  · rw [above]
    split_ifs
    all_goals first | exact ⟨_, rfl⟩ | contradiction

/-- A search that comes to a grid with a hit finds something. -/
theorem exists_search
    {count : Nat}
    {start exponent : Int}
    (notBefore : exponent ≤ start)
    (inReach : start < exponent + count)
    {digits : Nat}
    (isHit : interval.hit? exponent = some digits) :
    ∃ found, interval.search count start = some found := by
  induction count generalizing start with
  | zero => omega
  | succ count ih =>
      rw [search]
      cases atStart : interval.hit? start with
      | some first => exact ⟨_, rfl⟩
      | none =>
          have notStart : exponent ≠ start := by
            rintro rfl
            rw [isHit] at atStart
            cases atStart
          exact ih (by omega) (by omega)

end RoundingInterval

/-! ## The shortest decimal -/

theorem wide_roundingInterval
    {significand : Nat}
    (positive : 0 < significand)
    (inPrecision : significand < 2 ^ 53)
    (exponent : Int) :
    (roundingInterval significand exponent).Wide := by
  have scalePositive : 0 < if exponent - 2 < 0 then 1 else 2 ^ (exponent - 2).natAbs := by
    split <;> positivity
  constructor
  · simp only [roundingInterval]
    split
    · exact Nat.two_pow_pos _
    · exact one_pos
  · apply Nat.mul_lt_mul_of_pos_right _ scalePositive
    split <;> omega
  · exact Nat.mul_lt_mul_of_pos_right (by omega) scalePositive
  · simp only [roundingInterval]
    rw [← mul_assoc, ← mul_assoc, ← add_mul]
    apply Nat.mul_le_mul_right
    split
    · rename_i isPower
      rw [Bool.and_eq_true, decide_eq_true_eq] at isPower
      rw [isPower.1]
      decide
    · omega

theorem exists_shortest?
    {significand : Nat}
    (positive : 0 < significand)
    (inPrecision : significand < 2 ^ 53)
    (negative : Bool)
    (exponent : Int) :
    ∃ decimal, (finite negative significand exponent).shortest? = some decimal := by
  have isWide := wide_roundingInterval positive inPrecision exponent
  have started :=
    ten_zpow_floorLog10_le (Nat.zero_lt_of_lt isWide.low) isWide.den
  simp only [shortest?]
  generalize roundingInterval significand exponent = interval at isWide started ⊢
  generalize floorLog10 interval.value interval.den = start at started ⊢
  have fine : 10 ^ 16 * (10 ^ (start - 16) * interval.den) ≤ (interval.value : ℚ) := by
    have scaled : (10 : ℚ) ^ 16 * 10 ^ (start - 16) = 10 ^ start := by
      rw [← zpow_natCast, ← zpow_add₀ (by norm_num)]
      congr 1
      omega
    rwa [← mul_assoc, scaled]
  obtain ⟨digits, isHit⟩ := RoundingInterval.exists_hit? isWide fine
  obtain ⟨found, searched⟩ : ∃ found, interval.search 17 start = some found :=
    RoundingInterval.exists_search (by omega) (by omega) isHit
  rw [searched]
  exact ⟨_, rfl⟩

end ServiceLevel.Binary64
