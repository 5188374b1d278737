import Mathlib.Algebra.Order.Ring.Nat
import Mathlib.Tactic.Ring
import ServiceLevel.Number.Binary64

/-!
# Quotients without their fraction

A quotient that is rounded to a floating point number may reach the next natural number, and
would then lose its fraction the wrong way.  The main statement says where it does not: a
quotient that is kept in units of `2 ^ -scale` loses exactly its fraction, if these units are
finer than twice the denominator or the quotient is a natural number.
-/

namespace ServiceLevel.Binary64

/-! ## Rounding -/

theorem roundHalfEven_mul
    {den : Nat}
    (positive : 0 < den)
    (quotient : Nat) :
    roundHalfEven (quotient * den) den = quotient := by
  simp only [roundHalfEven]
  rw [Nat.mul_mod_left, if_pos positive, Nat.mul_div_cancel _ positive]

theorem div_le_roundHalfEven (num den : Nat) : num / den ≤ roundHalfEven num den := by
  simp only [roundHalfEven]
  split
  · exact Nat.le_refl _
  · split
    · exact Nat.le_succ _
    · split
      · exact Nat.le_refl _
      · exact Nat.le_succ _

/-- A quotient is rounded by half a unit at most. -/
theorem two_mul_roundHalfEven_le (num den : Nat) :
    2 * (roundHalfEven num den * den) ≤ 2 * num + den := by
  have divided : den * (num / den) + num % den = num := Nat.div_add_mod num den
  have down : 2 * (num / den * den) ≤ 2 * num + den := by
    rw [Nat.mul_comm (num / den)]
    omega
  have up (atLeastHalf : den ≤ 2 * (num % den)) :
      2 * ((num / den + 1) * den) ≤ 2 * num + den := by
    rw [Nat.add_one_mul (num / den), Nat.mul_comm (num / den)]
    omega
  simp only [roundHalfEven]
  split
  · exact down
  · rename_i notBelow
    split
    · exact up (Nat.not_lt.mp notBelow)
    · split
      · exact down
      · exact up (Nat.not_lt.mp notBelow)

/-- In fine units a quotient is not rounded beyond the next natural number. -/
theorem roundHalfEven_lt
    {den scale : Nat}
    (positive : 0 < den)
    (fine : den < 2 * 2 ^ scale)
    (num : Nat) :
    roundHalfEven (num * 2 ^ scale) den < (num / den + 1) * 2 ^ scale := by
  have near := two_mul_roundHalfEven_le (num * 2 ^ scale) den
  have below : num + 1 ≤ (num / den + 1) * den := Nat.lt_mul_of_div_lt (Nat.lt_succ_self _) positive
  have scaled : (num + 1) * 2 ^ scale ≤ (num / den + 1) * den * 2 ^ scale :=
    Nat.mul_le_mul_right _ below
  have rest :
      2 * (roundHalfEven (num * 2 ^ scale) den * den) <
        2 * ((num / den + 1) * 2 ^ scale * den) := by
    rw [Nat.mul_right_comm _ _ den]
    rw [Nat.add_one_mul num] at scaled
    omega
  exact Nat.lt_of_mul_lt_mul_right (Nat.lt_of_mul_lt_mul_left rest)

/-- Rounded in units that are fine enough, a quotient keeps its natural part. -/
theorem roundHalfEven_div
    {num den scale : Nat}
    (positive : 0 < den)
    (keeps : den < 2 * 2 ^ scale ∨ den ∣ num) :
    roundHalfEven (num * 2 ^ scale) den / 2 ^ scale = num / den := by
  rcases keeps with fine | ⟨quotient, rfl⟩
  · apply Nat.div_eq_of_lt_le
    · have scaled : num / den * 2 ^ scale ≤ num * 2 ^ scale / den := by
        rw [Nat.le_div_iff_mul_le positive, Nat.mul_right_comm]
        exact Nat.mul_le_mul_right _ (Nat.div_mul_le_self num den)
      exact scaled.trans (div_le_roundHalfEven _ _)
    · exact roundHalfEven_lt positive fine num
  · have exact : den * quotient * 2 ^ scale = quotient * 2 ^ scale * den := by ring
    rw [exact, roundHalfEven_mul positive, Nat.mul_div_cancel _ (Nat.two_pow_pos scale),
      Nat.mul_div_cancel_left _ positive]

/-! ## The scale of a quotient -/

theorem scaleRatio_neg (num den scale : Nat) :
    scaleRatio num den (-(scale : Int)) = (num, den * 2 ^ scale) := by
  rw [scaleRatio, Int.natAbs_neg, Int.natAbs_natCast]
  cases scale with
  | zero => simp
  | succ scale =>
      rw [if_pos (by omega)]
      rfl

theorem scaleRatio_natCast (num den scale : Nat) :
    scaleRatio num den scale = (num * 2 ^ scale, den) := by
  rw [scaleRatio, Int.natAbs_natCast, if_neg (Int.not_lt.mpr (Int.natCast_nonneg scale))]
  rfl

/-- The scale of a quotient below a power of two. -/
theorem floorLog2_lt
    {num den bits : Nat}
    (notZero : num ≠ 0)
    (isBelow : num < den * 2 ^ bits) :
    floorLog2 num den < bits := by
  have guessed : num.log2 ≤ den.log2 + bits := by
    have reached : 2 ^ num.log2 < 2 ^ (den.log2 + 1 + bits) :=
      calc
        2 ^ num.log2 ≤ num := Nat.log2_self_le notZero
        _ < den * 2 ^ bits := isBelow
        _ ≤ 2 ^ (den.log2 + 1) * 2 ^ bits := Nat.mul_le_mul_right _ Nat.lt_log2_self.le
        _ = 2 ^ (den.log2 + 1 + bits) := (Nat.pow_add 2 _ _).symm
    have := (Nat.pow_lt_pow_iff_right (by decide)).mp reached
    omega
  simp only [floorLog2]
  split
  · omega
  · rename_i notLess
    -- A guess that is not too high by one is too high only if `isBelow` fails.
    rcases Nat.lt_or_eq_of_le guessed with less | same
    · omega
    · exfalso
      apply notLess
      have guess : -((num.log2 : Int) - den.log2) = -(bits : Int) := by omega
      rw [guess, scaleRatio_neg]
      exact isBelow

/-! ## Truncation -/

theorem truncate?_finite (significand scale : Nat) :
    (finite false significand (-(scale : Int))).truncate? =
      some ((significand / 2 ^ scale : Nat) : Int) := by
  simp only [truncate?, scaleRatio_neg, Nat.one_mul]
  rfl

/-- A significand that overflows is halved, and its exponent makes up for it. -/
theorem truncate?_carried (scale : Nat) :
    (finite false (2 ^ 52) (-(scale : Int) + 1)).truncate? =
      some ((2 ^ 53 / 2 ^ scale : Nat) : Int) := by
  cases scale with
  | zero => rfl
  | succ scale =>
      have exponent : -((scale + 1 : Nat) : Int) + 1 = -(scale : Int) := by omega
      rw [exponent, truncate?_finite, Nat.pow_succ 2 52, Nat.pow_succ 2 scale,
        Nat.mul_div_mul_right _ _ (by decide)]

/-- A quotient with this scale loses its fraction and nothing else. -/
theorem truncate?_ofRatio
    {num den scale : Nat}
    (positive : 0 < den)
    (scaled : max (floorLog2 num den - 52) minExponent = -(scale : Int))
    (keeps : den < 2 * 2 ^ scale ∨ den ∣ num) :
    (ofRatio false num den).truncate? = some ((num / den : Nat) : Int) := by
  by_cases isZero : num = 0
  · rw [isZero, ofRatio_zero_left, Nat.zero_div]
    rfl
  have bounded (carried : Prop) [Decidable carried] :
      ¬ (if carried then -(scale : Int) + 1 else -(scale : Int)) > maxExponent := by
    rw [maxExponent]
    split <;> omega
  have kept := roundHalfEven_div positive keeps
  have started : (num = 0 || den = 0) = false := by simp [isZero, positive.ne']
  simp only [ofRatio, scaled, Int.neg_neg, scaleRatio_natCast, if_neg (bounded _)]
  rw [started, if_neg Bool.false_ne_true]
  by_cases carried : roundHalfEven (num * 2 ^ scale) den = Nat.pow 2 53
  · rw [if_pos carried, if_pos carried, ← kept, carried]
    exact truncate?_carried scale
  · rw [if_neg carried, if_neg carried]
    split
    · rename_i isNothing
      rw [← kept, isNothing, Nat.zero_div]
      rfl
    · rw [truncate?_finite, kept]

/--
A quotient below `2 ^ bits` loses exactly its fraction, if the denominator is small enough for
the precision that these bits leave, or if the quotient is a natural number.
-/
theorem truncate?_ofRatio_of_lt
    {num den bits : Nat}
    (positive : 0 < den)
    (inPrecision : bits ≤ 53)
    (isBelow : num < den * 2 ^ bits)
    (keeps : den < 2 * 2 ^ (53 - bits) ∨ den ∣ num) :
    (ofRatio false num den).truncate? = some ((num / den : Nat) : Int) := by
  by_cases isZero : num = 0
  · rw [isZero, ofRatio_zero_left, Nat.zero_div]
    rfl
  have low := floorLog2_lt isZero isBelow
  obtain ⟨scale, scaled, enough⟩ :
      ∃ scale : Nat,
        max (floorLog2 num den - 52) minExponent = -(scale : Int) ∧ 53 - bits ≤ scale := by
    refine ⟨(-max (floorLog2 num den - 52) minExponent).toNat, ?_, ?_⟩
    · rw [minExponent]
      omega
    · rw [minExponent]
      omega
  refine truncate?_ofRatio positive scaled (keeps.imp_left ?_)
  intro fine
  have finer : 2 ^ (53 - bits) ≤ 2 ^ scale := Nat.pow_le_pow_right (by decide) enough
  omega

end ServiceLevel.Binary64
