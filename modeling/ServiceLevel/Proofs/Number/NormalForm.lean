import ServiceLevel.Proofs.Number.SeventeenDigits

/-!
# Normal decimals

The shortest decimal of a number that is not zero has neither a zero in front nor one at the
end.  The search begins at the first digit of the number, so that what it finds is never zero,
and zeros at the end are removed from what it finds.
-/

namespace ServiceLevel

namespace Decimal

/-- A decimal whose digits neither begin nor end with a zero. -/
structure IsNormal (decimal : Decimal) : Prop where
  first : decimal.digitChars.head? ≠ some '0'
  last : decimal.digitChars.getLast? ≠ some '0'

theorem digitChar_ne_zero
    {digit : Nat}
    (isDigit : digit < 10)
    (notZero : digit ≠ 0) :
    Nat.digitChar digit ≠ '0' := by
  have digits : ∀ digit < 10, digit ≠ 0 → Nat.digitChar digit ≠ '0' := by decide
  exact digits digit isDigit notZero

theorem head?_toDigits_ne_zero
    {value : Nat}
    (notZero : value ≠ 0) :
    (Nat.toDigits 10 value).head? ≠ some '0' := by
  induction value using Nat.strong_induction_on with
  | h value ih =>
      rcases Nat.lt_or_ge value 10 with small | large
      · rw [Nat.toDigits_of_lt_base small]
        intro same
        exact digitChar_ne_zero small notZero (Option.some.inj same)
      · rw [Nat.toDigits_of_base_le (by decide) large,
          List.head?_append_of_ne_nil _ Nat.toDigits_ne_nil]
        exact ih (value / 10) (by omega) (by omega)

theorem getLast?_toDigits_ne_zero
    {value : Nat}
    (noZero : value % 10 ≠ 0) :
    (Nat.toDigits 10 value).getLast? ≠ some '0' := by
  have last :
      (Nat.toDigits 10 value).getLast? = some (Nat.digitChar (value % 10)) := by
    rcases Nat.lt_or_ge value 10 with small | large
    · rw [Nat.toDigits_of_lt_base small, Nat.mod_eq_of_lt small]
      rfl
    · rw [Nat.toDigits_of_base_le (by decide) large, List.getLast?_concat]
  rw [last]
  intro same
  exact digitChar_ne_zero (Nat.mod_lt value (by decide)) noZero (Option.some.inj same)

theorem isNormal_of_mod_ne_zero
    {decimal : Decimal}
    (noZero : decimal.digits % 10 ≠ 0) :
    decimal.IsNormal where
  first := head?_toDigits_ne_zero (by omega)
  last := getLast?_toDigits_ne_zero noZero

theorem IsNormal.digits_ne_zero
    {decimal : Decimal}
    (isNormal : decimal.IsNormal) :
    decimal.digits ≠ 0 := by
  intro isZero
  apply isNormal.first
  rw [digitChars, isZero]
  rfl

/-- With enough fuel no zero is left at the end. -/
theorem stripZeros_mod_ne_zero
    {fuel digits : Nat}
    (notZero : digits ≠ 0)
    (enough : digits ≤ fuel)
    (exponent : Int) :
    (stripZeros fuel digits exponent).1 % 10 ≠ 0 := by
  induction fuel generalizing digits exponent with
  | zero => omega
  | succ fuel ih =>
      rw [stripZeros]
      split
      · rename_i ends
        simp only [Bool.and_eq_true, decide_eq_true_eq] at ends
        exact ih (by omega) (by omega) (exponent + 1)
      · rename_i ends
        simp only [Bool.and_eq_true, decide_eq_true_eq, not_and] at ends
        exact ends notZero

theorem isNormal_ofDigits
    {digits : Nat}
    (notZero : digits ≠ 0)
    (negative : Bool)
    (exponent : Int) :
    (ofDigits negative digits exponent).IsNormal :=
  isNormal_of_mod_ne_zero (stripZeros_mod_ne_zero notZero (Nat.le_refl digits) exponent)

end Decimal

namespace Binary64

namespace RoundingInterval

variable {interval : RoundingInterval}

/-- A grid that is not coarser than the value has no hit at zero. -/
theorem pos_of_hit?
    (positive : 0 < interval.den)
    {exponent : Int}
    (reached : 10 ^ exponent * interval.den ≤ (interval.value : ℚ))
    {digits : Nat}
    (isHit : interval.hit? exponent = some digits) :
    0 < digits := by
  have floorPositive : 0 < (interval.onGrid exponent).1 := by
    by_contra isZero
    have ceiling := (onGrid_bounds positive exponent).2
    rw [Nat.eq_zero_of_not_pos isZero, Nat.zero_add, Nat.cast_one, one_mul] at ceiling
    exact absurd ceiling (not_lt.mpr reached)
  simp only [hit?] at isHit
  split_ifs at isHit
  all_goals
    cases isHit
    omega

/-- So has the search on any finer grid. -/
theorem pos_of_search
    (positive : 0 < interval.den)
    {count : Nat}
    {start : Int}
    (reached : 10 ^ start * interval.den ≤ (interval.value : ℚ))
    {digits : Nat}
    {place : Int}
    (found : interval.search count start = some (digits, place)) :
    0 < digits := by
  induction count generalizing start with
  | zero => cases found
  | succ count ih =>
      rw [search] at found
      split at found
      · rename_i first isHit
        cases found
        exact pos_of_hit? positive reached isHit
      · refine ih (le_trans ?_ reached) found
        have finer : (10 : ℚ) ^ (start - 1) ≤ 10 ^ start :=
          zpow_le_zpow_right₀ (by norm_num) (by omega)
        exact mul_le_mul_of_nonneg_right finer (Nat.cast_nonneg interval.den)

end RoundingInterval

/-- The shortest decimal of a number that is not zero is normal and has its sign. -/
theorem isNormal_of_shortest?
    {negative : Bool}
    {significand : Nat}
    {exponent : Int}
    {decimal : Decimal}
    (positive : 0 < significand)
    (inPrecision : significand < 2 ^ 53)
    (isShortest : (finite negative significand exponent).shortest? = some decimal) :
    decimal.IsNormal ∧ decimal.negative = negative := by
  have isWide := wide_roundingInterval positive inPrecision exponent
  have started := ten_zpow_floorLog10_le (Nat.zero_lt_of_lt isWide.low) isWide.den
  simp only [shortest?] at isShortest
  obtain ⟨⟨digits, place⟩, found, rfl⟩ := Option.map_eq_some_iff.mp isShortest
  have notZero := RoundingInterval.pos_of_search isWide.den started found
  exact ⟨Decimal.isNormal_ofDigits notZero.ne' negative place, rfl⟩

end Binary64

end ServiceLevel
