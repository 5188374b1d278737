import ServiceLevel.Proofs.Number.ExactValue
import ServiceLevel.Proofs.Number.SeventeenDigits
import ServiceLevel.Quantity.Text

/-!
# Numerals

The texts that numbers have in rules are decimal numerals exactly if the numbers are finite.
What is written for not-a-number and for the infinities has no digit at all.
-/

namespace ServiceLevel

namespace Decimal

/-- One digit or more. -/
structure IsDigits (text : List Char) : Prop where
  nonempty : text ≠ []
  digits : ∀ c ∈ text, c.isDigit

/-- Digits, perhaps with a point between two of them. -/
inductive IsPositional : List Char → Prop
  | whole {digits : List Char} (isWhole : IsDigits digits) : IsPositional digits
  | fraction
      {whole places : List Char}
      (isWhole : IsDigits whole)
      (arePlaces : IsDigits places) :
      IsPositional (whole ++ '.' :: places)

/-- A finite decimal, perhaps with an exponent. -/
inductive IsNumeral : List Char → Prop
  | plain
      {text : List Char}
      (negative : Bool)
      (isPositional : IsPositional text) :
      IsNumeral (sign negative ++ text)
  | scientific
      {mantissa exponent : List Char}
      {direction : Char}
      (negative : Bool)
      (isMantissa : IsPositional mantissa)
      (isDirection : direction ∈ ['+', '-'])
      (isExponent : IsDigits exponent) :
      IsNumeral (sign negative ++ (mantissa ++ 'e' :: direction :: exponent))

/-! ## Digits -/

theorem isDigits_toDigits (value : Nat) : IsDigits (Nat.toDigits 10 value) where
  nonempty := Nat.toDigits_ne_nil
  digits _ member := Nat.isDigit_of_mem_toDigits (by decide) (by decide) member

theorem isDigit_of_mem_zeros
    {count : Nat}
    {c : Char}
    (member : c ∈ List.replicate count '0') :
    c.isDigit := by
  rw [List.eq_of_mem_replicate member]
  decide

namespace IsDigits

variable {digits : List Char}

theorem append_zeros
    (isDigits : IsDigits digits)
    (count : Nat) :
    IsDigits (digits ++ List.replicate count '0') where
  nonempty := List.append_ne_nil_of_left_ne_nil isDigits.nonempty _
  digits c member := by
    rcases List.mem_append.mp member with inDigits | inZeros
    · exact isDigits.digits c inDigits
    · exact isDigit_of_mem_zeros inZeros

theorem zeros_append
    (isDigits : IsDigits digits)
    (count : Nat) :
    IsDigits (List.replicate count '0' ++ digits) where
  nonempty := List.append_ne_nil_of_right_ne_nil _ isDigits.nonempty
  digits c member := by
    rcases List.mem_append.mp member with inZeros | inDigits
    · exact isDigit_of_mem_zeros inZeros
    · exact isDigits.digits c inDigits

/-- Both parts of digits that are divided inside are digits. -/
theorem split
    (isDigits : IsDigits digits)
    {count : Nat}
    (notFirst : 0 < count)
    (inside : count < digits.length) :
    IsDigits (digits.take count) ∧ IsDigits (digits.drop count) := by
  constructor
  · constructor
    · rw [Ne, List.take_eq_nil_iff]
      rintro (none | empty)
      · omega
      · exact isDigits.nonempty empty
    · intro c member
      exact isDigits.digits c (List.mem_of_mem_take member)
  · constructor
    · rw [Ne, List.drop_eq_nil_iff]
      omega
    · intro c member
      exact isDigits.digits c (List.mem_of_mem_drop member)

end IsDigits

/-! ## Layouts -/

section

variable {digits : List Char} {exponent : Int}

/-- The digits in front of the point and behind it in the layout of a decimal that reaches below
the units. -/
structure IsFraction (digits : List Char) (exponent : Int) (whole others : List Char) : Prop where
  isWhole : IsDigits whole
  arePlaces : IsDigits others
  layout : positional digits exponent = whole ++ '.' :: others
  length : others.length = exponent.natAbs
  number : Nat.ofDigitChars 10 (whole ++ others) 0 = Nat.ofDigitChars 10 digits 0
  last : others.getLast? = digits.getLast?

theorem positional_of_nonneg
    (notNegative : 0 ≤ exponent) :
    positional digits exponent = digits ++ List.replicate exponent.natAbs '0' :=
  if_pos notNegative

/-- The point stands among the digits, or in front of all of them behind a single zero. -/
theorem exists_isFraction
    (isDigits : IsDigits digits)
    (isNegative : exponent < 0) :
    ∃ whole others, IsFraction digits exponent whole others := by
  by_cases inside : exponent.natAbs < digits.length
  · have notFirst : 0 < digits.length - exponent.natAbs := by omega
    have notLast : digits.length - exponent.natAbs < digits.length := by omega
    obtain ⟨isWhole, arePlaces⟩ := isDigits.split notFirst notLast
    exact
      ⟨_, _,
        { isWhole := isWhole
          arePlaces := arePlaces
          layout := by
            rw [positional, if_neg (not_le.mpr isNegative)]
            exact if_pos inside
          length := by
            rw [List.length_drop]
            omega
          number := by rw [List.take_append_drop]
          last := by rw [List.getLast?_drop, if_neg (by omega)] }⟩
  · exact
      ⟨['0'], _,
        { isWhole := isDigits_toDigits 0
          arePlaces := isDigits.zeros_append (exponent.natAbs - digits.length)
          layout := by
            rw [positional, if_neg (not_le.mpr isNegative)]
            exact if_neg inside
          length := by
            rw [List.length_append, List.length_replicate]
            omega
          number := by
            rw [List.singleton_append, ← List.cons_append, ← List.replicate_succ,
              Nat.ofDigitChars_append, Nat.ofDigitChars_replicate_zero, Nat.mul_zero]
          last := by rw [List.getLast?_append_of_ne_nil _ isDigits.nonempty] }⟩

end

namespace IsDigits

variable {digits : List Char}

theorem positional
    (isDigits : IsDigits digits)
    (exponent : Int) :
    IsPositional (Decimal.positional digits exponent) := by
  rcases lt_or_ge exponent 0 with isNegative | notNegative
  · obtain ⟨whole, others, isFraction⟩ := exists_isFraction isDigits isNegative
    rw [isFraction.layout]
    exact .fraction isFraction.isWhole isFraction.arePlaces
  · rw [positional_of_nonneg notNegative]
    exact .whole (isDigits.append_zeros _)

theorem mantissa
    {first second : Char}
    {rest : List Char}
    (isDigits : IsDigits (first :: second :: rest)) :
    IsPositional (first :: '.' :: second :: rest) := by
  obtain ⟨isWhole, arePlaces⟩ := isDigits.split one_pos (by simp)
  exact .fraction isWhole arePlaces

theorem scientific
    (isDigits : IsDigits digits)
    (negative : Bool)
    (leading : Int) :
    IsNumeral (sign negative ++ Decimal.scientific digits leading) := by
  have isDirection : (if leading < 0 then '-' else '+') ∈ ['+', '-'] := by
    split <;> decide
  simp only [Decimal.scientific, exponentText]
  apply IsNumeral.scientific negative _ isDirection ((isDigits_toDigits _).zeros_append _)
  split
  · exact isDigits.mantissa
  · exact .whole isDigits

end IsDigits

theorem isNumeral_plain (decimal : Decimal) : IsNumeral decimal.plain :=
  .plain decimal.negative ((isDigits_toDigits decimal.digits).positional decimal.exponent)

theorem isNumeral_concise (decimal : Decimal) : IsNumeral decimal.concise := by
  rw [concise]
  split
  · exact (isDigits_toDigits decimal.digits).scientific decimal.negative decimal.leading
  · exact isNumeral_plain decimal

/-! ## Texts without digits -/

theorem IsPositional.exists_isDigit
    {text : List Char}
    (isPositional : IsPositional text) :
    ∃ c ∈ text, c.isDigit := by
  cases isPositional with
  | whole isWhole =>
      obtain ⟨first, isFirst⟩ := List.exists_mem_of_ne_nil _ isWhole.nonempty
      exact ⟨first, isFirst, isWhole.digits first isFirst⟩
  | fraction isWhole =>
      obtain ⟨first, isFirst⟩ := List.exists_mem_of_ne_nil _ isWhole.nonempty
      exact ⟨first, List.mem_append_left _ isFirst, isWhole.digits first isFirst⟩

theorem IsNumeral.exists_isDigit
    {text : List Char}
    (isNumeral : IsNumeral text) :
    ∃ c ∈ text, c.isDigit := by
  cases isNumeral with
  | plain negative isPositional =>
      obtain ⟨c, member, isDigit⟩ := isPositional.exists_isDigit
      exact ⟨c, List.mem_append_right _ member, isDigit⟩
  | scientific negative isMantissa =>
      obtain ⟨c, member, isDigit⟩ := isMantissa.exists_isDigit
      exact ⟨c, List.mem_append_right _ (List.mem_append_left _ member), isDigit⟩

end Decimal

namespace Quantity

open Decimal (IsNumeral)

/-- The shortest decimals of finite numbers are numerals, and the names of the others are not. -/
theorem isNumeral_shortest_iff
    {x : Binary64}
    (inPrecision : x.InPrecision)
    {layout : Decimal → List Char}
    (numerals : ∀ decimal, IsNumeral (layout decimal))
    {special : String}
    (noDigit : x.isFinite = false → special.toList.all fun c => !c.isDigit) :
    IsNumeral
        (if x.isZero then "0"
          else (x.shortest?.map layout).elim special String.ofList).toList ↔
      x.isFinite = true := by
  constructor
  · intro isNumeral
    by_contra notFinite
    rw [Bool.not_eq_true] at notFinite
    have written :
        (if x.isZero then "0"
          else (x.shortest?.map layout).elim special String.ofList) = special := by
      cases x with
      | nan => rfl
      | infinity negative => rfl
      | finite negative significand exponent => cases notFinite
    rw [written] at isNumeral
    obtain ⟨c, member, isDigit⟩ := isNumeral.exists_isDigit
    have notDigit := List.all_eq_true.mp (noDigit notFinite) c member
    rw [isDigit] at notDigit
    cases notDigit
  · intro isFinite
    cases x with
    | nan => cases isFinite
    | infinity negative => cases isFinite
    | finite negative significand exponent =>
        cases significand with
        | zero =>
            have isZero : "0".toList = Decimal.sign false ++ Nat.toDigits 10 0 := by decide
            show IsNumeral "0".toList
            rw [isZero]
            exact .plain false (.whole (Decimal.isDigits_toDigits 0))
        | succ significand =>
            obtain ⟨decimal, isShortest⟩ :=
              Binary64.exists_shortest? significand.succ_pos inPrecision negative exponent
            rw [isShortest]
            show IsNumeral (String.ofList (layout decimal)).toList
            rw [String.toList_ofList]
            exact numerals decimal

theorem isNumeral_conciseBinary64_iff
    {x : Binary64}
    (inPrecision : x.InPrecision) :
    IsNumeral (conciseBinary64 x).toList ↔ x.isFinite = true := by
  apply isNumeral_shortest_iff inPrecision Decimal.isNumeral_concise
  intro notFinite
  cases x with
  | nan => decide
  | infinity negative => cases negative <;> decide
  | finite negative significand exponent => cases notFinite

theorem isNumeral_plainBinary64_iff
    {x : Binary64}
    (inPrecision : x.InPrecision) :
    IsNumeral (plainBinary64 x).toList ↔ x.isFinite = true := by
  apply isNumeral_shortest_iff inPrecision Decimal.isNumeral_plain
  intro notFinite
  cases x with
  | nan => decide
  | infinity negative => cases negative <;> decide
  | finite negative significand exponent => cases notFinite

end Quantity

end ServiceLevel
