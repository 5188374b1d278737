import Mathlib.Data.List.TakeWhile
import ServiceLevel.Proofs.Number.NormalForm
import ServiceLevel.Proofs.Number.Notation

/-!
# What numerals denote

A numeral is a run of digits, perhaps with a point between two of them, with a minus sign in
front if it is negative, and with an exponent behind if it is scientific.  The plain layout of a
decimal and the concise one are numerals of the very decimal, whatever its digits and its
exponent, and no zero ends the places behind the point.  The main statement says this of the
shortest decimal of every finite number that is not zero, and that the two layouts differ by the
exponent alone, from the sixth power of ten on and below the minus fourth.
-/

namespace ServiceLevel

namespace Decimal

/-! ## Reading numerals -/

/-- The number that a run of digits denotes. -/
def readDigits (text : List Char) : Option Nat :=
  if text ≠ [] ∧ text.all Char.isDigit then some (Nat.ofDigitChars 10 text 0) else none

/-- A text up to the first mark in it, and what is behind the mark if there is one. -/
def cut (mark : Char) (text : List Char) : List Char × Option (List Char) :=
  (text.takeWhile (· ≠ mark), (text.dropWhile (· ≠ mark)).tail?)

/-- The number that digits denote, those behind a point being tenths, hundredths and so on. -/
def readPositional (text : List Char) : Option ℚ :=
  match cut '.' text with
  | (whole, none) => (readDigits whole).map fun number : Nat => (number : ℚ)
  | (whole, some places) =>
    (readDigits whole).bind fun number : Nat =>
      (readDigits places).map fun part : Nat => (number : ℚ) + part / 10 ^ places.length

/-- The exponent that digits with a sign denote. -/
def readExponent : List Char → Option ℤ
  | '+' :: digits => (readDigits digits).map fun number : Nat => (number : ℤ)
  | '-' :: digits => (readDigits digits).map fun number : Nat => -(number : ℤ)
  | _ => none

/-- The number that a numeral without a minus sign in front denotes. -/
def readMagnitude (text : List Char) : Option ℚ :=
  match cut 'e' text with
  | (mantissa, none) => readPositional mantissa
  | (mantissa, some power) =>
    (readPositional mantissa).bind fun number =>
      (readExponent power).map fun exponent => number * 10 ^ exponent

/-- The number that a numeral denotes. -/
def readNumeral : List Char → Option ℚ
  | '-' :: text => (readMagnitude text).map fun number => -number
  | text => readMagnitude text

/-- The digits of a numeral behind its point, if it has one. -/
def places (text : List Char) : List Char :=
  ((cut '.' text).2.getD []).takeWhile Char.isDigit

/-- The value of a decimal. -/
def value (decimal : Decimal) : ℚ :=
  (if decimal.negative then -(decimal.digits : ℚ) else decimal.digits) * 10 ^ decimal.exponent

/-- A product of a signed number and a positive one has the sign. -/
theorem signed_mul_neg_iff
    {number : Nat}
    (notZero : number ≠ 0)
    {scale : ℚ}
    (positive : 0 < scale)
    {negative : Bool} :
    (if negative then -(number : ℚ) else number) * scale < 0 ↔ negative = true := by
  have numberPositive : (0 : ℚ) < number := by exact_mod_cast Nat.pos_of_ne_zero notZero
  have product : 0 < (number : ℚ) * scale := mul_pos numberPositive positive
  cases negative with
  | true =>
      rw [if_pos rfl, neg_mul]
      exact iff_of_true (neg_neg_of_pos product) rfl
  | false =>
      rw [if_neg Bool.false_ne_true]
      exact iff_of_false (not_lt.mpr product.le) Bool.false_ne_true

/-! ## Cuts -/

section

variable {mark : Char} {front : List Char}

theorem cut_append
    (notInFront : mark ∉ front)
    (behind : List Char) :
    cut mark (front ++ mark :: behind) = (front, some behind) := by
  have isFront : ∀ c ∈ front, decide (c ≠ mark) = true :=
    fun c member => decide_eq_true (ne_of_mem_of_not_mem member notInFront)
  rw [cut, List.takeWhile_append_of_pos isFront, List.dropWhile_append_of_pos isFront,
    List.takeWhile_cons_of_neg (by simp), List.dropWhile_cons_of_neg (by simp),
    List.append_nil]
  rfl

theorem cut_of_notMem
    (notThere : mark ∉ front) :
    cut mark front = (front, none) := by
  have isFront : ∀ c ∈ front, decide (c ≠ mark) = true :=
    fun c member => decide_eq_true (ne_of_mem_of_not_mem member notThere)
  rw [cut, List.takeWhile_eq_self_iff.mpr isFront, List.dropWhile_eq_nil_iff.mpr isFront]
  rfl

/-- What is in front of the first mark of a text does not move what is behind it. -/
theorem cut_snd_append
    (notInFront : mark ∉ front)
    (behind : List Char) :
    (cut mark (front ++ behind)).2 = (cut mark behind).2 := by
  have isFront : ∀ c ∈ front, decide (c ≠ mark) = true :=
    fun c member => decide_eq_true (ne_of_mem_of_not_mem member notInFront)
  rw [cut, List.dropWhile_append_of_pos isFront]
  rfl

end

/-! ## Digits -/

namespace IsDigits

variable {digits others : List Char}

theorem notMem
    (isDigits : IsDigits digits)
    {mark : Char}
    (noDigit : mark.isDigit = false) :
    mark ∉ digits := by
  intro member
  rw [isDigits.digits mark member] at noDigit
  cases noDigit

theorem readDigits_eq
    (isDigits : IsDigits digits) :
    readDigits digits = some (Nat.ofDigitChars 10 digits 0) :=
  if_pos ⟨isDigits.nonempty, List.all_eq_true.mpr isDigits.digits⟩

theorem readPositional_whole
    (isDigits : IsDigits digits) :
    readPositional digits = some (Nat.ofDigitChars 10 digits 0 : ℚ) := by
  rw [readPositional, cut_of_notMem (isDigits.notMem rfl)]
  simp only [isDigits.readDigits_eq, Option.map_some]

/-- A point moves the digits in front of it and behind it together. -/
theorem readPositional_fraction
    (isDigits : IsDigits digits)
    (arePlaces : IsDigits others) :
    readPositional (digits ++ '.' :: others) =
      some ((Nat.ofDigitChars 10 (digits ++ others) 0 : ℚ) / 10 ^ others.length) := by
  have scale : (10 : ℚ) ^ others.length ≠ 0 := pow_ne_zero _ (by norm_num)
  rw [readPositional, cut_append (isDigits.notMem rfl)]
  simp only [isDigits.readDigits_eq, arePlaces.readDigits_eq, Option.bind_some, Option.map_some]
  rw [Nat.ofDigitChars_append,
    @Nat.ofDigitChars_eq_ofDigitChars_zero others (Nat.ofDigitChars 10 digits 0), Nat.cast_add,
    Nat.cast_mul, Nat.cast_pow, Nat.cast_ofNat, add_div, mul_div_cancel_left₀ _ scale]

end IsDigits

/-! ## Positional numerals -/

section

variable {digits : List Char} {exponent : Int}

theorem readPositional_positional
    (isDigits : IsDigits digits)
    (exponent : Int) :
    readPositional (positional digits exponent) =
      some ((Nat.ofDigitChars 10 digits 0 : ℚ) * 10 ^ exponent) := by
  rcases lt_or_ge exponent 0 with isNegative | notNegative
  · obtain ⟨whole, others, isFraction⟩ := exists_isFraction isDigits isNegative
    have power : (10 : ℚ) ^ exponent = (10 ^ exponent.natAbs)⁻¹ := by
      rw [← zpow_natCast, ← zpow_neg, Int.ofNat_natAbs_of_nonpos isNegative.le, neg_neg]
    rw [isFraction.layout, isFraction.isWhole.readPositional_fraction isFraction.arePlaces,
      isFraction.number, isFraction.length, power, div_eq_mul_inv]
  · have power : (10 : ℚ) ^ exponent = 10 ^ exponent.natAbs := by
      rw [← zpow_natCast, Int.natAbs_of_nonneg notNegative]
    rw [positional_of_nonneg notNegative, (isDigits.append_zeros _).readPositional_whole,
      Nat.ofDigitChars_append, Nat.ofDigitChars_replicate_zero, power, Nat.cast_mul,
      Nat.cast_pow, Nat.cast_ofNat, mul_comm]

/-- A positional numeral has no other characters than digits and a point. -/
theorem isDigit_or_point_of_mem_positional
    (isDigits : IsDigits digits)
    {c : Char}
    (member : c ∈ positional digits exponent) :
    c.isDigit ∨ c = '.' := by
  have isPositional := isDigits.positional exponent
  generalize positional digits exponent = text at isPositional member
  cases isPositional with
  | whole isWhole => exact Or.inl (isWhole.digits c member)
  | fraction isWhole arePlaces =>
      rcases List.mem_append.mp member with inWhole | behind
      · exact Or.inl (isWhole.digits c inWhole)
      · rcases List.mem_cons.mp behind with isPoint | inPlaces
        · exact Or.inr isPoint
        · exact Or.inl (arePlaces.digits c inPlaces)

theorem mark_notMem_positional
    (isDigits : IsDigits digits) :
    'e' ∉ positional digits exponent := by
  intro member
  have allowed := isDigit_or_point_of_mem_positional isDigits member
  revert allowed
  decide

theorem readMagnitude_positional
    (isDigits : IsDigits digits)
    (exponent : Int) :
    readMagnitude (positional digits exponent) =
      some ((Nat.ofDigitChars 10 digits 0 : ℚ) * 10 ^ exponent) := by
  rw [readMagnitude, cut_of_notMem (mark_notMem_positional isDigits)]
  exact readPositional_positional isDigits exponent

/-- The places of a numeral end where its digits do. -/
theorem places_fraction
    {whole others behind : List Char}
    (isWhole : IsDigits whole)
    (arePlaces : IsDigits others)
    (noDigit : behind.takeWhile Char.isDigit = []) :
    places (whole ++ '.' :: (others ++ behind)) = others := by
  rw [places, cut_append (isWhole.notMem rfl), Option.getD_some,
    List.takeWhile_append_of_pos arePlaces.digits, noDigit, List.append_nil]

theorem places_of_noPoint
    {text : List Char}
    (noPoint : '.' ∉ text) :
    places text = [] := by
  rw [places, cut_of_notMem noPoint]
  rfl

theorem places_positional
    (isDigits : IsDigits digits)
    (exponent : Int) :
    places (positional digits exponent) = [] ∨
      (places (positional digits exponent)).getLast? = digits.getLast? := by
  rcases lt_or_ge exponent 0 with isNegative | notNegative
  · right
    obtain ⟨whole, others, isFraction⟩ := exists_isFraction isDigits isNegative
    have found := @places_fraction whole others [] isFraction.isWhole isFraction.arePlaces rfl
    rw [List.append_nil] at found
    rw [isFraction.layout, found, isFraction.last]
  · left
    rw [positional_of_nonneg notNegative]
    exact places_of_noPoint ((isDigits.append_zeros _).notMem rfl)

/-! ## Scientific numerals -/

/-- The text of an exponent: its sign, and two digits or more. -/
structure IsExponentText (exponent : Int) (text : List Char) : Prop where
  signed :
    ∃ digits,
      IsDigits digits ∧ 2 ≤ digits.length ∧ text = (if exponent < 0 then '-' else '+') :: digits
  denotes : readExponent text = some exponent

theorem isExponentText (exponent : Int) : IsExponentText exponent (exponentText exponent) := by
  have isDigits :
      IsDigits
        (List.replicate (2 - (Nat.toDigits 10 exponent.natAbs).length) '0' ++
          Nat.toDigits 10 exponent.natAbs) :=
    (isDigits_toDigits _).zeros_append _
  refine ⟨⟨_, isDigits, ?_, rfl⟩, ?_⟩
  · rw [List.length_append, List.length_replicate]
    omega
  · have number := isDigits.readDigits_eq
    rw [Nat.ofDigitChars_append, Nat.ofDigitChars_replicate_zero, Nat.mul_zero,
      Nat.ofDigitChars_ten_toDigits] at number
    rw [exponentText]
    split
    · rename_i isNegative
      rw [readExponent, number, Option.map_some, Int.ofNat_natAbs_of_nonpos isNegative.le, neg_neg]
    · rename_i notNegative
      rw [readExponent, number, Option.map_some, Int.natAbs_of_nonneg (not_lt.mp notNegative)]

/-- A scientific numeral has one digit in front of the point, and no point if that is all. -/
theorem scientific_cases
    (isDigits : IsDigits digits)
    (leading : Int) :
    (digits.length = 1 ∧
        scientific digits leading = digits ++ 'e' :: exponentText leading) ∨
      ∃ whole others,
        IsDigits whole ∧
          IsDigits others ∧
          digits = whole ++ others ∧
          whole.length = 1 ∧
          scientific digits leading =
            whole ++ '.' :: (others ++ 'e' :: exponentText leading) := by
  match digits with
  | [] => exact absurd rfl isDigits.nonempty
  | [_] => exact Or.inl ⟨rfl, rfl⟩
  | first :: second :: rest =>
      obtain ⟨isWhole, areOthers⟩ := isDigits.split one_pos (by simp)
      exact Or.inr ⟨_, _, isWhole, areOthers, rfl, rfl, rfl⟩

theorem exists_scientific (digits : List Char) (leading : Int) :
    ∃ mantissa, scientific digits leading = mantissa ++ 'e' :: exponentText leading :=
  ⟨_, rfl⟩

theorem readMagnitude_scientific
    (isDigits : IsDigits digits)
    (leading : Int) :
    readMagnitude (scientific digits leading) =
      some ((Nat.ofDigitChars 10 digits 0 : ℚ) * 10 ^ (leading - (digits.length - 1))) := by
  have power := (isExponentText leading).denotes
  rcases scientific_cases isDigits leading with
    ⟨single, layout⟩ | ⟨whole, others, isWhole, areOthers, rfl, single, layout⟩
  · rw [layout, readMagnitude, cut_append (isDigits.notMem rfl)]
    simp only [isDigits.readPositional_whole, power, Option.bind_some, Option.map_some]
    rw [single, Nat.cast_one, sub_self, sub_zero]
  · have noMark : 'e' ∉ whole ++ '.' :: others := by
      intro member
      rcases List.mem_append.mp member with inWhole | behind
      · exact isWhole.notMem rfl inWhole
      · rcases List.mem_cons.mp behind with impossible | inOthers
        · cases impossible
        · exact areOthers.notMem rfl inOthers
    have asMantissa :
        whole ++ '.' :: (others ++ 'e' :: exponentText leading) =
          (whole ++ '.' :: others) ++ 'e' :: exponentText leading := by
      rw [List.append_assoc, List.cons_append]
    have places : ((whole ++ others).length : Int) - 1 = others.length := by
      rw [List.length_append, single]
      push_cast
      ring
    rw [layout, asMantissa, readMagnitude, cut_append noMark]
    simp only [isWhole.readPositional_fraction areOthers, power, Option.bind_some,
      Option.map_some]
    rw [places, zpow_sub₀ (by norm_num), zpow_natCast]
    congr 1
    ring

theorem places_scientific
    (isDigits : IsDigits digits)
    (leading : Int) :
    places (scientific digits leading) = [] ∨
      (places (scientific digits leading)).getLast? = digits.getLast? := by
  obtain ⟨power, isPower, _, isText⟩ := (isExponentText leading).signed
  rcases scientific_cases isDigits leading with
    ⟨_, layout⟩ | ⟨whole, others, isWhole, areOthers, rfl, _, layout⟩
  · left
    rw [layout, isText]
    apply places_of_noPoint
    intro member
    rcases List.mem_append.mp member with inDigits | behind
    · exact isDigits.notMem rfl inDigits
    · rcases List.mem_cons.mp behind with impossible | inText
      · cases impossible
      · rcases List.mem_cons.mp inText with isSign | inPower
        · split at isSign <;> cases isSign
        · exact isPower.notMem rfl inPower
  · right
    rw [layout, places_fraction isWhole areOthers rfl,
      List.getLast?_append_of_ne_nil _ areOthers.nonempty]

end

/-! ## Layouts -/

/-- A text is a numeral of a decimal: it denotes the decimal, a minus sign in front says that this
is negative, and no zero ends the places behind a point. -/
structure Writes (text : List Char) (decimal : Decimal) : Prop where
  denotes : readNumeral text = some decimal.value
  sign : text.head? = some '-' ↔ decimal.value < 0
  trimmed : (places text).getLast? ≠ some '0'

section

variable {decimal : Decimal}

theorem isDigits_digitChars (decimal : Decimal) : IsDigits decimal.digitChars :=
  isDigits_toDigits decimal.digits

theorem value_neg_iff
    (notZero : decimal.digits ≠ 0) :
    decimal.value < 0 ↔ decimal.negative = true :=
  signed_mul_neg_iff notZero (zpow_pos (by norm_num) decimal.exponent)

/-- A numeral without a sign becomes one of the decimal by the sign of the decimal. -/
theorem writes_signed
    (isNormal : decimal.IsNormal)
    {text : List Char}
    (noSign : text.head? ≠ some '-')
    (denotes : readMagnitude text = some (decimal.digits * 10 ^ decimal.exponent : ℚ))
    (trimmed : places text = [] ∨ (places text).getLast? = decimal.digitChars.getLast?) :
    Writes (Decimal.sign decimal.negative ++ text) decimal where
  denotes := by
    rw [value]
    cases decimal.negative with
    | true =>
        show (readMagnitude text).map (fun number => -number) = _
        rw [denotes, if_pos rfl, Option.map_some, neg_mul]
    | false =>
        rw [if_neg Bool.false_ne_true, ← denotes]
        show readNumeral text = readMagnitude text
        rw [readNumeral.eq_def]
        split
        · exact absurd rfl noSign
        · rfl
  sign := by
    rw [value_neg_iff isNormal.digits_ne_zero]
    cases decimal.negative with
    | true => exact iff_of_true rfl rfl
    | false => exact iff_of_false noSign Bool.false_ne_true
  trimmed := by
    have notInSign : '.' ∉ Decimal.sign decimal.negative := by
      cases decimal.negative with
      | true => decide
      | false => decide
    rw [places, cut_snd_append notInSign, ← places]
    rcases trimmed with none | same
    · rw [none]
      exact Option.some_ne_none '0' ∘ Eq.symm
    · rw [same]
      exact isNormal.last

theorem head?_positional
    (decimal : Decimal) :
    (positional decimal.digitChars decimal.exponent).head? ≠ some '-' := by
  intro isFirst
  have allowed :=
    isDigit_or_point_of_mem_positional (isDigits_digitChars decimal)
      (List.mem_of_mem_head? isFirst)
  revert allowed
  decide

theorem writes_plain
    (isNormal : decimal.IsNormal) :
    Writes decimal.plain decimal := by
  have isDigits := isDigits_digitChars decimal
  refine
    writes_signed isNormal (head?_positional decimal) ?_
      (places_positional isDigits decimal.exponent)
  rw [readMagnitude_positional isDigits, digitChars, Nat.ofDigitChars_ten_toDigits]

theorem head?_scientific
    (decimal : Decimal)
    (leading : Int) :
    (scientific decimal.digitChars leading).head? ≠ some '-' := by
  have isDigits := isDigits_digitChars decimal
  have noSign {front : List Char} (areDigits : IsDigits front) (behind : List Char) :
      (front ++ behind).head? ≠ some '-' := by
    rw [List.head?_append_of_ne_nil _ areDigits.nonempty]
    intro isFirst
    exact areDigits.notMem rfl (List.mem_of_mem_head? isFirst)
  rcases scientific_cases isDigits leading with
    ⟨_, layout⟩ | ⟨whole, others, isWhole, _, _, _, layout⟩
  · rw [layout]
    exact noSign isDigits _
  · rw [layout]
    exact noSign isWhole _

theorem writes_scientific
    (isNormal : decimal.IsNormal) :
    Writes (Decimal.sign decimal.negative ++ scientific decimal.digitChars decimal.leading)
      decimal := by
  have isDigits := isDigits_digitChars decimal
  have exponent : decimal.leading - (decimal.digitChars.length - 1) = decimal.exponent := by
    rw [leading]
    ring
  refine
    writes_signed isNormal (head?_scientific decimal _) ?_ (places_scientific isDigits _)
  rw [readMagnitude_scientific isDigits, exponent, digitChars, Nat.ofDigitChars_ten_toDigits]

theorem mark_notMem_plain (decimal : Decimal) : 'e' ∉ decimal.plain := by
  intro member
  rcases List.mem_append.mp member with inSign | inDigits
  · revert inSign
    cases decimal.negative with
    | true => decide
    | false => decide
  · exact mark_notMem_positional (isDigits_digitChars decimal) inDigits

end

end Decimal

namespace Quantity

open Decimal (Writes IsExponentText)

/-- The magnitudes that the concise layout writes with an exponent. -/
def IsOutlying (leading : Int) : Prop :=
  leading < -4 ∨ 6 ≤ leading

theorem concise_layout (decimal : Decimal) :
    (IsOutlying decimal.leading ∧
        decimal.concise =
          Decimal.sign decimal.negative ++
            Decimal.scientific decimal.digitChars decimal.leading) ∨
      ¬ IsOutlying decimal.leading ∧ decimal.concise = decimal.plain := by
  rw [Decimal.concise]
  split
  · rename_i outlying
    rw [Bool.or_eq_true, decide_eq_true_iff, decide_eq_true_iff] at outlying
    exact Or.inl ⟨outlying, rfl⟩
  · rename_i inside
    rw [Bool.or_eq_true, decide_eq_true_iff, decide_eq_true_iff] at inside
    exact Or.inr ⟨inside, rfl⟩

theorem writes_concise
    {decimal : Decimal}
    (isNormal : decimal.IsNormal) :
    Writes decimal.concise decimal := by
  rcases concise_layout decimal with ⟨_, layout⟩ | ⟨_, layout⟩
  · rw [layout]
    exact Decimal.writes_scientific isNormal
  · rw [layout]
    exact Decimal.writes_plain isNormal

/-- Exactly the outlying decimals are written with an exponent, which is that of their first
digit. -/
theorem isOutlying_iff_exists_exponent {decimal : Decimal} :
    IsOutlying decimal.leading ↔
      ∃ mantissa power,
        decimal.concise = mantissa ++ 'e' :: power ∧ IsExponentText decimal.leading power := by
  constructor
  · intro outlying
    rcases concise_layout decimal with ⟨_, layout⟩ | ⟨inside, _⟩
    · obtain ⟨mantissa, split⟩ :=
        Decimal.exists_scientific decimal.digitChars decimal.leading
      rw [layout, split, ← List.append_assoc]
      exact ⟨_, _, rfl, Decimal.isExponentText decimal.leading⟩
    · exact absurd outlying inside
  · rintro ⟨mantissa, power, layout, _⟩
    by_contra inside
    rcases concise_layout decimal with ⟨outlying, _⟩ | ⟨_, same⟩
    · exact inside outlying
    · apply Decimal.mark_notMem_plain decimal
      rw [← same, layout]
      exact List.mem_append_right mantissa List.mem_cons_self

/--
A finite number that is not zero has a shortest decimal, with its sign and with no zero at either
end of its digits.  Its concise text and its plain text are numerals of exactly this decimal.  The
plain text has no exponent.  The concise text has one, of two digits or more and with its sign, if
the first digit stands below the minus fourth power of ten or at the sixth or above; otherwise it
is the plain text.
-/
theorem layouts_denote_shortest
    {x : Binary64}
    (isFinite : x.isFinite = true)
    (inPrecision : x.InPrecision)
    (notZero : x.isZero = false) :
    ∃ decimal conciseText plainText,
      x.shortest? = some decimal ∧
        decimal.IsNormal ∧
        (decimal.value < 0 ↔ ∃ value ∈ x.value?, value < 0) ∧
        concise (.float x) = .ok conciseText ∧
        plain (.float x) = .ok plainText ∧
        Writes conciseText.toList decimal ∧
        Writes plainText.toList decimal ∧
        'e' ∉ plainText.toList ∧
        (decimal.leading < -4 ∨ 6 ≤ decimal.leading ↔
          ∃ mantissa power,
            conciseText.toList = mantissa ++ 'e' :: power ∧
              IsExponentText decimal.leading power) ∧
        (¬ (decimal.leading < -4 ∨ 6 ≤ decimal.leading) → conciseText = plainText) := by
  cases x with
  | nan => cases isFinite
  | infinity negative => cases isFinite
  | finite negative significand exponent =>
      have positive : 0 < significand := by
        apply Nat.pos_of_ne_zero
        rintro rfl
        cases notZero
      obtain ⟨decimal, isShortest⟩ :=
        Binary64.exists_shortest? positive inPrecision negative exponent
      obtain ⟨isNormal, sameSign⟩ :=
        Binary64.isNormal_of_shortest? positive inPrecision isShortest
      have conciseText :
          conciseBinary64 (.finite negative significand exponent) =
            String.ofList decimal.concise := by
        rw [conciseBinary64, notZero, if_neg Bool.false_ne_true, isShortest]
        rfl
      have plainText :
          plainBinary64 (.finite negative significand exponent) = String.ofList decimal.plain := by
        rw [plainBinary64, notZero, if_neg Bool.false_ne_true, isShortest]
        rfl
      refine
        ⟨decimal, String.ofList decimal.concise, String.ofList decimal.plain, isShortest, isNormal,
          ?_, congrArg Except.ok conciseText, congrArg Except.ok plainText, ?_, ?_, ?_, ?_, ?_⟩
      · have valueNegative :=
          @Decimal.signed_mul_neg_iff significand positive.ne' (2 ^ exponent)
            (zpow_pos two_pos exponent) negative
        rw [Decimal.value_neg_iff isNormal.digits_ne_zero, sameSign, ← valueNegative]
        constructor
        · exact fun isNegative => ⟨_, rfl, isNegative⟩
        · rintro ⟨value, isValue, isNegative⟩
          cases isValue
          exact isNegative
      · rw [String.toList_ofList]
        exact writes_concise isNormal
      · rw [String.toList_ofList]
        exact Decimal.writes_plain isNormal
      · rw [String.toList_ofList]
        exact Decimal.mark_notMem_plain decimal
      · rw [String.toList_ofList]
        exact isOutlying_iff_exists_exponent
      · intro inside
        rcases concise_layout decimal with ⟨outlying, _⟩ | ⟨_, same⟩
        · exact absurd outlying inside
        · rw [same]

/-- The number below zero that is nearest to it is written with a single digit, and as a
fraction of 324 places. -/
theorem layouts_denote_shortest_of_smallest :
    ∃ conciseText plainText,
      concise (.float (.finite true 1 (-1074))) = .ok conciseText ∧
        plain (.float (.finite true 1 (-1074))) = .ok plainText ∧
        Decimal.readNumeral conciseText.toList = some (-5 / 10 ^ 324) ∧
        Decimal.readNumeral plainText.toList = some (-5 / 10 ^ 324) ∧
        'e' ∈ conciseText.toList := by
  obtain
    ⟨decimal, conciseText, plainText, isShortest, _, _, isConcise, isPlain, writesConcise,
      writesPlain, _, outlying, _⟩ :=
    @layouts_denote_shortest (.finite true 1 (-1074)) rfl (by decide : 1 < 2 ^ 53) rfl
  have found : (Binary64.finite true 1 (-1074)).shortest? = some ⟨true, 5, -324⟩ := by
    decide +kernel
  cases Option.some.inj (found.symm.trans isShortest)
  have isValue : Decimal.value ⟨true, 5, -324⟩ = -5 / 10 ^ 324 := by
    rw [Decimal.value, if_pos rfl, zpow_neg, div_eq_mul_inv]
    rfl
  refine ⟨conciseText, plainText, isConcise, isPlain, ?_, ?_, ?_⟩
  · rw [writesConcise.denotes, isValue]
  · rw [writesPlain.denotes, isValue]
  · obtain ⟨mantissa, power, layout, _⟩ := outlying.mp (Or.inl (by decide))
    rw [layout]
    exact List.mem_append_right mantissa List.mem_cons_self

end Quantity

end ServiceLevel
