import ServiceLevel.Naming
import ServiceLevel.Proofs.Characters
import ServiceLevel.Proofs.Duration.Spelling
import ServiceLevel.Proofs.Number.Truncation

/-!
# Durations that are written and read

A duration is written as the counts of its units, which is a spelling of the duration.  The main
statement is that reading gives back the duration cut down to milliseconds, for as long as the
floating point quotient has room for the fraction, and any number of milliseconds up to `2 ^ 53`.
Such durations are told apart by their texts, and the windows of that length by their metrics.
-/

namespace ServiceLevel

namespace Text

/-! ## Digits -/

theorem digitValue?_of_isDigit
    {c : Char}
    (isDigit : c.isDigit) :
    digitValue? c = some (c.toNat - 48) := by
  obtain ⟨atLeast, atMost⟩ := Char.isDigit_iff_toNat.mp isDigit
  have first : zeros = 48 :: zeros.tail := rfl
  rw [digitValue?, first, List.find?_cons_of_pos, Option.map_some]
  rw [Bool.and_eq_true, decide_eq_true_iff, decide_eq_true_iff]
  exact ⟨atLeast, atMost⟩

theorem isDigit_of_mem_toDigits
    {count : Nat}
    {c : Char}
    (member : c ∈ Nat.toDigits 10 count) :
    isDigit c := by
  rw [isDigit, digitValue?_of_isDigit]
  · rfl
  · exact Nat.isDigit_of_mem_toDigits (by decide) (by decide) member

theorem digitsValue_eq_ofDigitChars
    {digits : List Char}
    (areDigits : ∀ c ∈ digits, c.isDigit)
    (start : Nat) :
    digitsValue start digits = Nat.ofDigitChars 10 digits start := by
  induction digits generalizing start with
  | nil => rfl
  | cons first rest ih =>
      have isFirst := areDigits first List.mem_cons_self
      rw [digitsValue, digitValue?_of_isDigit isFirst, Nat.ofDigitChars_cons, Nat.mul_comm start]
      exact ih (fun c member => areDigits c (List.mem_cons_of_mem _ member)) _

/-- The digits of a count denote it. -/
theorem digitsValue_toDigits (count : Nat) :
    digitsValue 0 (Nat.toDigits 10 count) = count := by
  rw [digitsValue_eq_ofDigitChars, Nat.ofDigitChars_ten_toDigits]
  intro c member
  exact Nat.isDigit_of_mem_toDigits (by decide) (by decide) member

end Text

namespace Duration

/-! ## Milliseconds -/

theorem milliseconds_of_nonneg (count : Nat) :
    milliseconds ⟨count⟩ = (Binary64.ofRatio false count 1000).truncate?.getD 0 := by
  have noSign : decide ((count : Int) < 0) = false :=
    decide_eq_false (Int.not_lt.mpr (Int.natCast_nonneg count))
  simp only [milliseconds, noSign, Int.natAbs_natCast]

/-- A quotient below `2 ^ 44` has nine binary places, which is enough for thousandths. -/
theorem milliseconds_of_lt
    {count : Nat}
    (isBelow : count < 2 ^ 44 * 1000) :
    milliseconds ⟨count⟩ = (count / 1000 : Nat) := by
  have cut :=
    @Binary64.truncate?_ofRatio_of_lt count 1000 44 (by decide) (by decide)
      (Nat.mul_comm _ 1000 ▸ isBelow) (Or.inl (by decide))
  rw [milliseconds_of_nonneg, cut, Option.getD_some]

/-- From there on a fraction may be rounded up. -/
example : milliseconds ⟨2 ^ 44 * 1000 + 999⟩ = 2 ^ 44 + 1 := by decide +kernel

theorem milliseconds_ofMilliseconds
    {count : Nat}
    (inPrecision : count ≤ 2 ^ 53) :
    (ofMilliseconds count).milliseconds = count := by
  rcases Nat.lt_or_eq_of_le inPrecision with isBelow | rfl
  · have whole : 1000 ∣ count * 1000 := Nat.dvd_mul_left 1000 count
    have asNat : ofMilliseconds count = ⟨((count * 1000 : Nat) : Int)⟩ := by
      rw [ofMilliseconds, Nat.cast_mul]
      rfl
    have cut :=
      @Binary64.truncate?_ofRatio_of_lt (count * 1000) 1000 53 (by decide) (by decide) (by omega)
        (Or.inr whole)
    rw [asNat, milliseconds_of_nonneg, cut, Option.getD_some, Nat.mul_div_cancel _ (by decide)]
  · decide +kernel

theorem prometheus_of_milliseconds
    {duration : Duration}
    {total : Nat}
    (counted : duration.milliseconds = total) :
    duration.prometheus = .ok (millisecondsText total) := by
  simp only [prometheus, counted]
  rw [if_neg (Int.not_lt.mpr (Int.natCast_nonneg total)), Int.toNat_natCast]

/-! ## Counts of units -/

/-- The milliseconds of some counts. -/
def sum (parts : List (Nat × DurationUnit)) : Nat :=
  (parts.map fun part => part.1 * part.2.milliseconds).sum

theorem parts_zero (units : List DurationUnit) : parts units 0 = [] := by
  induction units with
  | nil => rfl
  | cons unit rest ih =>
      rw [parts, Nat.zero_div, Nat.zero_mod]
      simp [ih]

/-- The counts of a duration add up to it. -/
theorem sum_parts
    {units : List DurationUnit}
    (counted : ∃ unit ∈ units, unit.exact = false ∧ unit.milliseconds = 1)
    (total : Nat) :
    sum (parts units total) = total := by
  induction units generalizing total with
  | nil =>
      obtain ⟨unit, impossible, _⟩ := counted
      cases impossible
  | cons unit rest ih =>
      -- Behind the unit of single milliseconds nothing may be left.
      have behind (left : Nat) (spent : unit.exact = false → unit.milliseconds = 1 → left = 0) :
          sum (parts rest left) = left := by
        obtain ⟨counter, member, inexact, single⟩ := counted
        rcases List.mem_cons.mp member with rfl | inRest
        · rw [spent inexact single, parts_zero]
          rfl
        · exact ih ⟨counter, inRest, inexact, single⟩ left
      rw [parts]
      split
      · rename_i skipped
        apply behind
        intro inexact _
        rw [inexact] at skipped
        cases skipped
      · split
        · rename_i small
          apply behind
          intro _ single
          rw [single, Nat.div_one] at small
          exact small
        · have left : sum (parts rest (total % unit.milliseconds)) = total % unit.milliseconds := by
            apply behind
            intro _ single
            rw [single, Nat.mod_one]
          show total / unit.milliseconds * unit.milliseconds + sum _ = total
          rw [left, Nat.div_add_mod']

theorem sublist_parts (units : List DurationUnit) (total : Nat) :
    ((parts units total).map Prod.snd).Sublist units := by
  induction units generalizing total with
  | nil => exact .slnil
  | cons unit rest ih =>
      rw [parts]
      split
      · exact (ih total).cons unit
      · split
        · exact (ih total).cons unit
        · exact (ih _).cons_cons unit

theorem fst_le_of_mem_parts
    {units : List DurationUnit}
    {total : Nat}
    {part : Nat × DurationUnit}
    (member : part ∈ parts units total) :
    part.1 ≤ total := by
  induction units generalizing total with
  | nil => cases member
  | cons unit rest ih =>
      rw [parts] at member
      split at member
      · exact ih member
      · split at member
        · exact ih member
        · rcases List.mem_cons.mp member with rfl | inRest
          · exact Nat.div_le_self total _
          · exact (ih inRest).trans (Nat.mod_le total _)

/-! ## Texts of durations -/

/-- Counts with their digits, as they are read. -/
def withDigits (parts : List (Nat × DurationUnit)) : List (List Char × DurationUnit) :=
  parts.map fun part => (Nat.toDigits 10 part.1, part.2)

theorem areCounts_withDigits
    {units : List DurationUnit}
    {parts : List (Nat × DurationUnit)}
    (inOrder : (parts.map Prod.snd).Sublist units) :
    AreCounts units (withDigits parts) where
  inOrder := by
    rw [withDigits, List.map_map]
    exact inOrder
  nonempty := List.forall_mem_map.mpr fun _ _ => Nat.toDigits_ne_nil
  digits := List.forall_mem_map.mpr fun _ _ _ member => Text.isDigit_of_mem_toDigits member

theorem amount_withDigits (parts : List (Nat × DurationUnit)) :
    amount (withDigits parts) = sum parts := by
  rw [amount, withDigits, List.map_map, sum]
  congr 1
  apply List.map_congr_left
  intro part _
  show Text.number (Nat.toDigits 10 part.1) * part.2.milliseconds = _
  rw [← Text.digitsValue_zero, Text.digitsValue_toDigits]

theorem toList_partText (part : Nat × DurationUnit) :
    (partText part).toList = Nat.toDigits 10 part.1 ++ part.2.symbol.toList := by
  have noSign : Decimal.sign (decide ((part.1 : Int) < 0)) = [] := by
    rw [decide_eq_false (Int.not_lt.mpr (Int.natCast_nonneg part.1))]
    rfl
  rw [partText, String.toList_append, Quantity.integerText, String.toList_ofList, noSign,
    List.nil_append, Int.natAbs_natCast]

theorem toList_millisecondsText
    {total : Nat}
    (notZero : total ≠ 0) :
    (millisecondsText total).toList = spelled (withDigits (parts units total)) := by
  rw [millisecondsText, if_neg notZero, String.toList_join, List.flatMap_map, withDigits, spelled,
    List.flatMap_map]
  exact List.flatMap_congr fun part _ => toList_partText part

/-- The text of some milliseconds spells the counts of its units. -/
theorem spells_millisecondsText
    {total : Nat}
    (notZero : total ≠ 0) :
    Spells (millisecondsText total) (withDigits (parts units total)) where
  nonempty := by
    intro same
    exact millisecondsText_ne_nil total (by rw [same]; rfl)
  areCounts := areCounts_withDigits (sublist_parts units total)
  written := Or.inl (toList_millisecondsText notZero)

/-- The text of some milliseconds is read as them. -/
theorem read_millisecondsText
    {total : Nat}
    (inPrecision : total ≤ 2 ^ 53) :
    read (millisecondsText total) = .ok (ofMilliseconds total) := by
  rcases Nat.eq_zero_or_pos total with rfl | positive
  · decide +kernel
  have short : AreShort (withDigits (parts units total)) := by
    refine List.forall_mem_map.mpr fun part member => ?_
    have small : part.1 < 10 ^ 17 := by
      have := fst_le_of_mem_parts member
      omega
    exact
      ((Nat.length_toDigits_le_iff (by decide) (by decide)).mpr small).trans (by decide)
  have isAmount : amount (withDigits (parts units total)) = total := by
    rw [amount_withDigits, sum_parts exists_single_unit]
  have inside : total < rangeEnd := by
    rw [rangeEnd]
    omega
  have isRead :=
    read_of_inside (spells_millisecondsText positive.ne') short (isAmount.trans_lt inside)
  rwa [isAmount] at isRead

theorem exists_read_ofMilliseconds
    {count : Nat}
    (inPrecision : count ≤ 2 ^ 53) :
    ∃ text,
      (ofMilliseconds count).prometheus = .ok text ∧ read text = .ok (ofMilliseconds count) :=
  ⟨_, prometheus_of_milliseconds (milliseconds_ofMilliseconds inPrecision),
    read_millisecondsText inPrecision⟩

/-- What can be read back can be told apart. -/
theorem eq_of_prometheus_eq
    {first second : Nat}
    (firstInPrecision : first ≤ 2 ^ 53)
    (secondInPrecision : second ≤ 2 ^ 53)
    (same : (ofMilliseconds first).prometheus = (ofMilliseconds second).prometheus) :
    first = second := by
  obtain ⟨text, firstWritten, firstRead⟩ := exists_read_ofMilliseconds firstInPrecision
  obtain ⟨other, secondWritten, secondRead⟩ := exists_read_ofMilliseconds secondInPrecision
  have sameText : text = other :=
    Except.ok.inj (firstWritten.symm.trans (same.trans secondWritten))
  rw [sameText] at firstRead
  have sameDuration : ofMilliseconds first = ofMilliseconds second :=
    Except.ok.inj (firstRead.symm.trans secondRead)
  have sameLength := congrArg microseconds sameDuration
  simp only [ofMilliseconds] at sameLength
  omega

theorem prometheus_eq_of_errorRatio_eq
    {first second : Duration}
    (same : Naming.errorRatio first = Naming.errorRatio second) :
    first.prometheus = second.prometheus := by
  rw [Naming.errorRatio, Naming.errorRatio] at same
  cases firstWritten : first.prometheus with
  | error failure =>
      rw [firstWritten] at same
      cases secondWritten : second.prometheus with
      | error other =>
          rw [secondWritten] at same
          cases same
          rfl
      | ok text =>
          rw [secondWritten] at same
          cases same
  | ok text =>
      rw [firstWritten] at same
      cases secondWritten : second.prometheus with
      | error other =>
          rw [secondWritten] at same
          cases same
      | ok other =>
          rw [secondWritten] at same
          have sameMetric : Naming.errorRatioMetric ++ text = Naming.errorRatioMetric ++ other :=
            Except.ok.inj same
          have sameChars := congrArg String.toList sameMetric
          rw [String.toList_append, String.toList_append] at sameChars
          rw [String.toList_inj.mp (List.append_cancel_left sameChars)]

/-- A whole number of milliseconds of which none is lost when it is written. -/
def IsExact (duration : Duration) : Prop :=
  ∃ count ≤ 2 ^ 53, duration = ofMilliseconds count

theorem IsExact.exists_prometheus
    {duration : Duration}
    (isExact : duration.IsExact) :
    ∃ text, duration.prometheus = .ok text := by
  rcases isExact with ⟨count, inPrecision, rfl⟩
  rcases exists_read_ofMilliseconds inPrecision with ⟨text, written, _⟩
  exact ⟨text, written⟩

theorem IsExact.eq_of_prometheus_eq
    {first second : Duration}
    (isExact : first.IsExact)
    (isExactToo : second.IsExact)
    (same : first.prometheus = second.prometheus) :
    first = second := by
  rcases isExact with ⟨count, inPrecision, rfl⟩
  rcases isExactToo with ⟨other, otherInPrecision, rfl⟩
  rw [Duration.eq_of_prometheus_eq inPrecision otherInPrecision same]

/-- Windows of whole milliseconds are told apart by their metrics. -/
theorem IsExact.eq_of_errorRatio_eq
    {first second : Duration}
    (isExact : first.IsExact)
    (isExactToo : second.IsExact)
    (same : Naming.errorRatio first = Naming.errorRatio second) :
    first = second :=
  isExact.eq_of_prometheus_eq isExactToo (prometheus_eq_of_errorRatio_eq same)

/--
A duration that is not negative and below `2 ^ 44` milliseconds is written as a text that is read
as the duration cut down to whole milliseconds.  Any number of milliseconds up to `2 ^ 53` is
read as it was written.  So the texts of such durations are different, and as windows they have
different metrics.
-/
theorem read_prometheus :
    (∀ duration : Duration,
        0 ≤ duration.microseconds →
          duration.microseconds < 2 ^ 44 * 1000 →
            ∃ text,
              duration.prometheus = .ok text ∧
                read text = .ok ⟨duration.microseconds / 1000 * 1000⟩) ∧
      (∀ count ≤ 2 ^ 53,
        ∃ text,
          (ofMilliseconds count).prometheus = .ok text ∧
            read text = .ok (ofMilliseconds count)) ∧
      (∀ first ≤ 2 ^ 53,
        ∀ second ≤ 2 ^ 53,
          (ofMilliseconds first).prometheus = (ofMilliseconds second).prometheus →
            first = second) ∧
      ∀ first ≤ 2 ^ 53,
        ∀ second ≤ 2 ^ 53,
          Naming.errorRatio (ofMilliseconds first) = Naming.errorRatio (ofMilliseconds second) →
            first = second := by
  refine ⟨?_, ?_, ?_, ?_⟩
  · rintro ⟨length⟩ notNegative isBelow
    obtain ⟨count, rfl⟩ := Int.eq_ofNat_of_zero_le notNegative
    have small : count < 2 ^ 44 * 1000 := by
      have : (count : Int) < 2 ^ 44 * 1000 := isBelow
      omega
    have inPrecision : count / 1000 ≤ 2 ^ 53 := by omega
    exact
      ⟨_, prometheus_of_milliseconds (milliseconds_of_lt small),
        read_millisecondsText inPrecision⟩
  · intro count inPrecision
    exact exists_read_ofMilliseconds inPrecision
  · intro first firstInPrecision second secondInPrecision same
    exact eq_of_prometheus_eq firstInPrecision secondInPrecision same
  · intro first firstInPrecision second secondInPrecision same
    apply eq_of_prometheus_eq firstInPrecision secondInPrecision
    exact prometheus_eq_of_errorRatio_eq same

/-- The last duration below the first bound, the one at the second, and two windows that a
millisecond tells apart. -/
theorem read_prometheus_of_limits :
    (∃ text,
        prometheus ⟨2 ^ 44 * 1000 - 1⟩ = .ok text ∧
          read text = .ok ⟨(2 ^ 44 - 1) * 1000⟩) ∧
      (∃ text,
        (ofMilliseconds (2 ^ 53)).prometheus = .ok text ∧
          read text = .ok (ofMilliseconds (2 ^ 53))) ∧
      (ofMilliseconds 604800000).prometheus ≠ (ofMilliseconds 604800001).prometheus ∧
      Naming.errorRatio (ofMilliseconds 300000) ≠ Naming.errorRatio (ofMilliseconds 300) := by
  obtain ⟨cut, whole, texts, metrics⟩ := read_prometheus
  refine ⟨cut ⟨2 ^ 44 * 1000 - 1⟩ (by decide) (by decide), whole _ (Nat.le_refl _), ?_, ?_⟩
  · intro same
    exact absurd (texts _ (by decide) _ (by decide) same) (by decide)
  · intro same
    exact absurd (metrics _ (by decide) _ (by decide) same) (by decide)

end Duration

end ServiceLevel
