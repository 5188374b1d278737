import Mathlib.Data.List.TakeWhile
import Mathlib.Data.Nat.Digits.Defs
import Mathlib.Data.Set.Subsingleton
import ServiceLevel.Duration.Reader
import ServiceLevel.Proofs.Attempt

/-!
# The notation of durations

A text spells a duration if it is a sequence of counts in the order of the units, each unit at
most once and each count a run of digits.  The reader passes over a unit whose symbol is not
there, or behind which it cannot go on.  That this finds every spelling and nothing else rests
on two facts: no symbol has a digit, and no two units share a symbol.  The symbol of one unit may
begin with that of another, but no count follows inside a symbol.

The main statement is that a text is read exactly if it is `0`, or if it spells a duration with
at most one line break behind it, in digits that are not too many and within the range; then
there is one spelling only, and the duration is the sum of its counts.
-/

namespace ServiceLevel

namespace Text

/-- The number that a run of digits denotes, as the sum of its digits times powers of ten. -/
def number (digits : List Char) : Nat :=
  Nat.ofDigits 10 (digits.reverse.map fun c => (digitValue? c).getD 0)

theorem digitsValue_eq
    (digits : List Char)
    (start : Nat) :
    digitsValue start digits = start * 10 ^ digits.length + number digits := by
  induction digits generalizing start with
  | nil => simp [number]
  | cons first rest ih =>
      have leading :
          number (first :: rest) =
            number rest + 10 ^ rest.length * (digitValue? first).getD 0 := by
        rw [number, List.reverse_cons, List.map_append, Nat.ofDigits_append, List.map_singleton,
          Nat.ofDigits_singleton, List.length_map, List.length_reverse]
        rfl
      rw [digitsValue, ih, leading, List.length_cons, Nat.pow_succ]
      ring

theorem digitsValue_zero (digits : List Char) : digitsValue 0 digits = number digits := by
  rw [digitsValue_eq, Nat.zero_mul, Nat.zero_add]

end Text

namespace Duration

/-! ## Units that can be told apart -/

/-- The symbols of units are no digits and can be told apart. -/
structure Legible (units : List DurationUnit) : Prop where
  nonempty : ∀ unit ∈ units, unit.symbol.toList ≠ []
  noDigit : ∀ unit ∈ units, ∀ c ∈ unit.symbol.toList, ¬ Text.isDigit c
  distinct : (units.map DurationUnit.symbol).Nodup

theorem legible_units : Legible units where
  nonempty := by decide
  noDigit := by
    have symbols : ∀ unit ∈ units, unit.symbol.toList.all fun c => !Text.isDigit c := by
      decide
    intro unit isUnit c member isDigit
    have notDigit := List.all_eq_true.mp (symbols unit isUnit) c member
    rw [isDigit] at notDigit
    cases notDigit
  distinct := by decide

/-! ## Spellings -/

/-- Counts as they are written. -/
def spelled (counts : List (List Char × DurationUnit)) : List Char :=
  counts.flatMap fun count => count.1 ++ count.2.symbol.toList

/-- Counts of units in their order, each unit at most once and each count a run of digits. -/
structure AreCounts
    (units : List DurationUnit)
    (counts : List (List Char × DurationUnit)) : Prop where
  inOrder : (counts.map Prod.snd).Sublist units
  nonempty : ∀ count ∈ counts, count.1 ≠ []
  digits : ∀ count ∈ counts, ∀ c ∈ count.1, Text.isDigit c

section

variable {unit : DurationUnit} {units : List DurationUnit}

theorem Legible.tail
    (legible : Legible (unit :: units)) :
    Legible units where
  nonempty := fun other member => legible.nonempty other (List.mem_cons_of_mem _ member)
  noDigit := fun other member => legible.noDigit other (List.mem_cons_of_mem _ member)
  distinct := (List.nodup_cons.mp legible.distinct).2

theorem Legible.symbol_ne
    (legible : Legible (unit :: units))
    {other : DurationUnit}
    (member : other ∈ units) :
    unit.symbol.toList ≠ other.symbol.toList := by
  intro same
  apply (List.nodup_cons.mp legible.distinct).1
  rw [String.toList_inj.mp same]
  exact List.mem_map_of_mem member

variable {count : List Char × DurationUnit} {counts : List (List Char × DurationUnit)}

theorem spelled_cons :
    spelled (count :: counts) = count.1 ++ (count.2.symbol.toList ++ spelled counts) := by
  rw [spelled, List.flatMap_cons, List.append_assoc]
  rfl

theorem areCounts_nil (units : List DurationUnit) : AreCounts units [] where
  inOrder := List.nil_sublist units
  nonempty := fun _ impossible => by cases impossible
  digits := fun _ impossible => by cases impossible

theorem AreCounts.skip
    (areCounts : AreCounts units counts) :
    AreCounts (unit :: units) counts where
  inOrder := areCounts.inOrder.cons unit
  nonempty := areCounts.nonempty
  digits := areCounts.digits

theorem AreCounts.cons
    (areCounts : AreCounts units counts)
    {digits : List Char}
    (nonempty : digits ≠ [])
    (areDigits : ∀ c ∈ digits, Text.isDigit c) :
    AreCounts (unit :: units) ((digits, unit) :: counts) where
  inOrder := areCounts.inOrder.cons_cons unit
  nonempty := List.forall_mem_cons.mpr ⟨nonempty, areCounts.nonempty⟩
  digits := List.forall_mem_cons.mpr ⟨areDigits, areCounts.digits⟩

/-- Behind the first count there are counts of the units behind the one that it counts. -/
theorem AreCounts.tail
    (areCounts : AreCounts units (count :: counts))
    {rest : List DurationUnit}
    (behind : (counts.map Prod.snd).Sublist rest) :
    AreCounts rest counts where
  inOrder := behind
  nonempty := (List.forall_mem_cons.mp areCounts.nonempty).2
  digits := (List.forall_mem_cons.mp areCounts.digits).2

theorem AreCounts.isDigit_of_head?_spelled
    (areCounts : AreCounts units counts)
    {c : Char}
    (isFirst : c ∈ (spelled counts).head?) :
    Text.isDigit c := by
  cases counts with
  | nil => cases isFirst
  | cons count others =>
      have nonempty := areCounts.nonempty count List.mem_cons_self
      rw [spelled_cons, List.head?_append_of_ne_nil _ nonempty] at isFirst
      exact areCounts.digits count List.mem_cons_self c (List.mem_of_mem_head? isFirst)

/-! ## Reading a spelling -/

theorem takeWhile_of_noDigit
    {text : List Char}
    (nonempty : text ≠ [])
    (noDigit : ∀ c ∈ text, ¬ Text.isDigit c)
    (behind : List Char) :
    (text ++ behind).takeWhile Text.isDigit = [] := by
  cases text with
  | nil => exact absurd rfl nonempty
  | cons first rest =>
      rw [List.cons_append, List.takeWhile_cons_of_neg]
      exact noDigit first List.mem_cons_self

theorem dropSymbol_eq_some_iff
    {symbol text rest : List Char} :
    dropSymbol symbol text = some rest ↔ text = symbol ++ rest := by
  rw [dropSymbol]
  constructor
  · intro dropped
    split at dropped
    · rename_i begins
      obtain ⟨behind, rfl⟩ := List.isPrefixOf_iff_prefix.mp begins
      rw [List.drop_left] at dropped
      rw [Option.some.inj dropped]
    · cases dropped
  · rintro rfl
    rw [if_pos (List.isPrefixOf_iff_prefix.mpr (List.prefix_append _ _)), List.drop_left]

/-- Where no count stands, no unit is found. -/
theorem readParts_of_noDigit
    {text : List Char}
    (noCount : text.takeWhile Text.isDigit = [])
    (units : List DurationUnit) :
    readParts units text = if text.isEmpty then some [] else none := by
  induction units with
  | nil => rfl
  | cons unit rest ih =>
      simp only [readParts, noCount, List.isEmpty_nil, if_true]
      exact ih

/-- Behind a count the unit in turn is tried first, and passed over if its symbol is not there
or the rest cannot be read. -/
theorem readParts_count
    {digits : List Char}
    (nonempty : digits ≠ [])
    (areDigits : ∀ c ∈ digits, Text.isDigit c)
    {word : List Char}
    (noDigit : word.takeWhile Text.isDigit = []) :
    readParts (unit :: units) (digits ++ word) =
      (((dropSymbol unit.symbol.toList word).bind (readParts units)).map
          ((digits, unit) :: ·)).or
        (readParts units (digits ++ word)) := by
  have noDigitAhead : word.dropWhile Text.isDigit = word := by
    have split := List.takeWhile_append_dropWhile (p := Text.isDigit) (l := word)
    rw [noDigit, List.nil_append] at split
    exact split
  have isCount : digits.isEmpty = false := List.isEmpty_eq_false_iff.mpr nonempty
  simp only [readParts, List.takeWhile_append_of_pos areDigits,
    List.dropWhile_append_of_pos areDigits, noDigit, noDigitAhead, List.append_nil, isCount,
    Bool.false_eq_true, if_false]
  cases dropSymbol unit.symbol.toList word with
  | none => rfl
  | some rest =>
      simp only [Option.bind_some]
      cases readParts units rest with
      | none => rfl
      | some parts => rfl

/-- Behind the symbol of another unit a spelling goes on with what is no count. -/
theorem noDigit_of_dropSymbol
    (legible : Legible (unit :: units))
    {other : DurationUnit}
    (isOther : other ∈ units)
    {behind rest : List Char}
    (counted : ∀ c ∈ behind.head?, Text.isDigit c)
    (dropped : dropSymbol unit.symbol.toList (other.symbol.toList ++ behind) = some rest) :
    rest ≠ [] ∧ rest.takeWhile Text.isDigit = [] := by
  have split := dropSymbol_eq_some_iff.mp dropped
  rcases List.append_eq_append_iff.mp split with
    ⟨more, isSymbol, isBehind⟩ | ⟨more, isOtherSymbol, isRest⟩
  · -- This symbol would go on with the first digit of the next count.
    exfalso
    obtain ⟨first, others, isMore⟩ : ∃ first others, more = first :: others := by
      apply List.exists_cons_of_ne_nil
      rintro rfl
      rw [List.append_nil] at isSymbol
      exact legible.symbol_ne isOther isSymbol
    apply legible.noDigit unit List.mem_cons_self first
    · rw [isSymbol, isMore]
      exact List.mem_append_right _ List.mem_cons_self
    · apply counted
      rw [isBehind, isMore]
      exact rfl
  · -- The other symbol begins with this one, and `more` of it is left.
    have notAll : more ≠ [] := by
      rintro rfl
      rw [List.append_nil] at isOtherSymbol
      exact legible.symbol_ne isOther isOtherSymbol.symm
    have noDigit : ∀ c ∈ more, ¬ Text.isDigit c := by
      intro c member
      apply legible.tail.noDigit other isOther
      rw [isOtherSymbol]
      exact List.mem_append_right _ member
    rw [isRest]
    exact ⟨List.append_ne_nil_of_left_ne_nil notAll _, takeWhile_of_noDigit notAll noDigit _⟩

/-- What is spelled in the order of the units is read as it was. -/
theorem readParts_spelled
    (legible : Legible units)
    (areCounts : AreCounts units counts) :
    readParts units (spelled counts) = some counts := by
  induction units generalizing counts with
  | nil =>
      rw [List.map_eq_nil_iff.mp (List.sublist_nil.mp areCounts.inOrder)]
      rfl
  | cons unit rest ih =>
      cases counts with
      | nil => exact readParts_of_noDigit rfl (unit :: rest)
      | cons count others =>
          have isUnit : count.2 ∈ unit :: rest := areCounts.inOrder.subset List.mem_cons_self
          have noDigit :
              (count.2.symbol.toList ++ spelled others).takeWhile Text.isDigit = [] :=
            takeWhile_of_noDigit (legible.nonempty _ isUnit) (legible.noDigit _ isUnit) _
          rw [spelled_cons,
            readParts_count (areCounts.nonempty count List.mem_cons_self)
              (areCounts.digits count List.mem_cons_self) noDigit]
          cases areCounts.inOrder with
          | cons_cons _ behind =>
              rw [dropSymbol_eq_some_iff.mpr rfl, Option.bind_some,
                ih legible.tail (areCounts.tail behind), Option.map_some, Option.some_or]
          | cons _ behind =>
              have skipped : readParts rest (spelled (count :: others)) = some (count :: others) :=
                ih legible.tail ⟨behind, areCounts.nonempty, areCounts.digits⟩
              rw [spelled_cons] at skipped
              cases dropped :
                  dropSymbol unit.symbol.toList (count.2.symbol.toList ++ spelled others) with
              | none => exact skipped
              | some text =>
                  have isOther : count.2 ∈ rest := behind.subset List.mem_cons_self
                  have others : AreCounts rest others :=
                    areCounts.tail ((List.sublist_cons_self _ _).trans behind)
                  obtain ⟨nonempty, noCount⟩ :=
                    noDigit_of_dropSymbol legible isOther
                      (fun _ => others.isDigit_of_head?_spelled) dropped
                  have unread : readParts rest text = none := by
                    rw [readParts_of_noDigit noCount, if_neg]
                    rw [List.isEmpty_iff]
                    exact nonempty
                  rw [Option.bind_some, unread]
                  exact skipped

/-- What is read is a spelling. -/
theorem areCounts_of_readParts
    {text : List Char}
    (isRead : readParts units text = some counts) :
    AreCounts units counts ∧ text = spelled counts := by
  induction units generalizing text counts with
  | nil =>
      rw [readParts] at isRead
      split at isRead
      · rename_i empty
        cases isRead
        exact ⟨areCounts_nil [], List.isEmpty_iff.mp empty⟩
      · cases isRead
  | cons unit rest ih =>
      have skip (skipped : readParts rest text = some counts) :
          AreCounts (unit :: rest) counts ∧ text = spelled counts := by
        obtain ⟨areCounts, written⟩ := ih skipped
        exact ⟨areCounts.skip, written⟩
      simp only [readParts] at isRead
      split at isRead
      · exact skip isRead
      · rename_i notEmpty
        split at isRead
        · exact skip isRead
        · rename_i behind dropped
          split at isRead
          · rename_i parts readBehind
            cases isRead
            obtain ⟨areCounts, rfl⟩ := ih readBehind
            have nonempty : text.takeWhile Text.isDigit ≠ [] :=
              mt List.isEmpty_iff.mpr notEmpty
            have areDigits : ∀ c ∈ text.takeWhile Text.isDigit, Text.isDigit c :=
              fun c member => List.mem_takeWhile_imp member
            refine ⟨areCounts.cons nonempty areDigits, ?_⟩
            rw [spelled_cons, ← dropSymbol_eq_some_iff.mp dropped,
              List.takeWhile_append_dropWhile]
          · exact skip isRead

theorem readParts_eq_some_iff
    (legible : Legible units)
    {text : List Char} :
    readParts units text = some counts ↔ AreCounts units counts ∧ text = spelled counts := by
  constructor
  · exact areCounts_of_readParts
  · rintro ⟨areCounts, rfl⟩
    exact readParts_spelled legible areCounts

end

/-! ## One line break behind -/

/-- A text that is not empty spells counts, with at most one line break behind them. -/
structure Spells (text : String) (counts : List (List Char × DurationUnit)) : Prop where
  nonempty : text ≠ ""
  areCounts : AreCounts units counts
  written : text.toList = spelled counts ∨ text.toList = spelled counts ++ ['\n']

theorem dropLineEnd_append (text : List Char) : dropLineEnd (text ++ ['\n']) = text := by
  rw [dropLineEnd, List.reverse_append]
  exact List.reverse_reverse text

theorem dropLineEnd_of_notMem
    {text : List Char}
    (noLineEnd : '\n' ∉ text) :
    dropLineEnd text = text := by
  rw [dropLineEnd]
  split
  · rename_i rest reversed
    exfalso
    apply noLineEnd
    rw [← List.mem_reverse, reversed]
    exact List.mem_cons_self
  · rfl

theorem eq_or_eq_append_of_dropLineEnd
    {text rest : List Char}
    (dropped : dropLineEnd text = rest) :
    text = rest ∨ text = rest ++ ['\n'] := by
  rw [dropLineEnd] at dropped
  split at dropped
  · rename_i others reversed
    right
    rw [← dropped, ← List.reverse_cons, ← reversed, List.reverse_reverse]
  · exact Or.inl dropped

theorem lineEnd_notMem_spelled
    {counts : List (List Char × DurationUnit)}
    (areCounts : AreCounts units counts) :
    '\n' ∉ spelled counts := by
  have noSymbol : ∀ unit ∈ units, '\n' ∉ unit.symbol.toList := by decide
  intro member
  obtain ⟨count, isCount, inCount⟩ := List.mem_flatMap.mp member
  rcases List.mem_append.mp inCount with inDigits | inSymbol
  · have isDigit := areCounts.digits count isCount _ inDigits
    revert isDigit
    decide
  · exact noSymbol count.2 (areCounts.inOrder.subset (List.mem_map_of_mem isCount)) inSymbol

theorem spells_iff
    {text : String}
    {counts : List (List Char × DurationUnit)} :
    Spells text counts ↔
      text ≠ "" ∧ readParts units (dropLineEnd text.toList) = some counts := by
  rw [readParts_eq_some_iff legible_units]
  constructor
  · rintro ⟨nonempty, areCounts, written⟩
    refine ⟨nonempty, areCounts, ?_⟩
    rcases written with same | ended
    · rw [same]
      exact dropLineEnd_of_notMem (lineEnd_notMem_spelled areCounts)
    · rw [ended]
      exact dropLineEnd_append _
  · rintro ⟨nonempty, areCounts, dropped⟩
    exact ⟨nonempty, areCounts, eq_or_eq_append_of_dropLineEnd dropped⟩

/-- A text has one spelling only. -/
theorem Spells.unique
    {text : String}
    {counts others : List (List Char × DurationUnit)}
    (spells : Spells text counts)
    (spellsToo : Spells text others) :
    counts = others :=
  Option.some.inj ((spells_iff.mp spells).2.symm.trans (spells_iff.mp spellsToo).2)

theorem Spells.ne_zero
    {text : String}
    {counts : List (List Char × DurationUnit)}
    (spells : Spells text counts) :
    text ≠ "0" := by
  rintro rfl
  have unread : readParts units (dropLineEnd "0".toList) = none := by decide
  rw [(spells_iff.mp spells).2] at unread
  cases unread

/-! ## Sums -/

/-- The milliseconds of some counts. -/
def amount (counts : List (List Char × DurationUnit)) : Nat :=
  (counts.map fun count => Text.number count.1 * count.2.milliseconds).sum

/-- Counts of no more digits than are read into a number. -/
def AreShort (counts : List (List Char × DurationUnit)) : Prop :=
  ∀ count ∈ counts, count.1.length ≤ 4300

theorem total_cons_of_short
    {count : List Char × DurationUnit}
    (short : count.1.length ≤ 4300)
    (counts : List (List Char × DurationUnit)) :
    total (count :: counts) =
      (total counts).map (Text.number count.1 * count.2.milliseconds + ·) := by
  have notLong : ¬ Text.digitLimit < count.1.length := Nat.not_lt.mpr short
  rw [total, if_neg notLong, Text.digitsValue_zero]
  cases total counts with
  | error failure => rfl
  | ok sum => rfl

theorem total_of_short
    {counts : List (List Char × DurationUnit)}
    (short : AreShort counts) :
    total counts = .ok (amount counts) := by
  induction counts with
  | nil => rfl
  | cons count others ih =>
      obtain ⟨isFirst, areOthers⟩ := List.forall_mem_cons.mp short
      rw [total_cons_of_short isFirst, ih areOthers]
      rfl

/-- The first count that has too many digits is the one that is reported. -/
theorem total_of_long
    {before after : List (List Char × DurationUnit)}
    {long : List Char × DurationUnit}
    (short : AreShort before)
    (isLong : 4300 < long.1.length) :
    total (before ++ long :: after) =
      .error (.fault .value (Failure.digitLimitMessage long.1.length)) := by
  induction before with
  | nil => exact if_pos isLong
  | cons count others ih =>
      obtain ⟨isFirst, areOthers⟩ := List.forall_mem_cons.mp short
      rw [List.cons_append, total_cons_of_short isFirst, ih areOthers]
      rfl

/-- The milliseconds of the first duration beyond the range. -/
def rangeEnd : Nat := 10 ^ 9 * (24 * 60 * 60 * 1000)

theorem inRange_milliseconds_iff {count : Nat} :
    inRange ⟨(count : Int) * 1000⟩ = true ↔ count < rangeEnd := by
  show decide ((Int.fdiv ((count : Int) * 1000) 86400000000).natAbs < 1000000000) = true ↔ _
  rw [decide_eq_true_iff, Int.fdiv_eq_ediv_of_nonneg _ (by decide), rangeEnd]
  omega

theorem ofMicroseconds_of_lt
    {count : Nat}
    (inside : count < rangeEnd) :
    ofMicroseconds ((count : Int) * 1000) = .ok (ofMilliseconds count) := by
  rw [ofMicroseconds, if_pos (inRange_milliseconds_iff.mpr inside)]
  rfl

theorem ofMicroseconds_of_le
    {count : Nat}
    (beyond : rangeEnd ≤ count) :
    ofMicroseconds ((count : Int) * 1000) = .error outOfRange := by
  rw [ofMicroseconds, if_neg (mt inRange_milliseconds_iff.mp (Nat.not_lt.mpr beyond))]

/-! ## Reading -/

/-- Why a text is refused: it spells nothing, the first of its counts that is too long has more
digits than are read, or only the range is exceeded. -/
inductive Refused (text : String) : Failure → Prop
  | unreadable
      (noCounts : ∀ counts, ¬ Spells text counts) :
      Refused text
        (.fault .value ("could not parse prom duration " ++ Text.quoted text))
  | tooLong
      {before after : List (List Char × DurationUnit)}
      {long : List Char × DurationUnit}
      (spells : Spells text (before ++ long :: after))
      (short : AreShort before)
      (isLong : 4300 < long.1.length) :
      Refused text (.fault .value (Failure.digitLimitMessage long.1.length))
  | outOfRange
      {counts : List (List Char × DurationUnit)}
      (spells : Spells text counts)
      (short : AreShort counts)
      (beyond : rangeEnd ≤ amount counts) :
      Refused text (.fault .overflow "<duration overflow>")

theorem read_of_spells
    {text : String}
    {counts : List (List Char × DurationUnit)}
    (spells : Spells text counts) :
    read text = (total counts).bind fun sum => ofMicroseconds (sum * 1000) := by
  have notEmpty : text.isEmpty = false :=
    String.isEmpty_eq_false_iff.mpr spells.nonempty
  rw [read, if_neg spells.ne_zero, notEmpty, if_neg Bool.false_ne_true]
  simp only [(spells_iff.mp spells).2]
  cases total counts with
  | error failure => rfl
  | ok sum => rfl

theorem read_of_inside
    {text : String}
    {counts : List (List Char × DurationUnit)}
    (spells : Spells text counts)
    (short : AreShort counts)
    (inside : amount counts < rangeEnd) :
    read text = .ok (ofMilliseconds (amount counts)) := by
  rw [read_of_spells spells, total_of_short short]
  exact ofMicroseconds_of_lt inside

theorem read_of_refused
    {text : String}
    (notZero : text ≠ "0")
    {failure : Failure}
    (refused : Refused text failure) :
    read text = .error failure := by
  cases refused with
  | unreadable noCounts =>
      rw [read, if_neg notZero]
      split
      · rfl
      · rename_i notEmpty
        have nonempty : text ≠ "" := by
          rintro rfl
          exact notEmpty rfl
        cases isRead : readParts units (dropLineEnd text.toList) with
        | none => rfl
        | some counts => exact absurd (spells_iff.mpr ⟨nonempty, isRead⟩) (noCounts counts)
  | tooLong spells short isLong =>
      rw [read_of_spells spells, total_of_long short isLong]
      rfl
  | outOfRange spells short beyond =>
      rw [read_of_spells spells, total_of_short short]
      exact ofMicroseconds_of_le beyond

/-- A text is `0`, or it spells a duration of which nothing is too long, or it is refused. -/
theorem spelled_or_refused (text : String) :
    text = "0" ∨
      (∃ counts, Spells text counts ∧ AreShort counts ∧ amount counts < rangeEnd) ∨
      text ≠ "0" ∧ ∃ failure, Refused text failure := by
  by_cases isZero : text = "0"
  · exact Or.inl isZero
  right
  by_cases silent : ∀ counts, ¬ Spells text counts
  · exact Or.inr ⟨isZero, _, .unreadable silent⟩
  push Not at silent
  obtain ⟨counts, spells⟩ := silent
  rcases Attempt.forall_or_first (fun count => count.1.length ≤ 4300) counts with
    short | ⟨before, long, after, rfl, short, notShort⟩
  · rcases Nat.lt_or_ge (amount counts) rangeEnd with inside | beyond
    · exact Or.inl ⟨counts, spells, short, inside⟩
    · exact Or.inr ⟨isZero, _, .outOfRange spells short beyond⟩
  · exact Or.inr ⟨isZero, _, .tooLong spells short (Nat.not_le.mp notShort)⟩

/--
A text is read exactly if it is `0`, or if it spells counts of the units from years to
milliseconds, with at most one line break behind them, of at most 4300 digits each and of less
than `10 ^ 9` days together.  The duration is the sum of the counts, and a text spells no two
sequences of counts.  Every other text is refused: as a wrong value if it spells nothing or has
too many digits, and as an overflow if only the range is exceeded.
-/
theorem read_exact (text : String) :
    (∀ duration,
        read text = .ok duration ↔
          text = "0" ∧ duration = zero ∨
            ∃ counts,
              Spells text counts ∧
                AreShort counts ∧
                amount counts < 10 ^ 9 * (24 * 60 * 60 * 1000) ∧
                duration = ofMilliseconds (amount counts)) ∧
      {counts | Spells text counts}.Subsingleton ∧
      (∀ failure, read text = .error failure ↔ text ≠ "0" ∧ Refused text failure) ∧
      units.map (fun unit => (unit.symbol, unit.milliseconds)) =
        [("y", 365 * 24 * 60 * 60 * 1000), ("w", 7 * 24 * 60 * 60 * 1000),
          ("d", 24 * 60 * 60 * 1000), ("h", 60 * 60 * 1000), ("m", 60 * 1000), ("s", 1000),
          ("ms", 1)] := by
  refine ⟨?_, fun counts spells others spellsToo => spells.unique spellsToo, ?_, rfl⟩
  · intro duration
    constructor
    · intro isRead
      rcases spelled_or_refused text with
        rfl | ⟨counts, spells, short, inside⟩ | ⟨notZero, failure, refused⟩
      · exact Or.inl ⟨rfl, (Except.ok.inj isRead).symm⟩
      · rw [read_of_inside spells short inside] at isRead
        exact Or.inr ⟨counts, spells, short, inside, (Except.ok.inj isRead).symm⟩
      · rw [read_of_refused notZero refused] at isRead
        cases isRead
    · rintro (⟨rfl, rfl⟩ | ⟨counts, spells, short, inside, rfl⟩)
      · rfl
      · exact read_of_inside spells short inside
  · intro failure
    constructor
    · intro isRead
      rcases spelled_or_refused text with
        rfl | ⟨counts, spells, short, inside⟩ | ⟨notZero, other, refused⟩
      · cases isRead
      · rw [read_of_inside spells short inside] at isRead
        cases isRead
      · rw [read_of_refused notZero refused] at isRead
        exact ⟨notZero, Except.error.inj isRead ▸ refused⟩
    · rintro ⟨notZero, refused⟩
      exact read_of_refused notZero refused

/-- The minutes are not taken for the beginning of the milliseconds. -/
example : read "٢w1m5ms\n" = .ok (ofMilliseconds 1209660005) := by decide +kernel

end Duration

end ServiceLevel
