import Mathlib.Order.Bounds.Basic
import ServiceLevel.Proofs.Template.Rendering

/-!
# Delimiters and where they stand

Pairs of braces are counted from the left, and this counts as many as fit into a text
without overlapping.  A text is clear of pairs if none begins in it, whatever stands behind
it: the texts in front of the first pair are the clear ones, and what is clear is passed
over by the count.

An action opens at the first pair of opening braces that has a later pair of closing ones,
and closes at the first pair of closing braces from there.
-/

namespace ServiceLevel.Template

/-! ## Pairs that do not overlap -/

/-- A text holds that many pairs of a character, none of them overlapping another. -/
inductive HoldsPairs (mark : Char) : Nat → List Char → Prop where
  | none (text : List Char) : HoldsPairs mark 0 text
  | more (front : List Char) {count : Nat} {behind : List Char}
      (others : HoldsPairs mark count behind) :
      HoldsPairs mark (count + 1) (front ++ mark :: mark :: behind)

section Counting

variable {mark : Char}

theorem HoldsPairs.cons
    {count : Nat}
    {text : List Char}
    (holds : HoldsPairs mark count text)
    (c : Char) :
    HoldsPairs mark count (c :: text) := by
  cases holds with
  | none => exact .none _
  | more front others => exact .more (c :: front) others

theorem holdsPairs_countPairs (text : List Char) :
    HoldsPairs mark (countPairs mark text) text := by
  induction text using countPairs.induct mark with
  | case1 first second rest isPair ih =>
      rw [countPairs, if_pos isPair]
      rcases Bool.and_eq_true_iff.mp isPair with ⟨isFirst, isSecond⟩
      rw [of_decide_eq_true isFirst, of_decide_eq_true isSecond]
      exact .more [] ih
  | case2 first second rest notPair ih =>
      rw [countPairs, if_neg notPair]
      exact ih.cons first
  | case3 few isShort =>
      rw [countPairs]
      · exact .none few
      · exact isShort

theorem countPairs_pair (text : List Char) :
    countPairs mark (mark :: mark :: text) = countPairs mark text + 1 := by
  rw [countPairs, if_pos]
  simp

theorem countPairs_cons_of_not_pair
    {c : Char}
    {text : List Char}
    (notPair : ¬ (c = mark ∧ text.head? = some mark)) :
    countPairs mark (c :: text) = countPairs mark text := by
  cases text with
  | nil => rfl
  | cons next rest =>
      rw [countPairs, if_neg]
      simpa using notPair

/-- One more character in front makes at most one more pair, and takes none away. -/
theorem countPairs_cons_bounds (c : Char) (text : List Char) :
    countPairs mark text ≤ countPairs mark (c :: text) ∧
      countPairs mark (c :: text) ≤ countPairs mark text + 1 := by
  induction text generalizing c with
  | nil => exact ⟨Nat.zero_le _, Nat.zero_le _⟩
  | cons next rest ih =>
      rcases begins_pair_or_not mark c (next :: rest) with
        ⟨behind, isFirst, same⟩ | notPair
      · rw [isFirst, (List.cons.inj same).1, countPairs_pair]
        exact ⟨(ih mark).2, Nat.succ_le_succ (ih mark).1⟩
      · rw [countPairs_cons_of_not_pair notPair]
        exact ⟨Nat.le_refl _, Nat.le_succ _⟩

theorem countPairs_le_append (front text : List Char) :
    countPairs mark text ≤ countPairs mark (front ++ text) := by
  induction front with
  | nil => exact Nat.le_refl _
  | cons c rest ih => exact Nat.le_trans ih (countPairs_cons_bounds c _).1

/-- Counting from the left counts as many pairs as a text holds. -/
theorem isGreatest_countPairs (text : List Char) :
    IsGreatest {count | HoldsPairs mark count text} (countPairs mark text) := by
  refine ⟨holdsPairs_countPairs text, ?_⟩
  intro count holds
  induction holds with
  | none => exact Nat.zero_le _
  | @more front count behind others ih =>
      apply Nat.le_trans _ (countPairs_le_append front _)
      rw [countPairs_pair]
      exact Nat.succ_le_succ ih

theorem doubles_iff_exists {text : List Char} :
    Doubles mark text ↔
      ∃ front behind, text = front ++ mark :: mark :: behind := by
  constructor
  · rintro ⟨front, behind, rfl⟩
    exact ⟨front, behind, by simp⟩
  · rintro ⟨front, behind, rfl⟩
    exact (Doubles.of_pair mark behind).append_left front

theorem countPairs_eq_zero_iff {text : List Char} :
    countPairs mark text = 0 ↔ ¬ Doubles mark text := by
  constructor
  · rintro isZero doubles
    rcases doubles_iff_exists.mp doubles with ⟨front, behind, rfl⟩
    have one : HoldsPairs mark 1 (front ++ mark :: mark :: behind) :=
      .more front (.none behind)
    have atLeast := (isGreatest_countPairs _).2 one
    rw [isZero] at atLeast
    exact Nat.not_succ_le_zero 0 atLeast
  · intro without
    have holds : HoldsPairs mark (countPairs mark text) text := holdsPairs_countPairs text
    cases counted : countPairs mark text with
    | zero => rfl
    | succ count =>
        rw [counted] at holds
        cases holds with
        | @more front _ behind others =>
            exact absurd (doubles_iff_exists.mpr ⟨front, behind, rfl⟩) without

end Counting

/-! ## Texts in which no pair begins -/

/-- No pair of a character begins in a text, whatever stands behind the text. -/
def Clear (mark : Char) (text : List Char) : Prop :=
  ¬ Doubles mark (text ++ [mark])

section Clear

variable {mark : Char}

theorem clear_nil : Clear mark [] := by
  rw [Clear, List.nil_append, ← countPairs_eq_zero_iff]
  rfl

theorem clear_cons_iff
    {c : Char}
    {text : List Char} :
    Clear mark (c :: text) ↔
      ¬ (c = mark ∧ (text ++ [mark]).head? = some mark) ∧ Clear mark text := by
  rw [Clear, List.cons_append, doubles_cons_iff, not_or]
  exact Iff.rfl

theorem clear_of_notMem
    {text : List Char}
    (without : mark ∉ text) :
    Clear mark text := by
  induction text with
  | nil => exact clear_nil
  | cons c rest ih =>
      rw [List.mem_cons, not_or] at without
      exact clear_cons_iff.mpr ⟨fun pair => without.1 pair.1.symm, ih without.2⟩

/-- Behind a character that begins no pair in front of a mark, none begins in front of a text. -/
theorem not_pair_of_clear
    {c : Char}
    {text : List Char}
    (clear : Clear mark (c :: text))
    (behind : List Char) :
    ¬ (c = mark ∧ (text ++ behind).head? = some mark) := by
  rintro ⟨isMark, follows⟩
  apply (clear_cons_iff.mp clear).1
  refine ⟨isMark, ?_⟩
  cases text with
  | nil => rfl
  | cons next rest => exact follows

/-- A character that begins no pair may stand in front of a text that is clear. -/
theorem Clear.cons
    {c : Char}
    {text behind : List Char}
    (clear : Clear mark text)
    (notPair : ¬ (c = mark ∧ (text ++ mark :: behind).head? = some mark)) :
    Clear mark (c :: text) := by
  refine clear_cons_iff.mpr ⟨?_, clear⟩
  cases text with
  | nil => exact notPair
  | cons next rest => exact notPair

theorem Clear.countPairs_append
    {front : List Char}
    (clear : Clear mark front)
    (text : List Char) :
    countPairs mark (front ++ text) = countPairs mark text := by
  induction front with
  | nil => rfl
  | cons c rest ih =>
      rw [List.cons_append, countPairs_cons_of_not_pair (not_pair_of_clear clear text)]
      exact ih (clear_cons_iff.mp clear).2

theorem Clear.countPairs_eq_zero
    {text : List Char}
    (clear : Clear mark text) :
    countPairs mark text = 0 := by
  rw [countPairs_eq_zero_iff]
  intro doubles
  exact clear (doubles.append_right [mark])

end Clear

/-! ## The first pair of a kind -/

/-- The first pair of a character behind which a text is as it should be. -/
structure FirstPair
    (mark : Char)
    (isGood : List Char → Prop)
    (text front behind : List Char) : Prop where
  parts : text = front ++ mark :: mark :: behind
  good : isGood behind
  first :
    ∀ other rest,
      text = other ++ mark :: mark :: rest → isGood rest → front.length ≤ other.length

/-- In front of the first pair no pair begins, if what is good is so for longer texts too. -/
theorem firstPair_iff
    {mark : Char}
    {isGood : List Char → Prop}
    (longer : ∀ front text, isGood text → isGood (front ++ text))
    {text front behind : List Char} :
    FirstPair mark isGood text front behind ↔
      text = front ++ mark :: mark :: behind ∧ isGood behind ∧ Clear mark front := by
  constructor
  · rintro ⟨rfl, good, first⟩
    refine ⟨rfl, good, ?_⟩
    intro doubles
    rcases doubles_iff_exists.mp doubles with ⟨other, rest, same⟩
    have parts :
        front ++ mark :: mark :: behind =
          other ++ mark :: mark :: (rest ++ mark :: behind) := by
      rw [List.append_cons, same]
      simp
    have isGoodRest : isGood (rest ++ mark :: behind) := by
      rw [List.append_cons]
      exact longer _ _ good
    have notEarlier := first other (rest ++ mark :: behind) parts isGoodRest
    have lengths := congrArg List.length same
    simp only [List.length_append, List.length_cons, List.length_nil] at lengths
    omega
  · rintro ⟨rfl, good, clear⟩
    refine ⟨rfl, good, ?_⟩
    intro other rest same _
    by_contra earlier
    apply clear
    have otherBegins : other ++ [mark, mark] <+: front ++ mark :: mark :: behind :=
      ⟨rest, by simp [same]⟩
    have frontBegins : front ++ [mark] <+: front ++ mark :: mark :: behind :=
      ⟨mark :: behind, by simp⟩
    have shorter : (other ++ [mark, mark]).length ≤ (front ++ [mark]).length := by
      simp only [List.length_append, List.length_cons, List.length_nil]
      omega
    have begins := List.prefix_of_prefix_length_le otherBegins frontBegins shorter
    exact (List.suffix_append other [mark, mark]).isInfix.trans begins.isInfix

theorem closing?_eq_some_iff
    {text body behind : List Char} :
    closing? text = some (body, behind) ↔
      FirstPair '\x7d' (fun _ => True) text body behind := by
  rw [firstPair_iff fun _ _ good => good]
  constructor
  · intro found
    refine ⟨closing?_eq_some found, trivial, ?_⟩
    induction text generalizing body with
    | nil => cases found
    | cons c rest ih =>
        rcases begins_pair_or_not '\x7d' c rest with ⟨_, rfl, rfl⟩ | notPair
        · rw [closing?_pair] at found
          cases found
          exact clear_nil
        · rw [closing?_cons notPair] at found
          rcases Option.map_eq_some_iff.mp found with ⟨⟨inner, _⟩, step, same⟩
          cases same
          rw [closing?_eq_some step] at notPair
          exact (ih step).cons notPair
  · rintro ⟨rfl, _, clear⟩
    induction body with
    | nil => rfl
    | cons c rest ih =>
        rw [List.cons_append, closing?_cons (not_pair_of_clear clear _),
          ih (clear_cons_iff.mp clear).2]
        rfl

theorem PairWith.doubles_mark
    {mark : Char}
    {isGood : List Char → Prop}
    {text : List Char}
    (pair : PairWith mark isGood text) :
    Doubles mark text := by
  rcases pair with ⟨front, behind, rfl, _⟩
  exact (Doubles.of_pair mark behind).append_left front

/-- No action opens exactly if no pair of opening braces has closing ones behind it. -/
theorem opening?_eq_none_iff {text : List Char} :
    opening? text = none ↔ ¬ PairWith '\x7b' (Doubles '\x7d') text := by
  induction text with
  | nil => simp [opening?, not_pairWith_nil]
  | cons c rest ih =>
      rcases begins_pair_or_not '\x7b' c rest with ⟨inner, rfl, rfl⟩ | notPair
      · rw [opening?_pair, Option.map_eq_none_iff, closing?_eq_none_iff, not_iff_not,
          pairWith_cons_iff]
        constructor
        · intro closes
          exact Or.inl ⟨rfl, rfl, closes⟩
        · rintro (⟨_, _, closes⟩ | later)
          · exact closes
          · rcases doubles_cons_iff.mp later.doubles_behind with ⟨impossible, _⟩ | closes
            · exact absurd impossible (by decide)
            · exact closes
      · rw [opening?_cons notPair, Option.map_eq_none_iff, ih, pairWith_cons_iff,
          or_iff_right fun pair => notPair ⟨pair.1, pair.2.1⟩]

theorem opening?_eq_some_iff
    {text lead body behind : List Char} :
    opening? text = some (lead, body, behind) ↔
      ∃ inner,
        FirstPair '\x7b' (Doubles '\x7d') text lead inner ∧
          FirstPair '\x7d' (fun _ => True) inner body behind := by
  simp only [← closing?_eq_some_iff,
    firstPair_iff fun front text (doubles : Doubles '\x7d' text) =>
      doubles.append_left front]
  constructor
  · intro found
    induction text generalizing lead with
    | nil => cases found
    | cons c rest ih =>
        rcases begins_pair_or_not '\x7b' c rest with ⟨inner, rfl, rfl⟩ | notPair
        · rw [opening?_pair] at found
          rcases Option.map_eq_some_iff.mp found with ⟨closed, step, same⟩
          cases same
          have closes : Doubles '\x7d' inner := by
            rw [closing?_eq_some step]
            exact (Doubles.of_pair _ _).append_left _
          exact ⟨inner, ⟨rfl, closes, clear_nil⟩, step⟩
        · rw [opening?_cons notPair] at found
          rcases Option.map_eq_some_iff.mp found with ⟨⟨front, _, _⟩, step, same⟩
          cases same
          rcases ih step with ⟨inner, ⟨rfl, closes, clear⟩, closed⟩
          exact ⟨inner, ⟨rfl, closes, clear.cons notPair⟩, closed⟩
  · rintro ⟨inner, ⟨rfl, _, clear⟩, closed⟩
    induction lead with
    | nil =>
        rw [List.nil_append, opening?_pair, closed]
        rfl
    | cons c rest ih =>
        rw [List.cons_append, opening?_cons (not_pair_of_clear clear _),
          ih (clear_cons_iff.mp clear).2]
        rfl

end ServiceLevel.Template
