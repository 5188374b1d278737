import Mathlib.Data.List.Infix
import ServiceLevel.Template

/-!
# Splitting joined texts

Where two texts are joined by a character that is no brace, the actions of the joined
text are those of its parts, unless the first part has a pair of opening braces with no
closing pair behind it and the second part has a closing pair.  Then an action reaches
from the one part into the other, and the character between them is part of it.
-/

namespace ServiceLevel.Template

/-! ## Pairs of braces -/

/-- A character stands twice in a row. -/
def Doubles (mark : Char) (text : List Char) : Prop :=
  [mark, mark] <:+: text

/-- Behind some pair of a character the text is as it should be. -/
def PairWith (mark : Char) (isGood : List Char → Prop) (text : List Char) : Prop :=
  ∃ front behind, text = front ++ mark :: mark :: behind ∧ isGood behind

/-- A pair of opening braces has no pair of closing ones behind it. -/
def Dangling (text : List Char) : Prop :=
  ∃ front behind,
    text = front ++ '\x7b' :: '\x7b' :: behind ∧ ¬ Doubles '\x7d' behind

theorem Doubles.append_left
    {mark : Char}
    {text : List Char}
    (doubles : Doubles mark text)
    (front : List Char) :
    Doubles mark (front ++ text) :=
  doubles.trans (List.suffix_append front text).isInfix

theorem Doubles.append_right
    {mark : Char}
    {text : List Char}
    (doubles : Doubles mark text)
    (behind : List Char) :
    Doubles mark (text ++ behind) :=
  doubles.trans (List.prefix_append text behind).isInfix

theorem Doubles.of_pair
    (mark : Char)
    (text : List Char) :
    Doubles mark (mark :: mark :: text) :=
  (List.prefix_append [mark, mark] text).isInfix

theorem doubles_cons_iff
    {mark c : Char}
    {text : List Char} :
    Doubles mark (c :: text) ↔
      (c = mark ∧ text.head? = some mark) ∨ Doubles mark text := by
  rw [Doubles, List.infix_cons_iff]
  apply or_congr_left
  cases text with
  | nil => simp
  | cons next rest => simp [List.cons_prefix_cons, eq_comm]

/-- Either a text begins with a pair, or its first character begins none. -/
theorem begins_pair_or_not
    (mark c : Char)
    (text : List Char) :
    (∃ behind, c = mark ∧ text = mark :: behind) ∨
      ¬ (c = mark ∧ text.head? = some mark) := by
  by_cases isPair : c = mark ∧ text.head? = some mark
  · left
    rcases isPair with ⟨same, follows⟩
    cases text with
    | nil => cases follows
    | cons next behind =>
        cases follows
        exact ⟨behind, same, rfl⟩
  · exact Or.inr isPair

/-- Joining a text to another one by some other character makes no pair. -/
theorem not_pair_append
    {mark first c : Char}
    {left : List Char}
    (apart : c ≠ mark)
    (notPair : ¬ (first = mark ∧ left.head? = some mark))
    (right : List Char) :
    ¬ (first = mark ∧ (left ++ c :: right).head? = some mark) := by
  cases left with
  | nil =>
      rintro ⟨_, follows⟩
      exact apart (Option.some.inj follows)
  | cons next others => exact notPair

section PairWith

variable {mark : Char} {isGood : List Char → Prop}

theorem PairWith.append_left
    {text : List Char}
    (pair : PairWith mark isGood text)
    (front : List Char) :
    PairWith mark isGood (front ++ text) := by
  rcases pair with ⟨before, behind, split, good⟩
  refine ⟨front ++ before, behind, ?_, good⟩
  rw [split, List.append_assoc]

theorem PairWith.doubles_behind
    {other : Char}
    {text : List Char}
    (pair : PairWith mark (Doubles other) text) :
    Doubles other text := by
  rcases pair with ⟨front, behind, rfl, doubles⟩
  exact (doubles.append_left [mark, mark]).append_left front

theorem pairWith_cons_iff
    {c : Char}
    {text : List Char} :
    PairWith mark isGood (c :: text) ↔
      (c = mark ∧ text.head? = some mark ∧ isGood text.tail) ∨
        PairWith mark isGood text := by
  constructor
  · rintro ⟨front, behind, split, good⟩
    cases front with
    | nil =>
        cases split
        exact Or.inl ⟨rfl, rfl, good⟩
    | cons first rest =>
        cases split
        exact Or.inr ⟨rest, behind, rfl, good⟩
  · rintro (⟨rfl, follows, good⟩ | pair)
    · cases text with
      | nil => cases follows
      | cons next behind =>
          cases follows
          exact ⟨[], behind, rfl, good⟩
    · exact pair.append_left [c]

theorem not_pairWith_nil : ¬ PairWith mark isGood [] := by
  rintro ⟨front, behind, split, _⟩
  simp at split

end PairWith

theorem Dangling.append_left
    {text : List Char}
    (dangling : Dangling text)
    (front : List Char) :
    Dangling (front ++ text) :=
  PairWith.append_left dangling front

theorem dangling_cons_iff
    {c : Char}
    {text : List Char} :
    Dangling (c :: text) ↔
      (c = '\x7b' ∧ text.head? = some '\x7b' ∧ ¬ Doubles '\x7d' text.tail) ∨
        Dangling text :=
  pairWith_cons_iff

theorem not_dangling_nil : ¬ Dangling [] :=
  not_pairWith_nil

instance (mark : Char) (text : List Char) : Decidable (Doubles mark text) :=
  inferInstanceAs (Decidable ([mark, mark] <:+: text))

instance decidableDangling : (text : List Char) → Decidable (Dangling text)
  | [] => isFalse not_dangling_nil
  | _ :: rest =>
    have := decidableDangling rest
    decidable_of_iff _ dangling_cons_iff.symm

/-! ## The end of an action -/

theorem closing?_pair (behind : List Char) :
    closing? ('\x7d' :: '\x7d' :: behind) = some ([], behind) :=
  rfl

theorem closing?_cons
    {c : Char}
    {text : List Char}
    (notPair : ¬ (c = '\x7d' ∧ text.head? = some '\x7d')) :
    closing? (c :: text) =
      (closing? text).map fun found => (c :: found.1, found.2) := by
  rw [closing?]
  rintro behind same rfl
  exact notPair ⟨same, rfl⟩

theorem closing?_eq_some
    {text body behind : List Char}
    (found : closing? text = some (body, behind)) :
    text = body ++ '\x7d' :: '\x7d' :: behind := by
  induction text generalizing body with
  | nil => cases found
  | cons c rest ih =>
      rcases begins_pair_or_not '\x7d' c rest with ⟨_, rfl, rfl⟩ | notPair
      · rw [closing?_pair] at found
        cases found
        rfl
      · rw [closing?_cons notPair] at found
        rcases Option.map_eq_some_iff.mp found with ⟨inner, step, same⟩
        cases same
        rw [List.cons_append, ← ih step]

theorem closing?_eq_none_iff {text : List Char} :
    closing? text = none ↔ ¬ Doubles '\x7d' text := by
  induction text with
  | nil => simp [closing?, Doubles]
  | cons c rest ih =>
      rcases begins_pair_or_not '\x7d' c rest with ⟨behind, rfl, rfl⟩ | notPair
      · rw [closing?_pair]
        simp [Doubles.of_pair]
      · rw [closing?_cons notPair, Option.map_eq_none_iff, ih, doubles_cons_iff,
          or_iff_right notPair]

/-- An action that ends in a text ends there whatever stands behind the text. -/
theorem closing?_append
    {text body behind : List Char}
    (found : closing? text = some (body, behind))
    (more : List Char) :
    closing? (text ++ more) = some (body, behind ++ more) := by
  induction text generalizing body with
  | nil => cases found
  | cons c rest ih =>
      rcases begins_pair_or_not '\x7d' c rest with ⟨_, rfl, rfl⟩ | notPair
      · rw [closing?_pair] at found
        cases found
        rfl
      · rw [closing?_cons notPair] at found
        rcases Option.map_eq_some_iff.mp found with ⟨inner, step, same⟩
        cases same
        have stillNoPair :
            ¬ (c = '\x7d' ∧ (rest ++ more).head? = some '\x7d') := by
          cases rest with
          | nil => cases step
          | cons next others => exact notPair
        rw [List.cons_append, closing?_cons stillNoPair, ih step]
        rfl

/-- A text without a closing pair is passed over up to the pair that closes. -/
theorem closing?_append_of_none
    {c : Char}
    {left right : List Char}
    (notBrace : c ≠ '\x7d')
    (unclosed : closing? left = none) :
    closing? (left ++ c :: right) =
      (closing? right).map fun found => (left ++ c :: found.1, found.2) := by
  induction left with
  | nil =>
      rw [List.nil_append, closing?_cons fun pair => notBrace pair.1]
      rfl
  | cons first rest ih =>
      rcases begins_pair_or_not '\x7d' first rest with ⟨_, rfl, rfl⟩ | notPair
      · cases unclosed
      · rw [closing?_cons notPair, Option.map_eq_none_iff] at unclosed
        rw [List.cons_append,
          closing?_cons (not_pair_append notBrace notPair right), ih unclosed,
          Option.map_map]
        rfl

/-! ## The first action -/

theorem opening?_pair (inner : List Char) :
    opening? ('\x7b' :: '\x7b' :: inner) =
      (closing? inner).map fun found => ([], found.1, found.2) :=
  rfl

theorem opening?_cons
    {c : Char}
    {text : List Char}
    (notPair : ¬ (c = '\x7b' ∧ text.head? = some '\x7b')) :
    opening? (c :: text) =
      (opening? text).map fun found => (c :: found.1, found.2) := by
  rw [opening?]
  rintro behind same rfl
  exact notPair ⟨same, rfl⟩

theorem opening?_eq_some
    {text lead body behind : List Char}
    (found : opening? text = some (lead, body, behind)) :
    text =
      lead ++ '\x7b' :: '\x7b' :: (body ++ '\x7d' :: '\x7d' :: behind) := by
  induction text generalizing lead with
  | nil => cases found
  | cons c rest ih =>
      rcases begins_pair_or_not '\x7b' c rest with ⟨inner, rfl, rfl⟩ | notPair
      · rw [opening?_pair] at found
        rcases Option.map_eq_some_iff.mp found with ⟨closed, step, same⟩
        cases same
        rw [← closing?_eq_some step]
        rfl
      · rw [opening?_cons notPair] at found
        rcases Option.map_eq_some_iff.mp found with ⟨⟨_, _, _⟩, step, same⟩
        cases same
        rw [List.cons_append, ← ih step]

theorem opening?_eq_none
    {text : List Char}
    (unclosed : ¬ Doubles '\x7d' text) :
    opening? text = none := by
  cases found : opening? text with
  | none => rfl
  | some action =>
      rcases action with ⟨lead, body, behind⟩
      rw [opening?_eq_some found] at unclosed
      have doubles : Doubles '\x7d' ('\x7d' :: '\x7d' :: behind) :=
        .of_pair _ _
      exact absurd
        (((doubles.append_left body).append_left ['\x7b', '\x7b']).append_left
          lead)
        unclosed

/-- The first action of a text stays the first one whatever stands behind the text. -/
theorem opening?_append
    {text lead body behind : List Char}
    (found : opening? text = some (lead, body, behind))
    (more : List Char) :
    opening? (text ++ more) = some (lead, body, behind ++ more) := by
  induction text generalizing lead with
  | nil => cases found
  | cons c rest ih =>
      rcases begins_pair_or_not '\x7b' c rest with ⟨inner, rfl, rfl⟩ | notPair
      · rw [opening?_pair] at found
        rcases Option.map_eq_some_iff.mp found with ⟨closed, step, same⟩
        cases same
        rw [List.cons_append, List.cons_append, opening?_pair,
          closing?_append step]
        rfl
      · rw [opening?_cons notPair] at found
        rcases Option.map_eq_some_iff.mp found with ⟨⟨_, _, _⟩, step, same⟩
        cases same
        have stillNoPair :
            ¬ (c = '\x7b' ∧ (rest ++ more).head? = some '\x7b') := by
          cases rest with
          | nil => cases step
          | cons second others => exact notPair
        rw [List.cons_append, opening?_cons stillNoPair, ih step]
        rfl

section Joint

variable {c : Char} {left right : List Char}

/-- A text without an action is passed over if none of its braces opens one behind it. -/
theorem opening?_append_of_none
    (notOpening : c ≠ '\x7b')
    (notClosing : c ≠ '\x7d')
    (without : opening? left = none)
    (settled : Dangling left → ¬ Doubles '\x7d' right) :
    opening? (left ++ c :: right) =
      (opening? (c :: right)).map fun found => (left ++ found.1, found.2) := by
  induction left with
  | nil => simp
  | cons first rest ih =>
      rcases begins_pair_or_not '\x7b' first rest with ⟨inner, rfl, rfl⟩ | notPair
      · rw [opening?_pair, Option.map_eq_none_iff] at without
        have unclosed : ¬ Doubles '\x7d' right :=
          settled ⟨[], inner, rfl, closing?_eq_none_iff.mp without⟩
        have here : closing? (inner ++ c :: right) = none := by
          rw [closing?_append_of_none notClosing without,
            closing?_eq_none_iff.mpr unclosed, Option.map_none]
        have there : opening? (c :: right) = none := by
          apply opening?_eq_none
          rw [doubles_cons_iff, not_or]
          exact ⟨fun pair => notClosing pair.1, unclosed⟩
        rw [List.cons_append, List.cons_append, opening?_pair, here, there]
        rfl
      · rw [opening?_cons notPair, Option.map_eq_none_iff] at without
        have settledRest : Dangling rest → ¬ Doubles '\x7d' right := by
          intro dangling
          exact settled (dangling.append_left [first])
        rw [List.cons_append,
          opening?_cons (not_pair_append notOpening notPair right),
          ih without settledRest, Option.map_map]
        rfl

/-- A brace that is left open takes what stands between two texts into an action. -/
theorem exists_opening?_append_of_dangling
    (notOpening : c ≠ '\x7b')
    (notClosing : c ≠ '\x7d')
    (without : opening? left = none)
    (dangling : Dangling left)
    (closes : Doubles '\x7d' right) :
    ∃ lead body behind,
      opening? (left ++ c :: right) = some (lead, body, behind) ∧
        c ∈ body := by
  induction left with
  | nil => exact absurd dangling not_dangling_nil
  | cons first rest ih =>
      rcases begins_pair_or_not '\x7b' first rest with ⟨inner, rfl, rfl⟩ | notPair
      · rw [opening?_pair, Option.map_eq_none_iff] at without
        cases closed : closing? right with
        | none => exact absurd closes (closing?_eq_none_iff.mp closed)
        | some found =>
            refine ⟨[], inner ++ c :: found.1, found.2, ?_, by simp⟩
            rw [List.cons_append, List.cons_append, opening?_pair,
              closing?_append_of_none notClosing without, closed]
            rfl
      · rw [opening?_cons notPair, Option.map_eq_none_iff] at without
        have danglingRest : Dangling rest := by
          rcases dangling_cons_iff.mp dangling with ⟨opens, follows, _⟩ | behind
          · exact absurd ⟨opens, follows⟩ notPair
          · exact behind
        rcases ih without danglingRest with ⟨lead, body, behind, found, inBody⟩
        refine ⟨first :: lead, body, behind, ?_, inBody⟩
        rw [List.cons_append,
          opening?_cons (not_pair_append notOpening notPair right), found]
        rfl

end Joint

/-- A brace that is left open stands behind the first action. -/
theorem dangling_iff_of_opening?
    {text lead body behind : List Char}
    (found : opening? text = some (lead, body, behind)) :
    Dangling text ↔ Dangling behind := by
  have parts :
      text =
        (lead ++ '\x7b' :: '\x7b' :: body) ++ '\x7d' :: '\x7d' :: behind := by
    rw [opening?_eq_some found, List.append_assoc]
    rfl
  constructor
  · rintro ⟨front, rest, split, unclosed⟩
    rw [split] at parts
    rcases List.append_eq_append_iff.mp parts with
      ⟨gap, _, within⟩ | ⟨gap, _, beyond⟩
    · -- The braces would stand in front of the end of the action, which closes them.
      rcases gap with _ | ⟨first, _ | ⟨second, others⟩⟩
      · cases within
      · cases within
      · simp only [List.cons_append, List.cons.injEq] at within
        rw [within.2.2] at unclosed
        exact absurd ((Doubles.of_pair _ behind).append_left others) unclosed
    · rcases gap with _ | ⟨first, _ | ⟨second, others⟩⟩
      · cases beyond
      · cases beyond
      · simp only [List.cons_append, List.cons.injEq] at beyond
        exact ⟨others, rest, beyond.2.2, unclosed⟩
  · intro dangling
    rw [parts]
    exact (dangling.append_left ['\x7d', '\x7d']).append_left _

/-! ## All actions -/

theorem split_of_none
    {text : List Char}
    (without : opening? text = none) :
    split text = ⟨text, []⟩ := by
  rw [split]
  split
  · rfl
  · rename_i found
    rw [without] at found
    cases found

theorem split_of_some
    {text lead body behind : List Char}
    (found : opening? text = some (lead, body, behind)) :
    split text =
      ⟨lead, (body, (split behind).lead) :: (split behind).actions⟩ := by
  rw [split]
  split
  · rename_i without
    rw [found] at without
    cases without
  · rename_i again
    rw [found] at again
    cases again
    rfl

/-- Put a template behind literal pieces and actions; the pieces that meet become one. -/
def attach (next : Template) (lead : List Char) :
    List (List Char × List Char) → Template
  | [] => ⟨lead ++ next.lead, next.actions⟩
  | (action, literal) :: rest =>
    let others := attach next literal rest
    ⟨lead, (action, others.lead) :: others.actions⟩

/-- One template behind another. -/
def append (first next : Template) : Template :=
  attach next first.lead first.actions

theorem split_append
    {c : Char}
    {left right : List Char}
    (notOpening : c ≠ '\x7b')
    (notClosing : c ≠ '\x7d')
    (settled : Dangling left → ¬ Doubles '\x7d' right) :
    split (left ++ c :: right) = (split left).append (split (c :: right)) := by
  induction left using split.induct with
  | case1 left without =>
      have joint :=
        opening?_append_of_none notOpening notClosing without settled
      rw [split_of_none without]
      cases next : opening? (c :: right) with
      | none =>
          rw [next, Option.map_none] at joint
          rw [split_of_none joint, split_of_none next]
          rfl
      | some found =>
          rw [next, Option.map_some] at joint
          rw [split_of_some joint, split_of_some next]
          rfl
  | case2 left lead body behind found ih =>
      have settledBehind : Dangling behind → ¬ Doubles '\x7d' right := by
        intro dangling
        exact settled ((dangling_iff_of_opening? found).mpr dangling)
      rw [split_of_some (opening?_append found _), ih settledBehind,
        split_of_some found]
      rfl

/-- An action that a brace left open begins holds what stands between the two texts. -/
theorem exists_mem_actions_split_append
    {c : Char}
    {left right : List Char}
    (notOpening : c ≠ '\x7b')
    (notClosing : c ≠ '\x7d')
    (dangling : Dangling left)
    (closes : Doubles '\x7d' right) :
    ∃ action ∈ (split (left ++ c :: right)).actions, c ∈ action.1 := by
  induction left using split.induct with
  | case1 left without =>
      rcases exists_opening?_append_of_dangling notOpening notClosing without
          dangling closes with
        ⟨lead, body, behind, found, inBody⟩
      rw [split_of_some found]
      exact ⟨_, List.mem_cons_self, inBody⟩
  | case2 left lead body behind found ih =>
      have danglingBehind := (dangling_iff_of_opening? found).mp dangling
      rcases ih danglingBehind with ⟨action, member, inAction⟩
      rw [split_of_some (opening?_append found _)]
      exact ⟨action, List.mem_cons_of_mem _ member, inAction⟩

theorem split_cons
    {c : Char}
    {text : List Char}
    (notBrace : c ≠ '\x7b') :
    split (c :: text) =
      ⟨c :: (split text).lead, (split text).actions⟩ := by
  have notPair : ¬ (c = '\x7b' ∧ text.head? = some '\x7b') :=
    fun pair => notBrace pair.1
  have step := opening?_cons notPair
  cases next : opening? text with
  | none =>
      rw [next, Option.map_none] at step
      rw [split_of_none step, split_of_none next]
  | some found =>
      rw [next, Option.map_some] at step
      rw [split_of_some step, split_of_some next]

end ServiceLevel.Template
