import ServiceLevel.Proofs.Template.Leaks

/-!
# Templates put together

A template that is put together from pieces has their actions, and may be rendered piece by
piece, as long as no piece but the last leaves a pair of braces open.  With several values this
holds for two templates in a row; with one variable, for any number of texts with characters
between them that are no braces.  The pieces then render exactly if the whole does: a piece that
leaves nothing open has no more opening pairs than closing ones, and so the pairs of the whole
cannot balance unless those of every piece do.
-/

namespace ServiceLevel.Template

/-! ## Several values -/

/-- A template with its actions replaced by their values. -/
def filled (data : Entries String) (template : Template) : Except Problem (List Char) :=
  (fill data template.actions).map (template.lead ++ ·)

section Values

variable {data : Entries String}

theorem renderChars_eq_ok_iff_filled
    {text rendered : List Char} :
    renderChars data text = .ok rendered ↔
      balanced text ∧ filled data (split text) = .ok rendered := by
  rw [renderChars]
  by_cases isBalanced : balanced text
  · rw [if_pos isBalanced]
    exact (and_iff_right isBalanced).symm
  · rw [if_neg isBalanced]
    constructor
    · intro impossible
      cases impossible
    · intro both
      exact absurd both.1 isBalanced

/-- The first action of a template has a value, and the rest is filled on its own. -/
theorem filled_cons_eq_ok_iff
    {lead action literal chars : List Char}
    {actions : List (List Char × List Char)} :
    filled data ⟨lead, (action, literal) :: actions⟩ = .ok chars ↔
      ∃ text behind,
        value data action = .ok text ∧
          filled data ⟨literal, actions⟩ = .ok behind ∧
          chars = lead ++ (text.toList ++ behind) := by
  rw [filled, Attempt.map_eq_ok_iff, fill]
  constructor
  · rintro ⟨others, made, rfl⟩
    rcases Attempt.bind_eq_ok_iff.mp made with ⟨text, isValue, continued⟩
    rcases Attempt.bind_eq_ok_iff.mp continued with ⟨rest, isRest, same⟩
    cases same
    refine ⟨text, literal ++ rest, isValue, ?_, ?_⟩
    · exact Attempt.map_eq_ok_iff.mpr ⟨rest, isRest, rfl⟩
    · rw [List.append_assoc]
  · rintro ⟨text, behind, isValue, isNext, rfl⟩
    rcases Attempt.map_eq_ok_iff.mp isNext with ⟨rest, isRest, rfl⟩
    refine ⟨text.toList ++ literal ++ rest, ?_, ?_⟩
    · exact
        Attempt.bind_eq_ok_iff.mpr
          ⟨text, isValue, Attempt.bind_eq_ok_iff.mpr ⟨rest, isRest, rfl⟩⟩
    · rw [List.append_assoc]

theorem filled_nil_eq_ok_iff
    {lead chars : List Char} :
    filled data ⟨lead, []⟩ = .ok chars ↔ chars = lead := by
  rw [filled, fill, Except.map, Except.ok.injEq, List.append_nil]
  exact eq_comm

/-- A template in front of another one is filled on its own, and so is the other. -/
theorem filled_append_eq_ok_iff
    {first next : Template}
    {chars : List Char} :
    filled data (first.append next) = .ok chars ↔
      ∃ front behind,
        filled data first = .ok front ∧
          filled data next = .ok behind ∧
          chars = front ++ behind := by
  rcases first with ⟨lead, actions⟩
  rw [append]
  induction actions generalizing lead chars with
  | nil =>
      rw [attach, filled, Attempt.map_eq_ok_iff]
      constructor
      · rintro ⟨others, made, rfl⟩
        exact
          ⟨lead, _, filled_nil_eq_ok_iff.mpr rfl,
            Attempt.map_eq_ok_iff.mpr ⟨others, made, rfl⟩, List.append_assoc _ _ _⟩
      · rintro ⟨_, _, isLead, isNext, rfl⟩
        rcases Attempt.map_eq_ok_iff.mp isNext with ⟨others, made, rfl⟩
        rw [filled_nil_eq_ok_iff.mp isLead]
        exact ⟨others, made, List.append_assoc _ _ _⟩
  | cons action rest ih =>
      rcases action with ⟨action, literal⟩
      rw [attach, filled_cons_eq_ok_iff]
      simp only [ih]
      constructor
      · rintro ⟨text, _, isValue, ⟨front, behind, isFront, isBehind, rfl⟩, rfl⟩
        refine
          ⟨_, behind, filled_cons_eq_ok_iff.mpr ⟨text, front, isValue, isFront, rfl⟩,
            isBehind, ?_⟩
        simp only [List.append_assoc]
      · rintro ⟨_, behind, isFirst, isBehind, rfl⟩
        rcases filled_cons_eq_ok_iff.mp isFirst with ⟨text, front, isValue, isFront, rfl⟩
        refine ⟨text, _, isValue, ⟨front, behind, isFront, isBehind, rfl⟩, ?_⟩
        simp only [List.append_assoc]

end Values

/-! ## Braces left open -/

section Open

variable {c : Char} {left right : List Char}

/-- A brace is left open in the second text, or in the first and not closed in the second. -/
theorem dangling_append_iff
    (notOpening : c ≠ '\x7b')
    (notClosing : c ≠ '\x7d') :
    Dangling (left ++ c :: right) ↔
      Dangling right ∨ Dangling left ∧ ¬ Doubles '\x7d' right := by
  have closes :
      ∀ behind : List Char,
        ¬ Doubles '\x7d' (behind ++ c :: right) ↔
          ¬ Doubles '\x7d' behind ∧ ¬ Doubles '\x7d' right := by
    intro behind
    rw [← countPairs_eq_zero_iff, countPairs_append notClosing, Nat.add_eq_zero_iff,
      countPairs_eq_zero_iff, countPairs_eq_zero_iff]
  constructor
  · rintro ⟨front, behind, parts, unclosed⟩
    rcases List.append_eq_append_iff.mp parts with ⟨gap, _, inRight⟩ | ⟨gap, inLeft, reaches⟩
    · rcases gap with _ | ⟨first, others⟩
      · cases inRight
        exact absurd rfl notOpening
      · cases inRight
        exact Or.inl ⟨others, behind, rfl, unclosed⟩
    · rcases gap with _ | ⟨first, _ | ⟨second, others⟩⟩
      · cases reaches
        exact absurd rfl notOpening
      · cases reaches
        exact absurd rfl notOpening
      · cases reaches
        rcases (closes others).mp unclosed with ⟨inFirst, inSecond⟩
        exact Or.inr ⟨⟨front, others, inLeft, inFirst⟩, inSecond⟩
  · rintro (dangling | ⟨⟨front, behind, rfl, unclosed⟩, notBehind⟩)
    · exact (dangling.append_left [c]).append_left left
    · refine ⟨front, behind ++ c :: right, ?_, (closes behind).mpr ⟨unclosed, notBehind⟩⟩
      rw [List.append_assoc]
      rfl

end Open

/-! ## Texts with at most one action -/

section Single

variable {name : String} {text lead body behind value : List Char}

theorem renders_of_none
    (without : opening? text = none)
    (isBalanced : balanced text) :
    Renders name text where
  balanced := isBalanced
  reads := by
    rw [split_of_none without]
    intro action impossible
    cases impossible

theorem substitute_of_none (without : opening? text = none) :
    substitute value (split text) = text := by
  rw [split_of_none without, substitute, List.flatMap_nil, List.append_nil]

theorem renders_of_single
    (found : opening? text = some (lead, body, behind))
    (noMore : opening? behind = none)
    (isVariable : variableName? body = some name)
    (isBalanced : balanced text) :
    Renders name text where
  balanced := isBalanced
  reads := by
    rw [split_of_some found, split_of_none noMore]
    intro action member
    rw [List.mem_singleton.mp member]
    exact isVariable

theorem substitute_of_single
    (found : opening? text = some (lead, body, behind))
    (noMore : opening? behind = none) :
    substitute value (split text) = lead ++ (value ++ behind) := by
  rw [split_of_some found, split_of_none noMore, substitute, List.flatMap_cons, List.flatMap_nil,
    List.append_nil]

end Single

/-! ## Pieces and marks -/

/-- Pieces of a text, each with the character behind it, and the last piece. -/
def joined : List (List Char × Char) → List Char → List Char
  | [], last => last
  | (piece, mark) :: rest, last => piece ++ mark :: joined rest last

/-- The pieces leave no brace open, and no brace stands between them. -/
def AreSettled (parts : List (List Char × Char)) : Prop :=
  ∀ part ∈ parts, ¬ Dangling part.1 ∧ part.2 ≠ '\x7b' ∧ part.2 ≠ '\x7d'

section Pieces

variable {name : String} {parts : List (List Char × Char)} {last : List Char}

theorem not_dangling_joined
    (settled : AreSettled parts)
    (lastSettled : ¬ Dangling last) :
    ¬ Dangling (joined parts last) := by
  induction parts with
  | nil => exact lastSettled
  | cons part rest ih =>
      rcases List.forall_mem_cons.mp settled with ⟨⟨here, notOpening, notClosing⟩, others⟩
      rw [joined, dangling_append_iff notOpening notClosing, not_or, not_and_not_right]
      exact ⟨ih others, fun dangling => absurd dangling here⟩

/-- Where all actions stand for a variable and none is left open, no opening pair is in excess. -/
theorem countPairs_opening_le
    {text : List Char}
    (reads : (split text).ReadsOnly name)
    (settled : ¬ Dangling text) :
    countPairs '\x7b' text ≤ countPairs '\x7d' text := by
  have named : (split text).Named := by
    intro action member
    exact ⟨name, variableName?_eq_some_iff.mp (reads action member)⟩
  have noStrays : strays '\x7b' (split text) = 0 := by
    rw [dangling_iff_strays, not_not] at settled
    exact settled
  rw [countPairs_eq_actions_add_strays (Or.inl rfl) named,
    countPairs_eq_actions_add_strays (Or.inr rfl) named, noStrays]
  exact Nat.add_le_add_left (Nat.zero_le _) _

theorem renders_append_iff
    {c : Char}
    {left right : List Char}
    (notOpening : c ≠ '\x7b')
    (notClosing : c ≠ '\x7d')
    (leftSettled : ¬ Dangling left)
    (rightSettled : ¬ Dangling right) :
    Renders name (left ++ c :: right) ↔ Renders name left ∧ Renders name right := by
  have settled : Dangling left → ¬ Doubles '\x7d' right := by
    intro dangling
    exact absurd dangling leftSettled
  constructor
  · rintro ⟨isBalanced, reads⟩
    rw [split_append notOpening notClosing settled, readsOnly_append_iff,
      split_cons notOpening] at reads
    have rightReads : (split right).ReadsOnly name := reads.2
    have leftBounds := countPairs_opening_le reads.1 leftSettled
    have rightBounds := countPairs_opening_le rightReads rightSettled
    rw [balanced, decide_eq_true_eq, countPairs_append notOpening,
      countPairs_append notClosing] at isBalanced
    constructor
    · exact ⟨decide_eq_true (by omega), reads.1⟩
    · exact ⟨decide_eq_true (by omega), rightReads⟩
  · rintro ⟨isLeft, isRight⟩
    exact Renders.append notOpening notClosing settled isLeft isRight

/-- A text of pieces that leave nothing open renders exactly if each of them does. -/
theorem renders_joined_iff
    (settled : AreSettled parts)
    (lastSettled : ¬ Dangling last) :
    Renders name (joined parts last) ↔
      (∀ part ∈ parts, Renders name part.1) ∧ Renders name last := by
  induction parts with
  | nil => simp [joined]
  | cons part rest ih =>
      rcases List.forall_mem_cons.mp settled with ⟨⟨here, notOpening, notClosing⟩, others⟩
      rw [joined, renders_append_iff notOpening notClosing here
        (not_dangling_joined others lastSettled), ih others, List.forall_mem_cons, and_assoc]

theorem substitute_joined
    (settled : AreSettled parts)
    (value : List Char) :
    substitute value (split (joined parts last)) =
      joined (parts.map fun part => (substitute value (split part.1), part.2))
        (substitute value (split last)) := by
  induction parts with
  | nil => rfl
  | cons part rest ih =>
      rcases List.forall_mem_cons.mp settled with ⟨⟨here, notOpening, notClosing⟩, others⟩
      have closed : Dangling part.1 → ¬ Doubles '\x7d' (joined rest last) := by
        intro dangling
        exact absurd dangling here
      rw [joined, substitute_split_append notOpening notClosing closed, ih others]
      rfl

end Pieces

end ServiceLevel.Template
