import Mathlib.Algebra.BigOperators.Group.List.Basic
import Mathlib.Algebra.GroupWithZero.Nat
import ServiceLevel.Proofs.Template.Reference

/-!
# Delimiters that leak

A text that can be rendered may still hold pairs of braces that belong to no action: they
stay in its literal pieces and reach the result.  Each action takes one pair of opening
braces and one of closing ones, so that equal counts leave as many of the one kind as of
the other, and with values that hold no braces the result has just the pairs that are left.

A pair of opening braces is left exactly if the text has one with no closing pair behind
it.  So braces leak from a text of equal counts exactly if a closing pair stands too early,
where an opening one at the end would need it.
-/

namespace ServiceLevel.Template

/-! ## Pairs of literal pieces -/

/-- The literal pieces of a template, in order. -/
def literals (template : Template) : List (List Char) :=
  template.lead :: template.actions.map Prod.snd

/-- How many pairs of a character the literal pieces hold. -/
def strays (mark : Char) (template : Template) : Nat :=
  (template.literals.map (countPairs mark)).sum

/-- All actions of a template name variables. -/
def Named (template : Template) : Prop :=
  ∀ action ∈ template.actions, ∃ name, Names action.1 name

section Pieces

variable {mark : Char} {text lead body behind : List Char}

theorem exists_doubles_iff_strays_ne_zero {template : Template} :
    (∃ literal ∈ template.literals, Doubles mark literal) ↔ strays mark template ≠ 0 := by
  rw [strays, Ne, List.sum_eq_zero_iff_forall_eq_nat, List.forall_mem_map, not_forall]
  refine exists_congr fun literal => ?_
  rw [Classical.not_imp, countPairs_eq_zero_iff, not_not]

theorem literals_split_of_some (found : opening? text = some (lead, body, behind)) :
    (split text).literals = lead :: (split behind).literals := by
  rw [split_of_some found]
  rfl

theorem strays_split_of_some (found : opening? text = some (lead, body, behind)) :
    strays mark (split text) = countPairs mark lead + strays mark (split behind) := by
  rw [strays, literals_split_of_some found, List.map_cons, List.sum_cons]
  rfl

theorem strays_split_of_none (without : opening? text = none) :
    strays mark (split text) = countPairs mark text := by
  rw [split_of_none without]
  exact Nat.add_zero _

/-- No pair of opening braces begins in front of the first action. -/
theorem clear_lead (found : opening? text = some (lead, body, behind)) :
    Clear '\x7b' lead := by
  rcases opening?_eq_some_iff.mp found with ⟨inner, opens, _⟩
  have longer :
      ∀ front text, Doubles '\x7d' text → Doubles '\x7d' (front ++ text) :=
    fun front _ doubles => doubles.append_left front
  exact ((firstPair_iff longer).mp opens).2.2

theorem named_split_of_some (found : opening? text = some (lead, body, behind)) :
    (split text).Named ↔ (∃ name, Names body name) ∧ (split behind).Named := by
  rw [Named, split_of_some found, List.forall_mem_cons]
  exact Iff.rfl

/-- The literal pieces keep a pair of opening braces exactly if the text leaves one open. -/
theorem dangling_iff_strays :
    Dangling text ↔ strays '\x7b' (split text) ≠ 0 := by
  induction text using split.induct with
  | case1 text without =>
      rw [strays_split_of_none without, Ne, countPairs_eq_zero_iff, not_not]
      constructor
      · exact PairWith.doubles_mark
      · intro doubles
        rcases doubles_iff_exists.mp doubles with ⟨front, behind, rfl⟩
        refine ⟨front, behind, rfl, ?_⟩
        intro closes
        exact opening?_eq_none_iff.mp without ⟨front, behind, rfl, closes⟩
  | case2 text lead body behind found ih =>
      rw [dangling_iff_of_opening? found, ih, strays_split_of_some found,
        (clear_lead found).countPairs_eq_zero, Nat.zero_add]

/-- An action that names a variable takes one pair of either kind. -/
theorem countPairs_of_named
    (isBrace : mark = '\x7b' ∨ mark = '\x7d')
    (found : opening? text = some (lead, body, behind))
    {name : String}
    (names : Names body name) :
    countPairs mark text = countPairs mark lead + 1 + countPairs mark behind := by
  rw [opening?_eq_some found]
  rcases isBrace with rfl | rfl
  · have clearBody : Clear '\x7b' body := clear_of_notMem (names.notMem foreign_opening)
    rw [(clear_lead found).countPairs_append, (clear_lead found).countPairs_eq_zero,
      countPairs_pair, clearBody.countPairs_append, countPairs_cons_of_ne (by decide),
      countPairs_cons_of_ne (by decide)]
    omega
  · have clearBody : Clear '\x7d' body := clear_of_notMem (names.notMem foreign_closing)
    rw [countPairs_append (by decide), countPairs_cons_of_ne (by decide),
      clearBody.countPairs_append, countPairs_pair]
    omega

theorem countPairs_eq_actions_add_strays
    (isBrace : mark = '\x7b' ∨ mark = '\x7d')
    (named : (split text).Named) :
    countPairs mark text = (split text).actions.length + strays mark (split text) := by
  induction text using split.induct with
  | case1 text without =>
      rw [strays_split_of_none without, split_of_none without]
      exact (Nat.zero_add _).symm
  | case2 text lead body behind found ih =>
      rcases (named_split_of_some found).mp named with ⟨⟨name, names⟩, others⟩
      have actions : (split text).actions.length = (split behind).actions.length + 1 := by
        rw [split_of_some found]
        rfl
      rw [countPairs_of_named isBrace found names, ih others, actions,
        strays_split_of_some found]
      omega

/-- Equal counts leave as many pairs of opening braces as of closing ones. -/
theorem strays_eq
    (isBalanced : balanced text)
    (named : (split text).Named) :
    strays '\x7b' (split text) = strays '\x7d' (split text) := by
  rw [balanced, decide_eq_true_eq, countPairs_eq_actions_add_strays (Or.inl rfl) named,
    countPairs_eq_actions_add_strays (Or.inr rfl) named] at isBalanced
  exact Nat.add_left_cancel isBalanced

end Pieces

/-! ## Pairs of the result -/

section Results

variable {text lead body behind : List Char} {value : String} {values : List String}

theorem interleave_split_of_some (found : opening? text = some (lead, body, behind)) :
    (split text).interleave (value :: values) =
      lead ++ (value.toList ++ (split behind).interleave values) := by
  rw [split_of_some found, interleave, interleave, placed, List.zipWith_cons_cons,
    List.flatten_cons, List.append_assoc]
  rfl

theorem countPairs_interleave_of_none
    {mark : Char}
    (without : opening? text = none)
    (filled : values.length = (split text).actions.length) :
    countPairs mark ((split text).interleave values) = strays mark (split text) := by
  rw [split_of_none without] at filled ⊢
  rw [List.length_eq_zero_iff.mp filled]
  simp [interleave, placed, strays, literals]

/-- With values that hold no opening braces the result has the pairs that are left. -/
theorem countPairs_interleave_opening
    (filled : values.length = (split text).actions.length)
    (free : ∀ value ∈ values, '\x7b' ∉ value.toList) :
    countPairs '\x7b' ((split text).interleave values) = strays '\x7b' (split text) := by
  induction text using split.induct generalizing values with
  | case1 text without => exact countPairs_interleave_of_none without filled
  | case2 text lead body behind found ih =>
      rw [split_of_some found] at filled
      rcases List.exists_cons_of_length_eq_add_one filled with ⟨value, others, rfl⟩
      rcases List.forall_mem_cons.mp free with ⟨freeValue, freeOthers⟩
      rw [interleave_split_of_some found, (clear_lead found).countPairs_append,
        (clear_of_notMem freeValue).countPairs_append,
        ih (Nat.succ.inj filled) freeOthers, strays_split_of_some found,
        (clear_lead found).countPairs_eq_zero, Nat.zero_add]

/-- So it has with closing braces, if a value stands between any two pieces. -/
theorem countPairs_interleave_closing
    (filled : values.length = (split text).actions.length)
    (free : ∀ value ∈ values, '\x7d' ∉ value.toList)
    (nonempty : ∀ value ∈ values, value.toList ≠ []) :
    countPairs '\x7d' ((split text).interleave values) = strays '\x7d' (split text) := by
  induction text using split.induct generalizing values with
  | case1 text without => exact countPairs_interleave_of_none without filled
  | case2 text lead body behind found ih =>
      rw [split_of_some found] at filled
      rcases List.exists_cons_of_length_eq_add_one filled with ⟨value, others, rfl⟩
      rcases List.forall_mem_cons.mp free with ⟨freeValue, freeOthers⟩
      rcases List.forall_mem_cons.mp nonempty with ⟨someValue, someOthers⟩
      rcases List.exists_cons_of_ne_nil someValue with ⟨first, rest, chars⟩
      rw [chars, List.mem_cons, not_or] at freeValue
      rw [interleave_split_of_some found, chars, List.cons_append,
        countPairs_append (Ne.symm freeValue.1),
        (clear_of_notMem freeValue.2).countPairs_append,
        ih (Nat.succ.inj filled) freeOthers someOthers, strays_split_of_some found]

end Results

/-! ## Leaks -/

/-- The values that a text names satisfy a condition. -/
def NamedValues (data : Entries String) (text : String) (isGood : List Char → Prop) : Prop :=
  ∀ name ∈ variableNames text, ∀ value, data.get? name = some value → isGood value.toList

section Values

variable {data : Entries String} {text : String} {values : List String}

theorem named_of_hasValues
    (stand :
      List.Forall₂ (fun action value => HasValue data action.1 value)
        (split text.toList).actions values) :
    (split text.toList).Named := by
  intro action member
  rcases Attempt.exists_right_of_forall₂ stand member with ⟨value, _, name, names, _⟩
  exact ⟨name, names⟩

theorem forall_of_namedValues
    {isGood : List Char → Prop}
    (good : NamedValues data text isGood)
    (stand :
      List.Forall₂ (fun action value => HasValue data action.1 value)
        (split text.toList).actions values) :
    ∀ value ∈ values, isGood value.toList := by
  intro value member
  rcases Attempt.exists_left_of_forall₂ stand member with
    ⟨action, isAction, name, names, found⟩
  exact good name (mem_variableNames isAction names) value found

end Values

/--
A text that is rendered leaves pairs of braces in its literal pieces exactly if one of its
pairs of opening braces has no closing pair behind it; then both kinds are left, equally
often.  With values that hold no braces, opening pairs reach the result in just this case,
and so do closing pairs if no value is empty.
-/
theorem leaks_iff_dangling
    {title : String}
    {data : Entries String}
    {text rendered : String}
    (isRendered : render title data text = .ok rendered) :
    strays '\x7b' (split text.toList) = strays '\x7d' (split text.toList) ∧
      ((∃ literal ∈ (split text.toList).literals, Doubles '\x7b' literal) ↔
        Dangling text.toList) ∧
      ((∃ literal ∈ (split text.toList).literals, Doubles '\x7d' literal) ↔
        Dangling text.toList) ∧
      (NamedValues data text (fun value => '\x7b' ∉ value) →
        (Doubles '\x7b' rendered.toList ↔ Dangling text.toList)) ∧
      (NamedValues data text (fun value => '\x7d' ∉ value ∧ value ≠ []) →
        (Doubles '\x7d' rendered.toList ↔ Dangling text.toList)) := by
  rcases renderChars_eq_ok_iff_paired.mp (render_eq_ok_iff_renderChars.mp isRendered) with
    ⟨paired, values, stand, result⟩
  have equal : strays '\x7b' (split text.toList) = strays '\x7d' (split text.toList) :=
    strays_eq (balanced_iff_paired.mpr paired) (named_of_hasValues stand)
  have filled : values.length = (split text.toList).actions.length := stand.length_eq.symm
  refine ⟨equal, ?opening, ?closing, ?openingResult, ?closingResult⟩
  case opening => rw [exists_doubles_iff_strays_ne_zero, dangling_iff_strays]
  case closing => rw [exists_doubles_iff_strays_ne_zero, dangling_iff_strays, equal]
  case openingResult =>
    intro free
    rw [← not_iff_not, ← countPairs_eq_zero_iff, result,
      countPairs_interleave_opening filled (forall_of_namedValues free stand),
      dangling_iff_strays, Ne, not_not]
  case closingResult =>
    intro good
    have each := forall_of_namedValues good stand
    rw [← not_iff_not, ← countPairs_eq_zero_iff, result,
      countPairs_interleave_closing filled (fun value member => (each value member).1)
        (fun value member => (each value member).2),
      dangling_iff_strays, equal, Ne, not_not]

/-- As many opening pairs as closing ones, but the last one is never closed. -/
def swappedText : String :=
  "rate(errors[\x7b\x7b.window\x7d\x7d]) \x7d\x7d + \x7b\x7b"

theorem leaks_iff_dangling_of_swapped :
    ∃ rendered,
      render "expr" (oneValue "window" "5m") swappedText = .ok rendered ∧
        Doubles '\x7b' rendered.toList ∧ Doubles '\x7d' rendered.toList := by
  have isRendered :
      render "expr" (oneValue "window" "5m") swappedText =
        .ok "rate(errors[5m]) \x7d\x7d + \x7b\x7b" := by
    decide +kernel
  have dangling : Dangling swappedText.toList := by decide +kernel
  have named : variableNames swappedText = ["window"] := by decide +kernel
  have isValue :
      ∀ name ∈ variableNames swappedText, ∀ value,
        (oneValue "window" "5m").get? name = some value → value = "5m" := by
    intro name member value found
    rw [named, List.mem_singleton] at member
    rw [member, get?_oneValue, if_pos rfl] at found
    exact (Option.some.inj found).symm
  have leaks := leaks_iff_dangling isRendered
  refine ⟨_, isRendered, (leaks.2.2.2.1 ?_).mpr dangling, (leaks.2.2.2.2 ?_).mpr dangling⟩
  · intro name member value found
    rw [isValue name member value found]
    decide
  · intro name member value found
    rw [isValue name member value found]
    decide

end ServiceLevel.Template
