import Mathlib.Data.List.TakeWhile
import ServiceLevel.Proofs.Attempt
import ServiceLevel.Proofs.Template.Splitting

/-!
# Rendering with one variable

A text can be rendered with a value of one variable exactly if its delimiters are
balanced and all its actions stand for this variable; the result is the text with its
actions replaced by the value, so that a text that can be rendered with one value can be
rendered with any.

Two such texts with a character between them can be rendered as one unless a brace that
the first leaves open is closed by the second, and then the result is that of the parts.
-/

namespace ServiceLevel.Template

/-! ## Counting delimiters -/

theorem countPairs_cons_of_ne
    {mark c : Char}
    (apart : c ≠ mark)
    (text : List Char) :
    countPairs mark (c :: text) = countPairs mark text := by
  cases text with
  | nil => rfl
  | cons next rest =>
      rw [countPairs, if_neg]
      simp [apart]

theorem countPairs_append
    {mark c : Char}
    (apart : c ≠ mark)
    (left right : List Char) :
    countPairs mark (left ++ c :: right) =
      countPairs mark left + countPairs mark right := by
  induction left using countPairs.induct mark with
  | case1 first second rest isPair ih =>
      rw [List.cons_append, List.cons_append, countPairs, if_pos isPair, ih,
        countPairs, if_pos isPair, Nat.add_right_comm]
  | case2 first second rest notPair ih =>
      rw [List.cons_append, List.cons_append, countPairs, if_neg notPair,
        countPairs, if_neg notPair, ← ih, List.cons_append]
  | case3 few isShort =>
      rcases few with _ | ⟨first, _ | ⟨second, rest⟩⟩
      · rw [List.nil_append, countPairs_cons_of_ne apart]
        exact (Nat.zero_add _).symm
      · have noPair : ¬ (first = mark && c = mark) = true := by
          simp [apart]
        rw [List.cons_append, List.nil_append, countPairs, if_neg noPair,
          countPairs_cons_of_ne apart]
        exact (Nat.zero_add _).symm
      · exact absurd rfl (isShort first second rest)

theorem balanced_append
    {c : Char}
    {left right : List Char}
    (notOpening : c ≠ '\x7b')
    (notClosing : c ≠ '\x7d')
    (isLeft : balanced left)
    (isRight : balanced right) :
    balanced (left ++ c :: right) := by
  rw [balanced, decide_eq_true_eq] at isLeft isRight ⊢
  rw [countPairs_append notOpening, countPairs_append notClosing, isLeft,
    isRight]

theorem balanced_cons_iff
    {c : Char}
    {text : List Char}
    (notOpening : c ≠ '\x7b')
    (notClosing : c ≠ '\x7d') :
    balanced (c :: text) ↔ balanced text := by
  rw [balanced, balanced, countPairs_cons_of_ne notOpening,
    countPairs_cons_of_ne notClosing]

/-! ## Actions and values -/

/-- All actions of a template stand for one variable. -/
def ReadsOnly (name : String) (template : Template) : Prop :=
  ∀ action ∈ template.actions, variableName? action.1 = some name

/-- A template with each of its actions replaced by a value. -/
def substitute (value : List Char) (template : Template) : List Char :=
  template.lead ++ template.actions.flatMap fun action => value ++ action.2

/-- The values of one variable. -/
def oneValue (name value : String) : Entries String :=
  .ofList [(name, value)]

theorem get?_oneValue (name value other : String) :
    (oneValue name value).get? other =
      if other = name then some value else none := by
  show (Entries.empty.put name value).get? other = _
  rw [Entries.get?_put, Entries.get?_empty]

theorem value_eq_ok_iff
    {name value : String}
    {action : List Char}
    {text : String} :
    Template.value (oneValue name value) action = .ok text ↔
      variableName? action = some name ∧ text = value := by
  rw [Template.value]
  cases isVariable : variableName? action with
  | none => simp
  | some other =>
      simp only [get?_oneValue, Option.some.injEq]
      by_cases same : other = name
      · simp only [same, if_true, Except.ok.injEq, true_and]
        exact eq_comm
      · simp [same]

theorem fill_eq_ok_iff
    {name value : String}
    {actions : List (List Char × List Char)}
    {filled : List Char} :
    fill (oneValue name value) actions = .ok filled ↔
      (∀ action ∈ actions, variableName? action.1 = some name) ∧
        filled = actions.flatMap fun action => value.toList ++ action.2 := by
  induction actions generalizing filled with
  | nil =>
      rw [fill, Except.ok.injEq]
      constructor
      · rintro rfl
        refine ⟨?_, rfl⟩
        intro action impossible
        cases impossible
      · rintro ⟨_, rfl⟩
        rfl
  | cons first rest ih =>
      rw [fill, Attempt.bind_eq_ok_iff, List.forall_mem_cons,
        List.flatMap_cons]
      constructor
      · rintro ⟨text, isValue, continued⟩
        rcases Attempt.bind_eq_ok_iff.mp continued with ⟨others, step, same⟩
        rcases value_eq_ok_iff.mp isValue with ⟨isVariable, rfl⟩
        rcases ih.mp step with ⟨areVariables, rfl⟩
        cases same
        exact ⟨⟨isVariable, areVariables⟩, rfl⟩
      · rintro ⟨⟨isVariable, areVariables⟩, rfl⟩
        refine ⟨value, value_eq_ok_iff.mpr ⟨isVariable, rfl⟩, ?_⟩
        exact
          Attempt.bind_eq_ok_iff.mpr ⟨_, ih.mpr ⟨areVariables, rfl⟩, rfl⟩

/-- A text that can be rendered with the values of one variable. -/
structure Renders (name : String) (text : List Char) : Prop where
  balanced : balanced text
  reads : (split text).ReadsOnly name

theorem renderChars_eq_ok_iff
    {name value : String}
    {text rendered : List Char} :
    renderChars (oneValue name value) text = .ok rendered ↔
      Renders name text ∧ rendered = substitute value.toList (split text) := by
  rw [renderChars]
  by_cases isBalanced : balanced text
  · rw [if_pos isBalanced, Attempt.map_eq_ok_iff]
    constructor
    · rintro ⟨filled, step, rfl⟩
      rcases fill_eq_ok_iff.mp step with ⟨reads, rfl⟩
      exact ⟨⟨isBalanced, reads⟩, rfl⟩
    · rintro ⟨renders, rfl⟩
      exact ⟨_, fill_eq_ok_iff.mpr ⟨renders.reads, rfl⟩, rfl⟩
  · rw [if_neg isBalanced]
    constructor
    · intro impossible
      cases impossible
    · rintro ⟨renders, _⟩
      exact absurd renders.balanced isBalanced

theorem render_eq_ok_iff_renderChars
    {title text rendered : String}
    {data : Entries String} :
    render title data text = .ok rendered ↔
      renderChars data text.toList = .ok rendered.toList := by
  rw [render]
  cases renderChars data text.toList with
  | error problem => simp
  | ok chars =>
      simp only [Except.ok.injEq]
      constructor
      · rintro rfl
        exact String.toList_ofList.symm
      · intro same
        rw [same, String.ofList_toList]

/-- Rendering with one variable replaces the actions, and succeeds whatever the value. -/
theorem render_eq_ok_iff
    {title name value text rendered : String} :
    render title (oneValue name value) text = .ok rendered ↔
      Renders name text.toList ∧
        rendered.toList =
          substitute value.toList (split text.toList) := by
  rw [render_eq_ok_iff_renderChars, renderChars_eq_ok_iff]

/-! ## Joined texts -/

section Joint

variable {name : String} {value : List Char}

theorem readsOnly_attach_iff
    {next : Template}
    {lead : List Char}
    {actions : List (List Char × List Char)} :
    (attach next lead actions).ReadsOnly name ↔
      (∀ action ∈ actions, variableName? action.1 = some name) ∧
        next.ReadsOnly name := by
  induction actions generalizing lead with
  | nil => simp [attach, ReadsOnly]
  | cons first rest ih =>
      rcases first with ⟨action, literal⟩
      have others := @ih literal
      rw [ReadsOnly] at others ⊢
      rw [attach, List.forall_mem_cons, List.forall_mem_cons, others, and_assoc]

theorem substitute_attach
    (next : Template)
    (lead : List Char)
    (actions : List (List Char × List Char)) :
    substitute value (attach next lead actions) =
      substitute value ⟨lead, actions⟩ ++ substitute value next := by
  induction actions generalizing lead with
  | nil => simp [attach, substitute]
  | cons first rest ih =>
      rcases first with ⟨action, literal⟩
      have others := ih literal
      rw [substitute, substitute] at others
      rw [attach, substitute, substitute, List.flatMap_cons, List.flatMap_cons,
        List.append_assoc value, others]
      simp only [List.append_assoc]

theorem readsOnly_append_iff {first next : Template} :
    (first.append next).ReadsOnly name ↔
      first.ReadsOnly name ∧ next.ReadsOnly name :=
  readsOnly_attach_iff

theorem substitute_append (first next : Template) :
    substitute value (first.append next) =
      substitute value first ++ substitute value next :=
  substitute_attach next first.lead first.actions

variable {c : Char} {left right text : List Char}

theorem renders_cons_iff
    (notOpening : c ≠ '\x7b')
    (notClosing : c ≠ '\x7d') :
    Renders name (c :: text) ↔ Renders name text := by
  constructor
  · rintro ⟨isBalanced, reads⟩
    rw [split_cons notOpening] at reads
    exact ⟨(balanced_cons_iff notOpening notClosing).mp isBalanced, reads⟩
  · rintro ⟨isBalanced, reads⟩
    refine ⟨(balanced_cons_iff notOpening notClosing).mpr isBalanced, ?_⟩
    rw [split_cons notOpening]
    exact reads

theorem substitute_split_cons (notOpening : c ≠ '\x7b') :
    substitute value (split (c :: text)) =
      c :: substitute value (split text) := by
  rw [split_cons notOpening]
  rfl

theorem Renders.append
    (notOpening : c ≠ '\x7b')
    (notClosing : c ≠ '\x7d')
    (settled : Dangling left → ¬ Doubles '\x7d' right)
    (isLeft : Renders name left)
    (isRight : Renders name right) :
    Renders name (left ++ c :: right) where
  balanced :=
    balanced_append notOpening notClosing isLeft.balanced isRight.balanced
  reads := by
    have rightReads :=
      ((renders_cons_iff notOpening notClosing).mpr isRight).reads
    rw [split_append notOpening notClosing settled]
    exact readsOnly_append_iff.mpr ⟨isLeft.reads, rightReads⟩

theorem substitute_split_append
    (notOpening : c ≠ '\x7b')
    (notClosing : c ≠ '\x7d')
    (settled : Dangling left → ¬ Doubles '\x7d' right) :
    substitute value (split (left ++ c :: right)) =
      substitute value (split left) ++ c :: substitute value (split right) := by
  rw [split_append notOpening notClosing settled, substitute_append,
    substitute_split_cons notOpening]

theorem renders_nil : Renders name [] where
  balanced := rfl
  reads := by
    rw [split_of_none rfl]
    intro action impossible
    cases impossible

theorem substitute_split_nil : substitute value (split []) = [] := by
  rw [split_of_none rfl]
  rfl

/-- A text that is not empty renders as one that is not empty. -/
theorem substitute_split_ne_nil
    (someText : text ≠ [])
    (someValue : value ≠ []) :
    substitute value (split text) ≠ [] := by
  cases found : opening? text with
  | none =>
      rw [split_of_none found, substitute, List.flatMap_nil, List.append_nil]
      exact someText
  | some action =>
      rw [split_of_some found, substitute, List.flatMap_cons]
      intro empty
      rw [List.append_eq_nil_iff, List.append_eq_nil_iff, List.append_eq_nil_iff]
        at empty
      exact someValue empty.2.1.1

section Parentheses

variable {behind : List Char}

theorem Renders.parenthesized
    (renders : Renders name text)
    (rendersBehind : Renders name behind)
    (settled : Dangling text → ¬ Doubles '\x7d' behind) :
    Renders name ('(' :: (text ++ ')' :: behind)) :=
  (renders_cons_iff (by decide) (by decide)).mpr
    (Renders.append (by decide) (by decide) settled renders rendersBehind)

theorem substitute_split_parenthesized
    (settled : Dangling text → ¬ Doubles '\x7d' behind) :
    substitute value (split ('(' :: (text ++ ')' :: behind))) =
      '(' ::
        (substitute value (split text) ++
          ')' :: substitute value (split behind)) := by
  rw [substitute_split_cons (by decide),
    substitute_split_append (by decide) (by decide) settled]

end Parentheses

/-- A character that no action for a variable holds. -/
structure Foreign (c : Char) : Prop where
  notBlank : Text.isBlank c = false
  notPoint : c ≠ '.'
  notWord : Text.isWordChar c = false

theorem mem_trimLeft
    (notBlank : Text.isBlank c = false)
    (member : c ∈ text) :
    c ∈ Text.trimLeft text := by
  rw [← List.takeWhile_append_dropWhile (p := Text.isBlank) (l := text)] at member
  rcases List.mem_append.mp member with inMargin | inRest
  · have blank := List.mem_takeWhile_imp inMargin
    rw [notBlank] at blank
    cases blank
  · exact inRest

theorem mem_trim
    (notBlank : Text.isBlank c = false)
    (member : c ∈ text) :
    c ∈ Text.trim text := by
  rw [Text.trim, List.mem_reverse]
  apply mem_trimLeft notBlank
  rw [List.mem_reverse]
  exact mem_trimLeft notBlank member

theorem variableName?_of_foreign
    (foreign : Foreign c)
    (member : c ∈ text) :
    variableName? text = none := by
  have kept := mem_trim foreign.notBlank member
  rw [variableName?]
  split
  · rename_i word trimmed
    rw [trimmed] at kept
    have inWord : c ∈ word := by
      rcases List.mem_cons.mp kept with same | inWord
      · exact absurd same foreign.notPoint
      · exact inWord
    have notAll : word.all Text.isWordChar = false := by
      rw [List.all_eq_false]
      refine ⟨c, inWord, ?_⟩
      rw [foreign.notWord]
      exact Bool.false_ne_true
    rw [notAll, Bool.and_false, if_neg Bool.false_ne_true]
  · rfl

/-- A brace that is closed in the other part makes an action that stands for nothing. -/
theorem not_renders_of_dangling
    (foreign : Foreign c)
    (notOpening : c ≠ '\x7b')
    (notClosing : c ≠ '\x7d')
    (dangling : Dangling left)
    (closes : Doubles '\x7d' right) :
    ¬ Renders name (left ++ c :: right) := by
  intro renders
  rcases exists_mem_actions_split_append notOpening notClosing dangling closes
    with ⟨action, member, inAction⟩
  have isVariable := renders.reads action member
  rw [variableName?_of_foreign foreign inAction] at isVariable
  cases isVariable

end Joint

end ServiceLevel.Template
