import ServiceLevel.Proofs.Entries
import ServiceLevel.Proofs.Template.Delimiters
import ServiceLevel.Proofs.Template.Variables

/-!
# Rendering by pieces

A text falls into literal pieces and the actions between them, in one way only.  Rendering
succeeds exactly if as many pairs of opening braces as of closing ones fit into the text
and each action names a variable that has a value; the result is the text with the values
in the places of the actions.  Otherwise the text is refused: for its braces, or for the
first action that stands for no value.

Rendering reads no other values than those of the names that the text lists.
-/

namespace ServiceLevel.Template

/-! ## The pieces of a text -/

/-- A text falls into the pieces of a template. -/
inductive Splits : List Char → Template → Prop where
  /-- No pair of opening braces has closing ones behind it. -/
  | literal
      {text : List Char}
      (without : ¬ PairWith '\x7b' (Doubles '\x7d') text) :
      Splits text ⟨text, []⟩
  /-- The first pair of opening braces that has closing ones behind it, up to the first of them. -/
  | action
      {text lead inner body behind : List Char}
      {next : Template}
      (opens : FirstPair '\x7b' (Doubles '\x7d') text lead inner)
      (closes : FirstPair '\x7d' (fun _ => True) inner body behind)
      (others : Splits behind next) :
      Splits text ⟨lead, (body, next.lead) :: next.actions⟩

theorem splits_split (text : List Char) : Splits text (split text) := by
  induction text using split.induct with
  | case1 text without =>
      rw [split_of_none without]
      exact .literal (opening?_eq_none_iff.mp without)
  | case2 text lead body behind found ih =>
      rw [split_of_some found]
      rcases opening?_eq_some_iff.mp found with ⟨inner, opens, closes⟩
      exact .action opens closes ih

theorem splits_iff
    {text : List Char}
    {template : Template} :
    Splits text template ↔ template = split text := by
  constructor
  · intro splits
    induction splits with
    | literal without => rw [split_of_none (opening?_eq_none_iff.mpr without)]
    | action opens closes _ ih =>
        rw [split_of_some (opening?_eq_some_iff.mpr ⟨_, opens, closes⟩), ← ih]
  · rintro rfl
    exact splits_split text

/-! ## Values of actions -/

/-- An action names a variable that has a value. -/
def HasValue (data : Entries String) (action : List Char) (value : String) : Prop :=
  ∃ name, Names action name ∧ data.get? name = some value

/-- What there is to say about an action without a value. -/
inductive Lacks (data : Entries String) (action : List Char) : Problem → Prop where
  | unsupported (nameless : ∀ name, ¬ Names action name) :
      Lacks data action (.unsupported (String.ofList action))
  | missing {name : String} (names : Names action name) (absent : name ∉ data.keys) :
      Lacks data action (.missing name)

section Values

variable {data : Entries String} {action : List Char}

theorem exists_hasValue_iff :
    (∃ value, HasValue data action value) ↔ ∃ name ∈ data.keys, Names action name := by
  constructor
  · rintro ⟨value, name, names, found⟩
    refine ⟨name, ?_, names⟩
    rw [← Entries.isSome_get?_iff, found]
    rfl
  · rintro ⟨name, listed, names⟩
    rcases Option.isSome_iff_exists.mp (Entries.isSome_get?_iff.mpr listed) with
      ⟨value, found⟩
    exact ⟨value, name, names, found⟩

theorem value_eq_ok_iff_hasValue {text : String} :
    value data action = .ok text ↔ HasValue data action text := by
  rw [value]
  cases isVariable : variableName? action with
  | none =>
      constructor
      · intro impossible
        cases impossible
      · rintro ⟨name, names, _⟩
        exact absurd names (variableName?_eq_none_iff.mp isVariable name)
  | some name =>
      have names := variableName?_eq_some_iff.mp isVariable
      simp only
      cases found : data.get? name with
      | none =>
          constructor
          · intro impossible
            cases impossible
          · rintro ⟨other, again, isValue⟩
            rw [← names.unique again, found] at isValue
            cases isValue
      | some held =>
          constructor
          · intro same
            cases same
            exact ⟨name, names, found⟩
          · rintro ⟨other, again, isValue⟩
            rw [← names.unique again, found] at isValue
            cases isValue
            rfl

theorem value_eq_error_iff {problem : Problem} :
    value data action = .error problem ↔ Lacks data action problem := by
  rw [value]
  cases isVariable : variableName? action with
  | none =>
      have nameless := variableName?_eq_none_iff.mp isVariable
      constructor
      · intro same
        cases same
        exact .unsupported nameless
      · rintro (_ | ⟨names, _⟩)
        · rfl
        · exact absurd names (nameless _)
  | some name =>
      have names := variableName?_eq_some_iff.mp isVariable
      simp only
      cases found : data.get? name with
      | none =>
          constructor
          · intro same
            cases same
            exact .missing names (Entries.get?_eq_none_iff.mp found)
          · rintro (nameless | ⟨again, _⟩)
            · exact absurd names (nameless name)
            · rw [names.unique again]
      | some held =>
          constructor
          · intro impossible
            cases impossible
          · rintro (nameless | ⟨again, absent⟩)
            · exact absurd names (nameless name)
            · rw [← names.unique again, ← Entries.get?_eq_none_iff, found] at absent
              cases absent

end Values

/-! ## Values in the places of actions -/

/-- Values, each with the literal piece behind its action. -/
def placed (values : List String) (actions : List (List Char × List Char)) : List Char :=
  (List.zipWith (fun value action => value.toList ++ action.2) values actions).flatten

/-- A template with values in the places of its actions. -/
def interleave (template : Template) (values : List String) : List Char :=
  template.lead ++ placed values template.actions

section Filling

variable {data : Entries String} {actions : List (List Char × List Char)}

/-- The values are found one after the other, and only then put in place. -/
theorem fill_eq_map_mapM :
    fill data actions =
      (actions.mapM fun action => value data action.1).map (placed · actions) := by
  induction actions with
  | nil => rfl
  | cons first rest ih =>
      rw [fill, Attempt.mapM_cons_eq, ih]
      cases value data first.1 with
      | error problem => rfl
      | ok text =>
          cases rest.mapM fun action => value data action.1 with
          | error problem => rfl
          | ok values => rfl

theorem fill_eq_ok_iff_forall₂ {filled : List Char} :
    fill data actions = .ok filled ↔
      ∃ values,
        List.Forall₂ (fun action value => HasValue data action.1 value) actions values ∧
          filled = placed values actions := by
  simp only [fill_eq_map_mapM, Attempt.map_eq_ok_iff, Attempt.mapM_eq_ok_iff,
    value_eq_ok_iff_hasValue, @eq_comm _ filled]

theorem fill_eq_error_iff {problem : Problem} :
    fill data actions = .error problem ↔
      ∃ before action after,
        actions = before ++ action :: after ∧
          (∀ earlier ∈ before, ∃ value, HasValue data earlier.1 value) ∧
          Lacks data action.1 problem := by
  simp only [fill_eq_map_mapM, Attempt.map_eq_error_iff, ← value_eq_ok_iff_hasValue,
    ← value_eq_error_iff]
  constructor
  · intro failed
    rcases Attempt.exists_of_mapM_eq_error failed with
      ⟨before, action, after, values, pieces, walked, fails⟩
    refine ⟨before, action, after, pieces, ?_, fails⟩
    intro earlier member
    rcases Attempt.exists_right_of_forall₂ (Attempt.mapM_eq_ok_iff.mp walked) member with
      ⟨value, _, isValue⟩
    exact ⟨value, isValue⟩
  · rintro ⟨before, action, after, rfl, each, fails⟩
    exact Attempt.mapM_eq_error_of_split each fails

/-- Filling reads the values of the names of the actions and no others. -/
theorem fill_congr
    {other : Entries String}
    (agree :
      ∀ action ∈ actions, ∀ name, Names action.1 name → other.get? name = data.get? name) :
    fill other actions = fill data actions := by
  induction actions with
  | nil => rfl
  | cons first rest ih =>
      rcases List.forall_mem_cons.mp agree with ⟨atFirst, behind⟩
      have sameValue : value other first.1 = value data first.1 := by
        rw [value, value]
        cases isVariable : variableName? first.1 with
        | none => rfl
        | some name =>
            simp only
            rw [atFirst name (variableName?_eq_some_iff.mp isVariable)]
      rw [fill, fill, sameValue, ih behind]

end Filling

/-! ## Rendering -/

/-- As many pairs of opening braces as of closing ones fit into a text. -/
def Paired (text : List Char) : Prop :=
  ∃ count,
    IsGreatest {openings | HoldsPairs '\x7b' openings text} count ∧
      IsGreatest {closings | HoldsPairs '\x7d' closings text} count

/-- Why a text that falls into pieces is refused. -/
inductive Refused (data : Entries String) (text : List Char) (template : Template) :
    Problem → Prop where
  | unbalanced (apart : ¬ Paired text) : Refused data text template .unbalanced
  | atAction
      {before after : List (List Char × List Char)}
      {action : List Char × List Char}
      {problem : Problem}
      (paired : Paired text)
      (pieces : template.actions = before ++ action :: after)
      (earlier : ∀ other ∈ before, ∃ value, HasValue data other.1 value)
      (lacks : Lacks data action.1 problem) :
      Refused data text template problem

theorem balanced_iff_paired {text : List Char} :
    balanced text ↔ Paired text := by
  rw [balanced, decide_eq_true_eq]
  constructor
  · intro same
    refine ⟨_, isGreatest_countPairs text, ?_⟩
    rw [same]
    exact isGreatest_countPairs text
  · rintro ⟨count, isOpenings, isClosings⟩
    rw [(isGreatest_countPairs text).unique isOpenings,
      (isGreatest_countPairs text).unique isClosings]

section Rendering

variable {data : Entries String} {text : List Char}

theorem renderChars_eq_ok_iff_paired {rendered : List Char} :
    renderChars data text = .ok rendered ↔
      Paired text ∧
        ∃ values,
          List.Forall₂ (fun action value => HasValue data action.1 value)
              (split text).actions values ∧
            rendered = (split text).interleave values := by
  rw [renderChars, ← balanced_iff_paired]
  split_ifs with isBalanced
  · rw [Attempt.map_eq_ok_iff, and_iff_right isBalanced]
    constructor
    · rintro ⟨filled, isFilled, rfl⟩
      rcases fill_eq_ok_iff_forall₂.mp isFilled with ⟨values, stand, rfl⟩
      exact ⟨values, stand, rfl⟩
    · rintro ⟨values, stand, rfl⟩
      exact ⟨_, fill_eq_ok_iff_forall₂.mpr ⟨values, stand, rfl⟩, rfl⟩
  · constructor
    · intro impossible
      cases impossible
    · rintro ⟨again, _⟩
      exact absurd again isBalanced

theorem renderChars_eq_error_iff {problem : Problem} :
    renderChars data text = .error problem ↔ Refused data text (split text) problem := by
  rw [renderChars]
  split_ifs with isBalanced
  · have paired := balanced_iff_paired.mp isBalanced
    rw [Attempt.map_eq_error_iff, fill_eq_error_iff]
    constructor
    · rintro ⟨before, action, after, pieces, earlier, lacks⟩
      exact .atAction paired pieces earlier lacks
    · rintro (apart | ⟨_, pieces, earlier, lacks⟩)
      · exact absurd paired apart
      · exact ⟨_, _, _, pieces, earlier, lacks⟩
  · have apart : ¬ Paired text := fun paired => isBalanced (balanced_iff_paired.mpr paired)
    constructor
    · intro same
      cases same
      exact .unbalanced apart
    · rintro (_ | ⟨paired, _, _, _⟩)
      · rfl
      · exact absurd paired apart

theorem exists_renderChars_eq_ok_iff :
    (∃ rendered, renderChars data text = .ok rendered) ↔
      Paired text ∧
        ∀ action ∈ (split text).actions, ∃ name ∈ data.keys, Names action.1 name := by
  simp only [renderChars_eq_ok_iff_paired, ← exists_hasValue_iff]
  constructor
  · rintro ⟨_, paired, values, stand, _⟩
    refine ⟨paired, ?_⟩
    intro action member
    rcases Attempt.exists_right_of_forall₂ stand member with ⟨value, _, hasValue⟩
    exact ⟨value, hasValue⟩
  · rintro ⟨paired, each⟩
    simp only [← value_eq_ok_iff_hasValue] at each ⊢
    rcases Attempt.exists_mapM_eq_ok each with ⟨values, walked⟩
    exact ⟨_, paired, values, Attempt.mapM_eq_ok_iff.mp walked, rfl⟩

end Rendering

/-! ## The names of a text -/

/-- The names of the actions that name a variable, in order. -/
inductive Lists : List (List Char × List Char) → List String → Prop where
  | nil : Lists [] []
  | named
      {action literal : List Char}
      {name : String}
      {rest : List (List Char × List Char)}
      {names : List String}
      (isNamed : Names action name)
      (others : Lists rest names) :
      Lists ((action, literal) :: rest) (name :: names)
  | nameless
      {action literal : List Char}
      {rest : List (List Char × List Char)}
      {names : List String}
      (isNameless : ∀ name, ¬ Names action name)
      (others : Lists rest names) :
      Lists ((action, literal) :: rest) names

theorem lists_iff
    {actions : List (List Char × List Char)}
    {names : List String} :
    Lists actions names ↔
      names = actions.filterMap fun action => variableName? action.1 := by
  constructor
  · intro lists
    induction lists with
    | nil => rfl
    | named isNamed _ ih =>
        simp only [List.filterMap_cons, variableName?_eq_some_iff.mpr isNamed, ih]
    | nameless isNameless _ ih =>
        simp only [List.filterMap_cons, variableName?_eq_none_iff.mpr isNameless, ih]
  · rintro rfl
    induction actions with
    | nil => exact .nil
    | cons first rest ih =>
        rw [List.filterMap_cons]
        cases isVariable : variableName? first.1 with
        | none => exact .nameless (variableName?_eq_none_iff.mp isVariable) ih
        | some name => exact .named (variableName?_eq_some_iff.mp isVariable) ih

theorem mem_variableNames
    {text : String}
    {action : List Char × List Char}
    (member : action ∈ (split text.toList).actions)
    {name : String}
    (names : Names action.1 name) :
    name ∈ variableNames text := by
  rw [variableNames, List.mem_filterMap]
  exact ⟨action, member, variableName?_eq_some_iff.mpr names⟩

/--
A text falls into pieces in one way only.  It can be rendered exactly if it holds as many
pairs of opening braces as of closing ones and each of its actions is a dot and a word that
the data have, with nothing but white space around; the result is the pieces with the values
in between, as they are.  Any other text fails as a template that is refused for its braces
or for its first action without a value.  The names that are listed are those of the actions
that have one, and only their values matter.
-/
theorem render_by_pieces (title : String) (data : Entries String) (text : String) :
    ∃ template,
      (∀ other, Splits text.toList other ↔ other = template) ∧
        ((∃ rendered, render title data text = .ok rendered) ↔
          Paired text.toList ∧
            ∀ action ∈ template.actions, ∃ name ∈ data.keys, Names action.1 name) ∧
        (∀ rendered,
          render title data text = .ok rendered →
            ∃ values,
              List.Forall₂ (fun action value => HasValue data action.1 value)
                  template.actions values ∧
                rendered.toList = template.interleave values) ∧
        (∀ failure,
          render title data text = .error failure →
            failure.kind = .template ∧
              ∃ problem,
                Refused data text.toList template problem ∧
                  failure.message = problem.message title) ∧
        (∀ names, Lists template.actions names ↔ names = variableNames text) ∧
        ∀ other : Entries String,
          (∀ name ∈ variableNames text, other.get? name = data.get? name) →
            render title other text = render title data text := by
  refine
    ⟨split text.toList, fun _ => splits_iff, ?success, ?result, ?failure, fun _ => lists_iff,
      ?agreement⟩
  case success =>
    rw [← exists_renderChars_eq_ok_iff]
    constructor
    · rintro ⟨rendered, isRendered⟩
      exact ⟨_, render_eq_ok_iff_renderChars.mp isRendered⟩
    · rintro ⟨rendered, isRendered⟩
      refine ⟨String.ofList rendered, render_eq_ok_iff_renderChars.mpr ?_⟩
      rw [isRendered, String.toList_ofList]
  case result =>
    intro rendered isRendered
    exact (renderChars_eq_ok_iff_paired.mp (render_eq_ok_iff_renderChars.mp isRendered)).2
  case failure =>
    intro failure failed
    rw [render] at failed
    cases outcome : renderChars data text.toList with
    | ok rendered =>
        rw [outcome] at failed
        cases failed
    | error problem =>
        rw [outcome] at failed
        cases failed
        exact ⟨rfl, problem, renderChars_eq_error_iff.mp outcome, rfl⟩
  case agreement =>
    intro other agree
    have sameFill :
        fill other (split text.toList).actions = fill data (split text.toList).actions := by
      apply fill_congr
      intro action member name names
      exact agree name (mem_variableNames member names)
    rw [render, render, renderChars, renderChars, sameFill]

example :
    render "expr" (oneValue "window" "\x7b\x7b.window\x7d\x7d")
        "rate(errors[\x7b\x7b .window \x7d\x7d])\x7b\x7b.window\x7d\x7d\x7d" =
      .ok "rate(errors[\x7b\x7b.window\x7d\x7d])\x7b\x7b.window\x7d\x7d\x7d" := by
  decide +kernel

end ServiceLevel.Template
