import ServiceLevel.Proofs.Slo.Accepted
import ServiceLevel.Proofs.Template.Reference
import ServiceLevel.Rules.ErrorRatio

/-!
# Accepted queries in every window

A query is checked once, rendered with a sample window, and used with the windows of all
alerts.  The pattern that looks for the window finds a pair of braces that is closed, so an
accepted query has an action, and every action of it stands for the window.

The text of a window is a word.  It is no white space and changes nothing in how brackets and
strings are read, wherever it lands, so every window gives a well structured query; and
windows with different texts give different queries, as all actions are replaced alike.
-/

namespace ServiceLevel

/-! ## Texts of nothing but white space -/

namespace Text

theorem trim_eq_nil_iff {text : List Char} :
    trim text = [] ↔ ∀ c ∈ text, isBlank c := by
  constructor
  · intro empty c member
    rcases exists_margins text with ⟨before, after, parts, blankBefore, blankAfter⟩
    rw [parts, empty, List.nil_append] at member
    rcases List.mem_append.mp member with inBefore | inAfter
    · exact blankBefore c inBefore
    · exact blankAfter c inAfter
  · intro blank
    have nothing : trimLeft text = [] := List.dropWhile_eq_nil_iff.mpr blank
    rw [trim, nothing]
    rfl

/-- A letter or digit is no white space. -/
theorem isBlank_of_isAlphanum
    {c : Char}
    (alphanum : c.isAlphanum) :
    isBlank c = false := by
  rw [Bool.eq_false_iff]
  intro blank
  rcases Ranges.exists_of_has blank with ⟨range, isRange, above, below⟩
  have apart :
      ∀ range ∈ blankRanges,
        ∀ code ∈ List.range' range.1 (range.2 + 1 - range.1),
          (Char.ofNat code).isAlphanum = false := by
    decide +kernel
  have notAlphanum := apart range isRange c.toNat (by rw [List.mem_range'_1]; omega)
  rw [Char.ofNat_toNat, alphanum] at notAlphanum
  cases notAlphanum

end Text

/-! ## Values in the places of the actions -/

namespace Template

section Substitution

variable {template : Template}

theorem length_flatMap_actions
    (value : List Char)
    (actions : List (List Char × List Char)) :
    (actions.flatMap fun action => value ++ action.2).length =
      actions.length * value.length + (actions.flatMap Prod.snd).length := by
  induction actions with
  | nil => simp
  | cons first rest ih =>
      rw [List.flatMap_cons, List.flatMap_cons, List.length_append, List.length_append,
        List.length_append, ih, List.length_cons, Nat.succ_mul]
      omega

/-- A template with an action gives different texts for different values. -/
theorem substitute_injective
    (someAction : template.actions ≠ []) :
    Function.Injective fun value => template.substitute value := by
  intro value other same
  have sameBehind := List.append_cancel_left same
  have sameLength : value.length = other.length := by
    have lengths := congrArg List.length sameBehind
    rw [length_flatMap_actions, length_flatMap_actions, Nat.add_right_cancel_iff] at lengths
    exact Nat.eq_of_mul_eq_mul_left (List.length_pos_of_ne_nil someAction) lengths
  cases actions : template.actions with
  | nil => exact absurd actions someAction
  | cons first rest =>
      simp only [actions, List.flatMap_cons, List.append_assoc] at sameBehind
      exact (List.append_inj sameBehind sameLength).1

/-- The value of an action stands in the result. -/
theorem mem_substitute
    {value : List Char}
    (someAction : template.actions ≠ [])
    {c : Char}
    (member : c ∈ value) :
    c ∈ template.substitute value := by
  rcases List.exists_mem_of_ne_nil _ someAction with ⟨action, isAction⟩
  apply List.mem_append_right
  exact List.mem_flatMap.mpr ⟨action, isAction, List.mem_append_left _ member⟩

end Substitution

/-- A text in which an opening pair of braces is closed has an action. -/
theorem actions_ne_nil_of_pairWith
    {text : List Char}
    (closes : PairWith '\x7b' (Doubles '\x7d') text) :
    (split text).actions ≠ [] := by
  cases found : opening? text with
  | none => exact absurd closes (opening?_eq_none_iff.mp found)
  | some action =>
      rw [split_of_some found]
      exact List.cons_ne_nil _ _

/-- A text whose actions stand for one variable names it as often as it has actions. -/
theorem ReadsOnly.variableNames_eq
    {name text : String}
    (reads : (split text.toList).ReadsOnly name) :
    variableNames text = List.replicate (split text.toList).actions.length name := by
  rw [variableNames]
  rw [ReadsOnly] at reads
  generalize (split text.toList).actions = actions at reads ⊢
  induction actions with
  | nil => rfl
  | cons first rest ih =>
      rcases List.forall_mem_cons.mp reads with ⟨atFirst, behind⟩
      simp only [List.filterMap_cons, atFirst, ih behind, List.length_cons,
        List.replicate_succ]

end Template

/-! ## Accepted queries -/

namespace Slo

/-- A query rendered for a window; `title` names it in messages. -/
def renderedFor
    (title : String)
    (window : Duration)
    (query : String) : Except Failure String := do
  let text ← window.prometheus
  Template.render title (ErrorRatio.windowData text) query

section Accepted

variable {dialect : Dialect} {query title : String}

theorem actions_ne_nil_of_checkQueryTemplate
    (accepted : checkQueryTemplate dialect query = .ok ()) :
    (Template.split query.toList).actions ≠ [] :=
  Template.actions_ne_nil_of_pairWith
    (pairWith_of_mentionsWindow (checkQueryTemplate_eq_ok_iff.mp accepted).2.1)

theorem SoundQuery.renderedFor_eq_ok_iff
    (sound : SoundQuery query)
    {window : Duration}
    {rendered : String} :
    renderedFor title window query = .ok rendered ↔
      ∃ text,
        window.prometheus = .ok text ∧
          rendered.toList = (Template.split query.toList).substitute text.toList := by
  rw [renderedFor, Attempt.bind_eq_ok_iff]
  apply exists_congr
  intro text
  apply and_congr_right
  intro _
  exact Template.render_eq_ok_iff.trans (and_iff_right sound.renders)

/-- What an accepted query renders as is no white space. -/
theorem trim_substitute_ne_nil
    {template : Template}
    (someAction : template.actions ≠ [])
    {value : List Char}
    (isWord : IsWord value) :
    Text.trim (template.substitute value) ≠ [] := by
  intro empty
  rcases List.exists_mem_of_ne_nil _ isWord.nonempty with ⟨c, member⟩
  have blank := Text.trim_eq_nil_iff.mp empty c (Template.mem_substitute someAction member)
  rw [Text.isBlank_of_isAlphanum (isWord.alphanum c member)] at blank
  cases blank

/--
A query that a dialect accepts has variables, and all of them are the window.  It renders for
every window that is not negative, not as white space, and as a query whose brackets nest and
whose strings end.  Two windows give the same query exactly if they have the same text.
-/
theorem checkQueryTemplate_every_window
    (title : String)
    (accepted : checkQueryTemplate dialect query = .ok ()) :
    Template.variableNames query ≠ [] ∧
      (∀ name ∈ Template.variableNames query, name = Naming.windowVariable) ∧
      (∀ window : Duration,
        0 ≤ window.microseconds →
          ∃ rendered,
            renderedFor title window query = .ok rendered ∧
              Text.trim rendered.toList ≠ [] ∧
              Query.checkStructure rendered = .ok ()) ∧
      ∀ (window other : Duration) (rendered otherRendered : String),
        renderedFor title window query = .ok rendered →
          renderedFor title other query = .ok otherRendered →
            (rendered = otherRendered ↔ window.prometheus = other.prometheus) := by
  have sound := soundQuery_of_checkQueryTemplate accepted
  have someAction := actions_ne_nil_of_checkQueryTemplate accepted
  have names := sound.renders.reads.variableNames_eq
  refine ⟨?someName, ?onlyWindow, ?renders, ?distinguishes⟩
  case someName =>
    rw [names, Ne, List.replicate_eq_nil_iff, List.length_eq_zero_iff]
    exact someAction
  case onlyWindow =>
    intro name member
    rw [names] at member
    exact List.eq_of_mem_replicate member
  case renders =>
    intro window notNegative
    rcases Duration.exists_prometheus notNegative with ⟨text, written⟩
    have isWord := Duration.isWord_of_prometheus written
    let rendered := (Template.split query.toList).substitute text.toList
    have chars : (String.ofList rendered).toList = rendered := String.toList_ofList
    refine
      ⟨String.ofList rendered,
        sound.renderedFor_eq_ok_iff.mpr ⟨text, written, chars⟩, ?_, ?_⟩
    · rw [chars]
      exact trim_substitute_ne_nil someAction isWord
    · rw [Query.checkStructure_eq_ok_iff, chars]
      exact sound.structured _ isWord
  case distinguishes =>
    intro window other rendered otherRendered isRendered isOther
    rcases sound.renderedFor_eq_ok_iff.mp isRendered with ⟨text, written, chars⟩
    rcases sound.renderedFor_eq_ok_iff.mp isOther with ⟨otherText, otherWritten, otherChars⟩
    rw [written, otherWritten, Except.ok.injEq, ← String.toList_inj, chars, otherChars,
      (Template.substitute_injective someAction).eq_iff, String.toList_inj]

end Accepted

/-- The window stands behind a backslash in a string, between braces, and where it is used. -/
def escapedQuery : String :=
  "rate(errors\x7bpath=\"\\\x7b\x7b.window\x7d\x7d\x7d\"\x7d[\x7b\x7b .window \x7d\x7d])"

theorem checkQueryTemplate_every_window_of_escaped :
    checkQueryTemplate .metricsql escapedQuery = .ok () ∧
      ∃ short long,
        renderedFor "query" ⟨300000000⟩ escapedQuery = .ok short ∧
          renderedFor "query" ⟨3600000000⟩ escapedQuery = .ok long ∧
          Query.checkStructure short = .ok () ∧
          Query.checkStructure long = .ok () ∧
          short ≠ long ∧
          renderedFor "query" ⟨300000999⟩ escapedQuery = .ok short := by
  have accepted : checkQueryTemplate .metricsql escapedQuery = .ok () := by
    decide +kernel
  have holds := checkQueryTemplate_every_window "query" accepted
  rcases holds.2.2.1 ⟨300000000⟩ (by decide) with ⟨short, isShort, _, shortStructured⟩
  rcases holds.2.2.1 ⟨300000999⟩ (by decide) with ⟨same, isSame, _, _⟩
  rcases holds.2.2.1 ⟨3600000000⟩ (by decide) with ⟨long, isLong, _, longStructured⟩
  have shortText : (⟨300000000⟩ : Duration).prometheus = .ok "5m" := by decide +kernel
  have sameText : (⟨300000999⟩ : Duration).prometheus = .ok "5m" := by decide +kernel
  have longText : (⟨3600000000⟩ : Duration).prometheus = .ok "1h" := by decide +kernel
  refine
    ⟨accepted, short, long, isShort, isLong, shortStructured, longStructured, ?_, ?_⟩
  · rw [Ne, holds.2.2.2 _ _ _ _ isShort isLong, shortText, longText]
    decide
  · rw [isSame, Except.ok.injEq, holds.2.2.2 _ _ _ _ isSame isShort, sameText, shortText]

end Slo

end ServiceLevel
