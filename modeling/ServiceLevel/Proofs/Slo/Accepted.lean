import ServiceLevel.Proofs.Labels.FilterReader
import ServiceLevel.Proofs.Quantity
import ServiceLevel.Proofs.Query.Scanning
import ServiceLevel.Slo.Validation

/-!
# Accepted objectives

What the checks of a definition leave to rely on.  An accepted objective can be written
as a number, its labels are texts under names of its dialect, each enabled class of alerts
has a name, and its indicator is one query or a pair of queries.

A query is rendered once when it is checked, with a sample window.  As a window has no
part in the structure of a query, it renders and is well structured with any other.
-/

namespace ServiceLevel

namespace Slo

theorem about_eq_ok_iff
    {subject : String}
    {check : Except Failure Unit} :
    about subject check = .ok () ↔ check = .ok () := by
  cases check with
  | error failure => simp [about]
  | ok done => simp [about]

/-- A definition that passes all checks of a dialect. -/
structure Accepted (dialect : Dialect) (slo : Slo) : Prop where
  id : checkName slo.id = .ok ()
  name : checkName slo.name = .ok ()
  service : checkName slo.service = .ok ()
  period : checkPeriod slo.period = .ok ()
  objective : checkObjective slo.objective = .ok ()
  labels : checkLabels dialect slo.labels.pairs = .ok ()
  indicator : checkIndicator dialect slo.indicator = .ok ()
  pageAlert : checkAlert dialect slo.pageAlert = .ok ()
  ticketAlert : checkAlert dialect slo.ticketAlert = .ok ()
  chain : checkChain slo.chain = .ok ()

theorem validate_eq_ok_iff
    {dialect : Dialect}
    {slo : Slo} :
    slo.validate dialect = .ok () ↔ slo.Accepted dialect := by
  unfold validate
  simp only [Attempt.check_eq_ok_iff, about_eq_ok_iff]
  constructor
  · rintro
      ⟨id, name, service, period, objective, labels, indicator, pageAlert,
        ticketAlert, chain⟩
    exact
      ⟨id, name, service, period, objective, labels, indicator, pageAlert,
        ticketAlert, chain⟩
  · intro accepted
    exact
      ⟨accepted.id, accepted.name, accepted.service, accepted.period,
        accepted.objective, accepted.labels, accepted.indicator,
        accepted.pageAlert, accepted.ticketAlert, accepted.chain⟩

/-! ## Numbers and names -/

theorem Accepted.positive
    {dialect : Dialect}
    {slo : Slo}
    (accepted : slo.Accepted dialect) :
    0 < slo.period.microseconds := by
  have checked := accepted.period
  rw [checkPeriod] at checked
  split at checked
  · assumption
  · cases checked

/-- An integer that is accepted as an objective is one of 1 to 100. -/
theorem Accepted.inRange
    {dialect : Dialect}
    {slo : Slo}
    (accepted : slo.Accepted dialect) :
    slo.objective.InRange := by
  have checked := accepted.objective
  cases isObjective : slo.objective with
  | float value => trivial
  | whole value =>
      rw [isObjective] at checked
      simp only [checkObjective, Quantity.compareInt?, Option.some.injEq] at checked
      split at checked
      · cases checked
      · rename_i within
        simp only [Bool.or_eq_true, decide_eq_true_eq, Int.compare_eq_lt,
          Int.compare_eq_eq, Int.compare_eq_gt, not_or] at within
        have notZero : value.natAbs ≠ 0 := by
          omega
        have small : value.natAbs < 2 ^ 7 := by
          omega
        exact Nat.lt_trans ((Nat.log2_lt notZero).mpr small) (by decide)

theorem isEmpty_name_of_checkAlert
    {dialect : Dialect}
    {alert : AlertSettings}
    (checked : checkAlert dialect alert = .ok ())
    (enabled : alert.disabled = false) :
    alert.name.isEmpty = false := by
  rw [checkAlert, enabled, if_neg Bool.false_ne_true] at checked
  split at checked
  · cases checked
  · rename_i named
    exact Bool.eq_false_iff.mpr named

/-! ## Labels -/

theorem checkLabels_eq_ok_iff
    {dialect : Dialect}
    {pairs : List (String × Json)} :
    checkLabels dialect pairs = .ok () ↔
      ∀ pair ∈ pairs,
        dialect.checkLabelKey (.text pair.1) = .ok () ∧
          Dialect.checkLabelValue pair.2 = .ok () := by
  induction pairs with
  | nil => simp [checkLabels]
  | cons first rest ih =>
      rw [checkLabels, Attempt.check_eq_ok_iff, Attempt.check_eq_ok_iff, ih,
        List.forall_mem_cons, and_assoc]

theorem checkAnnotations_eq_ok_iff
    {dialect : Dialect}
    {pairs : List (String × Json)} :
    checkAnnotations dialect pairs = .ok () ↔
      ∀ pair ∈ pairs,
        dialect.checkAnnotationKey (.text pair.1) = .ok () ∧
          Dialect.checkAnnotationValue pair.2 = .ok () := by
  induction pairs with
  | nil => simp [checkAnnotations]
  | cons first rest ih =>
      rw [checkAnnotations, Attempt.check_eq_ok_iff, Attempt.check_eq_ok_iff, ih,
        List.forall_mem_cons, and_assoc]

theorem exists_text_of_checkLabelValue
    {value : Json}
    (checked : Dialect.checkLabelValue value = .ok ()) :
    ∃ text, value = .text text := by
  cases value with
  | text text => exact ⟨text, rfl⟩
  | null => cases checked
  | bool value => cases checked
  | number value => cases checked
  | array items => cases checked
  | object fields => cases checked

/-- The values of accepted labels are texts. -/
theorem Accepted.hasTexts
    {dialect : Dialect}
    {slo : Slo}
    (accepted : slo.Accepted dialect) :
    slo.labels.HasTexts := by
  intro pair member
  have checked := checkLabels_eq_ok_iff.mp accepted.labels pair member
  exact exists_text_of_checkLabelValue checked.2

theorem mem_dropLineEnd
    {c : Char}
    {text : List Char}
    (member : c ∈ text) :
    c = '\n' ∨ c ∈ Duration.dropLineEnd text := by
  rw [Duration.dropLineEnd]
  split
  · rename_i rest isReversed
    have inReversed : c ∈ text.reverse := List.mem_reverse.mpr member
    rw [isReversed] at inReversed
    rcases List.mem_cons.mp inReversed with isLineEnd | inRest
    · exact Or.inl isLineEnd
    · exact Or.inr (List.mem_reverse.mpr inRest)
  · exact Or.inr member

/-- A character of the name of a label is passed over when queries are scanned. -/
theorem isPlain_of_isLabelName
    {name : String}
    (isName : Dialect.isLabelName name)
    {c : Char}
    (member : c ∈ name.toList) :
    Query.isPlain c := by
  have ofNames : Query.isPlain '\n' ∧ Query.isPlain '_' := by decide
  rcases mem_dropLineEnd member with rfl | inName
  · exact ofNames.1
  · rw [Dialect.isLabelName] at isName
    split at isName
    · cases isName
    · rename_i first rest isSplit
      rw [isSplit] at inName
      rcases Bool.and_eq_true_iff.mp isName with ⟨begins, goesOn⟩
      rcases List.mem_cons.mp inName with rfl | inRest
      · rcases Bool.or_eq_true_iff.mp begins with isLetter | isLine
        · apply Query.isPlain_of_isAlphanum
          rw [Char.isAlphanum, isLetter, Bool.true_or]
        · rw [of_decide_eq_true isLine]
          exact ofNames.2
      · rcases Bool.or_eq_true_iff.mp (List.all_eq_true.mp goesOn c inRest) with
          isAlphanum | isLine
        · exact Query.isPlain_of_isAlphanum isAlphanum
        · rw [of_decide_eq_true isLine]
          exact ofNames.2

/-- Prometheus accepts no label whose name could open a string or a bracket. -/
theorem Accepted.hasClosedNames
    {accepts : String → Bool}
    {slo : Slo}
    (accepted : slo.Accepted (.promql accepts)) :
    Query.HasClosedNames slo.labels := by
  intro name isKey
  rcases List.mem_map.mp isKey with ⟨pair, isPair, rfl⟩
  have checked := (checkLabels_eq_ok_iff.mp accepted.labels pair isPair).1
  rw [Dialect.checkLabelKey] at checked
  split at checked
  · cases checked
  · split at checked
    · rename_i isSpelling
      apply Query.closed_of_plain
      intro c member
      exact isPlain_of_isLabelName isSpelling member
    · cases checked

/-! ## Queries -/

/--
A query that renders with any window, holds the end of an action, and is well structured
for every window.
-/
structure SoundQuery (query : String) : Prop where
  renders : Template.Renders Naming.windowVariable query.toList
  closes : Template.Doubles '\x7d' query.toList
  structured :
    ∀ window,
      IsWord window →
        Query.Closed (Template.substitute window (Template.split query.toList))

theorem doubles_of_opensWindow
    {text : List Char}
    (opens : opensWindow text) :
    Template.Doubles '\x7d' text := by
  rw [opensWindow] at opens
  have ⟨_, closing⟩ := Bool.and_eq_true_iff.mp opens
  have ends := (List.isPrefixOf_iff_prefix.mp closing).isInfix
  have behindName := List.dropWhile_suffix (fun c => decide (c = ' '))
    (l := (text.dropWhile fun c => decide (c = ' ')).drop
      ('.' :: Naming.windowVariable.toList).length)
  have inner := List.drop_suffix ('.' :: Naming.windowVariable.toList).length
    (text.dropWhile fun c => decide (c = ' '))
  have behindBlanks := List.dropWhile_suffix (fun c => decide (c = ' ')) (l := text)
  exact ends.trans ((behindName.trans inner).trans behindBlanks).isInfix

/-- Where the pattern finds the window, an opening pair of braces is closed. -/
theorem pairWith_of_mentionsWindow
    {text : List Char}
    (mentions : mentionsWindow text) :
    Template.PairWith '\x7b' (Template.Doubles '\x7d') text := by
  induction text using mentionsWindow.induct with
  | case1 rest ih =>
      unfold mentionsWindow at mentions
      rcases Bool.or_eq_true_iff.mp mentions with isHere | isBehind
      · split at isHere
        · exact ⟨[], _, rfl, doubles_of_opensWindow isHere⟩
        · cases isHere
      · exact (ih isBehind).append_left ['\x7b']
  | case2 c rest other ih =>
      rw [mentionsWindow.eq_3 c rest other] at mentions
      exact (ih mentions).append_left [c]
  | case3 => cases mentions

theorem doubles_of_mentionsWindow
    {text : List Char}
    (mentions : mentionsWindow text) :
    Template.Doubles '\x7d' text :=
  (pairWith_of_mentionsWindow mentions).doubles_behind

theorem isWord_sampleWindow : IsWord "1m".toList where
  nonempty := by decide
  alphanum := List.all_eq_true.mp (by decide : "1m".toList.all Char.isAlphanum)

/-- What the check of a query asks for, in the order in which it is asked. -/
theorem checkQuery_eq_ok_iff
    {dialect : Dialect}
    {query : String} :
    dialect.checkQuery query = .ok () ↔
      ∃ expression,
        Template.render "query" Dialect.sampleWindow query = .ok expression ∧
          (Text.trim expression.toList).isEmpty = false ∧
          Query.checkStructure expression = .ok () ∧
          dialect.checkLanguage expression = .ok () := by
  rw [Dialect.checkQuery]
  cases Template.render "query" Dialect.sampleWindow query with
  | error failure =>
      constructor
      · intro impossible
        cases impossible
      · rintro ⟨_, impossible, _⟩
        cases impossible
  | ok expression =>
      rw [Attempt.bind_eq_ok_iff]
      simp only [Except.ok.injEq, exists_eq_left']
      cases (Text.trim expression.toList).isEmpty with
      | true => simp
      | false => simp [Attempt.check_eq_ok_iff]

theorem checkQueryTemplate_eq_ok_iff
    {dialect : Dialect}
    {query : String} :
    checkQueryTemplate dialect query = .ok () ↔
      query.isEmpty = false ∧
        mentionsWindow query.toList ∧
        dialect.checkQuery query = .ok () := by
  rw [checkQueryTemplate]
  split_ifs with isEmpty mentions
  · simp [isEmpty]
  · simp [isEmpty, mentions]
  · simp [mentions]

theorem soundQuery_of_checkQueryTemplate
    {dialect : Dialect}
    {query : String}
    (checked : checkQueryTemplate dialect query = .ok ()) :
    SoundQuery query := by
  rcases checkQueryTemplate_eq_ok_iff.mp checked with ⟨_, mentions, isQuery⟩
  rcases checkQuery_eq_ok_iff.mp isQuery with
    ⟨rendered, isSample, _, isStructured, _⟩
  rcases Template.render_eq_ok_iff.mp isSample with ⟨renders, same⟩
  have structured := Query.checkStructure_eq_ok_iff.mp isStructured
  rw [same] at structured
  refine ⟨renders, doubles_of_mentionsWindow mentions, ?_⟩
  intro window isWord
  exact Query.closed_substitute_of_word isWord_sampleWindow isWord structured

/-- An indicator of exactly one form, with sound queries. -/
inductive SoundIndicator : Indicator → Prop
  | raw
      {query : String}
      (sound : SoundQuery query) :
      SoundIndicator ⟨some query, none⟩
  | events
      {events : EventQueries}
      (error : SoundQuery events.error)
      (total : SoundQuery events.total) :
      SoundIndicator ⟨none, some events⟩

theorem Accepted.soundIndicator
    {dialect : Dialect}
    {slo : Slo}
    (accepted : slo.Accepted dialect) :
    SoundIndicator slo.indicator := by
  have checked := accepted.indicator
  rcases isIndicator : slo.indicator with ⟨raw, events⟩
  rw [isIndicator] at checked
  cases raw with
  | some query =>
      cases events with
      | some events => cases checked
      | none =>
          exact .raw (soundQuery_of_checkQueryTemplate (about_eq_ok_iff.mp checked))
  | none =>
      cases events with
      | none => cases checked
      | some events =>
          simp only [checkIndicator] at checked
          split at checked
          · cases checked
          · rcases Attempt.check_eq_ok_iff.mp checked with ⟨isError, isTotal⟩
            exact
              .events (soundQuery_of_checkQueryTemplate (about_eq_ok_iff.mp isError))
                (soundQuery_of_checkQueryTemplate (about_eq_ok_iff.mp isTotal))

end Slo

end ServiceLevel
