import ServiceLevel.Proofs.Slo.Accepted

/-!
# The dialects compared

Every check of the MetricsQL dialect passes what the same check of the Prometheus dialect
passes, whichever expressions the query language of the latter accepts.  So a definition
that was made for Prometheus is not refused when its backend is changed.

What Prometheus asks for beyond is stated exactly: its own names for labels and
annotations, and queries that its language accepts once they are rendered with the sample
window.
-/

namespace ServiceLevel

/-! ## Single checks -/

namespace Dialect

/-- What one dialect passes in a single check, the other one passes too. -/
structure Extends (wide narrow : Dialect) : Prop where
  labelKey :
    ∀ key, narrow.checkLabelKey key = .ok () → wide.checkLabelKey key = .ok ()
  annotationKey :
    ∀ key,
      narrow.checkAnnotationKey key = .ok () → wide.checkAnnotationKey key = .ok ()
  query :
    ∀ query,
      narrow.checkSpelledQuery query = .ok () → wide.checkSpelledQuery query = .ok ()

/-- A query language answers a query if it accepts what the query is rendered to. -/
def Answers (accepts : String → Bool) (query : String) : Prop :=
  ∀ expression,
    Template.render "query" sampleWindow query = .ok expression → accepts expression

variable {accepts : String → Bool}

theorem isSomeText_of_isLabelSpelling
    {key : Spelling}
    (isName : isLabelSpelling key) :
    isSomeText key := by
  cases key with
  | illFormed codes => cases isName
  | text name =>
      rw [isSomeText, Bool.not_eq_true', Bool.eq_false_iff]
      intro isEmpty
      rw [String.isEmpty_iff.mp isEmpty] at isName
      cases isName

theorem checkLabelKey_promql_iff {key : Spelling} :
    (promql accepts).checkLabelKey key = .ok () ↔
      metricsql.checkLabelKey key = .ok () ∧ isLabelSpelling key := by
  rw [checkLabelKey, checkLabelKey]
  by_cases isReserved : key = .text Promql.nameLabel
  · simp [isReserved]
  · by_cases isName : isLabelSpelling key
    · simp [isReserved, isName, isSomeText_of_isLabelSpelling isName]
    · simp [isReserved, isName]

theorem checkAnnotationKey_promql_iff {key : Spelling} :
    (promql accepts).checkAnnotationKey key = .ok () ↔
      metricsql.checkAnnotationKey key = .ok () ∧ isLabelSpelling key := by
  rw [checkAnnotationKey, checkAnnotationKey]
  by_cases isName : isLabelSpelling key
  · simp [isName, isSomeText_of_isLabelSpelling isName]
  · simp [isName]

theorem checkLanguage_promql_iff {expression : String} :
    (promql accepts).checkLanguage expression = .ok () ↔ accepts expression := by
  rw [checkLanguage]
  by_cases isAccepted : accepts expression
  · simp [isAccepted]
  · simp [isAccepted]

theorem checkQuery_promql_iff {query : String} :
    (promql accepts).checkQuery query = .ok () ↔
      metricsql.checkQuery query = .ok () ∧ Answers accepts query := by
  rw [Slo.checkQuery_eq_ok_iff, Slo.checkQuery_eq_ok_iff]
  constructor
  · rintro ⟨expression, rendered, notBlank, structured, isAccepted⟩
    refine ⟨⟨expression, rendered, notBlank, structured, rfl⟩, ?_⟩
    intro other renderedToo
    cases rendered.symm.trans renderedToo
    exact checkLanguage_promql_iff.mp isAccepted
  · rintro ⟨⟨expression, rendered, notBlank, structured, _⟩, answers⟩
    exact
      ⟨expression, rendered, notBlank, structured,
        checkLanguage_promql_iff.mpr (answers expression rendered)⟩

/-- A spelling that is no text is a query of no language, so that it is never accepted. -/
theorem checkSpelledQuery_metricsql_of_promql
    {query : Spelling}
    (checked : (promql accepts).checkSpelledQuery query = .ok ()) :
    metricsql.checkSpelledQuery query = .ok () := by
  cases query with
  | text text => exact (checkQuery_promql_iff.mp checked).1
  | illFormed codes => exact (checkQuery_promql_iff.mp checked).1

end Dialect

/-! ## Parts of definitions -/

/-- The names under which a class of alerts is labelled and annotated, if it is enabled. -/
def AlertSettings.names (alert : AlertSettings) : List String :=
  if alert.disabled then [] else alert.labels.keys ++ alert.annotations.keys

/-- The names that the dialects have rules about. -/
def Slo.names (slo : Slo) : List String :=
  slo.labels.keys ++ slo.pageAlert.names ++ slo.ticketAlert.names

/-- The queries of an indicator. -/
def Indicator.queries (indicator : Indicator) : List String :=
  indicator.raw.toList ++
    indicator.events.toList.flatMap fun events => [events.error, events.total]

namespace Slo

open Dialect

variable {accepts : String → Bool}

theorem checkLabels_promql_iff {labels : Labels} :
    checkLabels (.promql accepts) labels.pairs = .ok () ↔
      checkLabels .metricsql labels.pairs = .ok () ∧
        ∀ name ∈ labels.keys, isLabelName name := by
  rw [checkLabels_eq_ok_iff, checkLabels_eq_ok_iff, Entries.keys, List.forall_mem_map,
    ← forall₂_and]
  apply forall₂_congr
  intro pair _
  rw [checkLabelKey_promql_iff, and_right_comm]
  rfl

theorem checkAnnotations_promql_iff {annotations : Labels} :
    checkAnnotations (.promql accepts) annotations.pairs = .ok () ↔
      checkAnnotations .metricsql annotations.pairs = .ok () ∧
        ∀ name ∈ annotations.keys, isLabelName name := by
  rw [checkAnnotations_eq_ok_iff, checkAnnotations_eq_ok_iff, Entries.keys,
    List.forall_mem_map, ← forall₂_and]
  apply forall₂_congr
  intro pair _
  rw [checkAnnotationKey_promql_iff, and_right_comm]
  rfl

theorem checkAlert_promql_iff {alert : AlertSettings} :
    checkAlert (.promql accepts) alert = .ok () ↔
      checkAlert .metricsql alert = .ok () ∧
        ∀ name ∈ alert.names, isLabelName name := by
  rw [checkAlert, checkAlert, AlertSettings.names]
  split_ifs with isDisabled isUnnamed
  · simp
  · simp
  · rw [Attempt.check_eq_ok_iff, Attempt.check_eq_ok_iff, checkLabels_promql_iff,
      checkAnnotations_promql_iff, List.forall_mem_append, and_and_and_comm]

theorem checkQueryTemplate_promql_iff {query : String} :
    checkQueryTemplate (.promql accepts) query = .ok () ↔
      checkQueryTemplate .metricsql query = .ok () ∧ Answers accepts query := by
  rw [checkQueryTemplate_eq_ok_iff, checkQueryTemplate_eq_ok_iff,
    checkQuery_promql_iff, and_assoc, and_assoc]

theorem checkIndicator_promql_iff {indicator : Indicator} :
    checkIndicator (.promql accepts) indicator = .ok () ↔
      checkIndicator .metricsql indicator = .ok () ∧
        ∀ query ∈ indicator.queries, Answers accepts query := by
  rcases indicator with ⟨raw, events⟩
  cases raw with
  | none =>
      cases events with
      | none => simp [checkIndicator]
      | some events =>
          rw [checkIndicator, checkIndicator]
          by_cases same : events.error = events.total
          · simp [same]
          · simp only [if_neg same, Attempt.check_eq_ok_iff, about_eq_ok_iff,
              checkQueryTemplate_promql_iff, Indicator.queries]
            simp [and_and_and_comm]
  | some query =>
      cases events with
      | none =>
          rw [checkIndicator, checkIndicator, about_eq_ok_iff, about_eq_ok_iff,
            checkQueryTemplate_promql_iff]
          simp [Indicator.queries]
      | some events => simp [checkIndicator]

end Slo

/-! ## Whole definitions -/

/--
The MetricsQL dialect extends the Prometheus dialect, whichever expressions the query
language of the latter accepts: single checks pass whatever spelling passed before, and a
definition is accepted for Prometheus exactly if it is accepted for VictoriaMetrics, has
only names of Prometheus, and has queries that the language answers.
-/
theorem Dialect.metricsql_extends_promql (accepts : String → Bool) :
    Dialect.metricsql.Extends (.promql accepts) ∧
      ∀ slo : Slo,
        slo.validate (.promql accepts) = .ok () ↔
          slo.validate .metricsql = .ok () ∧
            (∀ name ∈ slo.names, Dialect.isLabelName name) ∧
              ∀ query ∈ slo.indicator.queries, Dialect.Answers accepts query := by
  constructor
  · exact
      { labelKey := fun key checked => (checkLabelKey_promql_iff.mp checked).1
        annotationKey := fun key checked =>
          (checkAnnotationKey_promql_iff.mp checked).1
        query := fun query checked => checkSpelledQuery_metricsql_of_promql checked }
  · intro slo
    rw [Slo.validate_eq_ok_iff, Slo.validate_eq_ok_iff, Slo.names,
      List.forall_mem_append, List.forall_mem_append]
    constructor
    · intro accepted
      have ⟨labels, ofLabels⟩ := Slo.checkLabels_promql_iff.mp accepted.labels
      have ⟨indicator, answers⟩ :=
        Slo.checkIndicator_promql_iff.mp accepted.indicator
      have ⟨pageAlert, ofPage⟩ := Slo.checkAlert_promql_iff.mp accepted.pageAlert
      have ⟨ticketAlert, ofTicket⟩ :=
        Slo.checkAlert_promql_iff.mp accepted.ticketAlert
      exact
        ⟨{ accepted with labels, indicator, pageAlert, ticketAlert },
          ⟨⟨ofLabels, ofPage⟩, ofTicket⟩, answers⟩
    · rintro ⟨accepted, ⟨⟨ofLabels, ofPage⟩, ofTicket⟩, answers⟩
      exact
        { accepted with
          labels := Slo.checkLabels_promql_iff.mpr ⟨accepted.labels, ofLabels⟩
          indicator :=
            Slo.checkIndicator_promql_iff.mpr ⟨accepted.indicator, answers⟩
          pageAlert := Slo.checkAlert_promql_iff.mpr ⟨accepted.pageAlert, ofPage⟩
          ticketAlert :=
            Slo.checkAlert_promql_iff.mpr ⟨accepted.ticketAlert, ofTicket⟩ }

end ServiceLevel
