import ServiceLevel.Proofs.Rules.Structure

/-!
# Names of labels in generated expressions

The values of labels are quoted where they are written, their names are not.  For an
objective that Prometheus accepts this makes no difference; VictoriaMetrics accepts any
name that is not empty.  Such names reach the metadata rules only: error ratios and alerts
select by the identifying labels.  So whether a run that begins with the validation for
VictoriaMetrics makes well structured rules is decided by the labels of the objective
alone, written as a filter and as a grouping in front of this filter.
-/

namespace ServiceLevel

open Query

/-! ## Names that break out -/

/-- A name that, behind the brace of a filter, closes a bracket that it did not open. -/
def Labels.BreaksOut (name : String) : Prop :=
  advance (.outside, ['\x7b']) name.toList = none

instance (name : String) : Decidable (Labels.BreaksOut name) :=
  inferInstanceAs (Decidable (_ = _))

theorem Query.advance_intercalate_eq_none
    {stack : List Char}
    {texts : List String}
    (each :
      ∀ text ∈ texts,
        Closed text.toList ∨ advance (.outside, stack) text.toList = none)
    (fails : ∃ text ∈ texts, advance (.outside, stack) text.toList = none) :
    advance (.outside, stack) (", ".intercalate texts).toList = none := by
  have comma : Closed ", ".toList := by decide
  induction texts with
  | nil =>
      rcases fails with ⟨_, impossible, _⟩
      cases impossible
  | cons first rest ih =>
      cases rest with
      | nil =>
          rcases fails with ⟨text, member, failing⟩
          rw [List.mem_singleton.mp member] at failing
          rw [String.intercalate_singleton]
          exact failing
      | cons second others =>
          rw [String.intercalate_cons_cons, String.toList_append,
            String.toList_append, List.append_assoc, advance_append]
          rcases each first List.mem_cons_self with isClosed | failing
          · rw [isClosed.within stack, Option.bind_some, advance_append,
              comma.within stack]
            apply ih fun text member => each text (List.mem_cons_of_mem first member)
            rcases fails with ⟨text, member, failing⟩
            rcases List.mem_cons.mp member with rfl | inRest
            · rw [isClosed.within stack] at failing
              cases failing
            · exact ⟨text, inRest, failing⟩
          · rw [failing]
            rfl

theorem Labels.BreaksOut.advance_writtenPair
    {pair : String × String}
    (breaks : BreaksOut pair.1) :
    advance (.outside, ['\x7b']) (writtenPair pair).toList = none := by
  rw [writtenPair, pairText, String.toList_append, String.toList_append,
    List.append_assoc, advance_append, breaks]
  rfl

/-- One name that breaks out spoils a filter, wherever it is sorted to. -/
theorem Labels.not_wellStructured_of_breaksOut
    {labels : Labels}
    (each : ∀ name ∈ labels.keys, Closed name.toList ∨ BreaksOut name)
    (breaks : ∃ name ∈ labels.keys, BreaksOut name) :
    ¬ labels.WellStructured := by
  rintro ⟨filter, filtered, isFilter, _⟩
  rcases exists_pairs_of_filterText filtered with ⟨pairs, isTexts, rfl⟩
  rw [Entries.keys, isTexts, map_fst_asTexts] at each breaks
  rw [List.forall_mem_map] at each
  simp only [List.mem_map, exists_exists_and_eq_and] at breaks
  have failing :
      advance (.outside, ['\x7b'])
          (", ".intercalate (sortTexts (pairs.map writtenPair))).toList =
        none := by
    apply Query.advance_intercalate_eq_none
    · intro text member
      rcases List.mem_map.mp (List.mem_mergeSort.mp member) with ⟨pair, isPair, rfl⟩
      exact
        (each pair isPair).imp (closed_pairText · pair.2) BreaksOut.advance_writtenPair
    · rcases breaks with ⟨pair, isPair, isOut⟩
      have isWritten : writtenPair pair ∈ pairs.map writtenPair :=
        List.mem_map.mpr ⟨pair, isPair, rfl⟩
      exact
        ⟨writtenPair pair, List.mem_mergeSort.mpr isWritten, isOut.advance_writtenPair⟩
  have opens : Leads [] ['\x7b'] "\x7b".toList := by decide
  rw [checkStructure_eq_ok_iff, String.toList_append, String.toList_append,
    List.append_assoc, Closed, Leads, advance_append, opens, Option.bind_some,
    advance_append, failing] at isFilter
  cases isFilter

/-! ## Runs behind the validation -/

/-- Steps that generate leave what each of them does. -/
theorem Passes.progress_extends
    {origin : Origin}
    {alerts : BurnAlerts}
    {steps : List NamedProcessor}
    {start stop : Progress}
    (sound : Slo.SoundIndicator start.slo.indicator)
    (generates : ∀ step ∈ steps, step.processor.Generates)
    (passes : Passes origin alerts steps start stop) :
    Progress.Extends origin alerts (∃ step ∈ steps, step.processor = .metadata)
      start stop := by
  induction passes with
  | nil progress =>
      simp only [List.not_mem_nil, false_and, exists_false]
      exact .refl progress
  | @cons step rest start next stop passed others ih =>
      have first :=
        (generates step List.mem_cons_self).progress_extends sound passed
      rw [← first.slo] at sound
      have behind :=
        ih sound fun other member => generates other (List.mem_cons_of_mem step member)
      simp only [List.mem_cons, exists_eq_or_imp]
      exact first.trans behind

/-- A validation in front of other steps accepts the objective and changes nothing. -/
theorem Passes.validateMetricsql_cons_iff
    {origin : Origin}
    {alerts : BurnAlerts}
    {id : String}
    {steps : List NamedProcessor}
    {start stop : Progress} :
    Passes origin alerts (⟨id, .validateMetricsql⟩ :: steps) start stop ↔
      start.slo.Accepted .metricsql ∧ Passes origin alerts steps start stop := by
  constructor
  · intro passes
    cases passes with
    | cons passed others =>
        rw [Processor.run, Processor.checking_eq_iff, Slo.validate_eq_ok_iff] at passed
        rcases passed with ⟨accepted, rfl⟩
        exact ⟨accepted, others⟩
  · rintro ⟨accepted, others⟩
    refine .cons ?_ others
    rw [Processor.run, Processor.checking_eq_iff, Slo.validate_eq_ok_iff]
    exact ⟨accepted, rfl⟩

/--
Behind the validation for VictoriaMetrics the error ratios and the alerts of an objective
are well structured, whatever the names of its labels are.  All rules are so exactly if
its labels are, unless no step makes metadata; well structured names suffice.
-/
theorem Passes.wellStructured_iff_labels
    {origin : Origin}
    {alerts : BurnAlerts}
    {id : String}
    {steps : List NamedProcessor}
    {start stop : Progress}
    (generates : ∀ step ∈ steps, step.processor.Generates)
    (passes : Passes origin alerts (⟨id, .validateMetricsql⟩ :: steps) start stop)
    (structured : start.rules.WellStructured) :
    stop.rules.errorRatio.WellStructured ∧
      stop.rules.alerts.WellStructured ∧
      (stop.rules.WellStructured ↔
        ((∃ step ∈ steps, step.processor = .metadata) →
          (Metadata.labels start.slo).WellStructured)) ∧
      ((∀ name ∈ start.slo.labels.keys, Query.checkStructure name = .ok ()) →
        stop.rules.WellStructured) := by
  rcases Passes.validateMetricsql_cons_iff.mp passes with ⟨accepted, others⟩
  have extension := others.progress_extends accepted.soundIndicator generates
  have ⟨isRatios, _, isAlerts, _⟩ := RuleSet.wellStructured_iff.mp structured
  refine
    ⟨extension.errorRatios isRatios, extension.alertRules isAlerts,
      extension.wellStructured_iff structured, ?_⟩
  intro checked
  apply (extension.wellStructured_iff structured).mpr
  intro made
  apply Metadata.wellStructured_labels (extension.metadata made)
  intro name isKey
  exact checkStructure_eq_ok_iff.mp (checked name isKey)

theorem Passes.wellStructured_iff_labels_of_bracket :
    ∃ (start stop : Progress) (steps : List NamedProcessor),
      start.slo.labels = Labels.ofTexts [("zone)", "x")] ∧
        Passes {} Alerting.sameAlerts (⟨"check", .validateMetricsql⟩ :: steps) start
          stop ∧
        (stop.rules.allGroups.map fun group => group.rules.length) = [3, 7, 1] ∧
        stop.rules.errorRatio.WellStructured ∧
        stop.rules.alerts.WellStructured ∧
        ¬ stop.rules.WellStructured := by
  let start : Progress :=
    { slo := Alerting.labelledSlo (Labels.ofTexts [("zone)", "x")]) }
  let steps : List NamedProcessor :=
    [⟨"ratios", .errorRatio ⟨true⟩⟩, ⟨"metadata", .metadata⟩, ⟨"alerts", .alerts⟩]
  let run := runSteps {} Alerting.sameAlerts (⟨"check", .validateMetricsql⟩ :: steps) start
  have passed : run.2.isNone = true := by decide +kernel
  have counts :
      (run.1.rules.allGroups.map fun group => group.rules.length) = [3, 7, 1] := by
    decide +kernel
  have passes :
      Passes {} Alerting.sameAlerts (⟨"check", .validateMetricsql⟩ :: steps) start
        run.1 := by
    apply runSteps_eq_none_iff.mp
    rw [← Option.isNone_iff_eq_none.mp passed]
  have generates : ∀ step ∈ steps, step.processor.Generates := by
    simp only [steps, List.forall_mem_cons]
    refine ⟨.errorRatio _, .metadata, .alerts, ?_⟩
    intro step impossible
    cases impossible
  have structured : start.rules.WellStructured := by
    rw [RuleSet.wellStructured_iff]
    simp [start, RuleGroup.WellStructured]
  have spoiled : ¬ (Metadata.labels start.slo).WellStructured := by
    apply Labels.not_wellStructured_of_breaksOut
    · decide +kernel
    · decide +kernel
  obtain ⟨isRatios, isAlerts, decided, _⟩ :=
    Passes.wellStructured_iff_labels generates passes structured
  refine ⟨start, run.1, steps, rfl, passes, counts, isRatios, isAlerts, ?_⟩
  intro all
  exact spoiled (decided.mp all ⟨_, List.mem_cons_of_mem _ List.mem_cons_self, rfl⟩)

end ServiceLevel
