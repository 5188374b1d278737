import ServiceLevel.Processor.Basic
import ServiceLevel.Proofs.Rules.Recording

/-!
# Corrected recordings

Weighting the error ratios by traffic puts other expressions in place of theirs and leaves
the metrics and the labels under which they are recorded: one recording for each window of
the objective.  The metadata only grows, by the weights of the windows.
-/

namespace ServiceLevel

namespace Corrected

theorem forWindows_eq_mapM
    (rule : Duration → Except Failure Rule)
    (windows : List Duration) :
    forWindows rule windows = windows.mapM rule := by
  induction windows with
  | nil => rfl
  | cons window rest ih =>
      rw [List.mapM_cons, ← ih]
      rfl

/-- Rules are made up to the first failure, which is that of the whole walk. -/
theorem untilFailure_eq_none_iff
    {rule : Duration → Except Failure Rule}
    {windows : List Duration}
    {made : List Rule} :
    untilFailure rule windows = (made, none) ↔ windows.mapM rule = .ok made := by
  induction windows generalizing made with
  | nil =>
      rw [untilFailure, List.mapM_nil, Prod.mk.injEq]
      constructor
      · rintro ⟨rfl, _⟩
        rfl
      · intro same
        cases same
        exact ⟨rfl, rfl⟩
  | cons window rest ih =>
      rw [untilFailure, Attempt.mapM_cons_eq]
      cases rule window with
      | error failure =>
          constructor
          · intro impossible
            cases impossible
          · intro impossible
            cases impossible
      | ok first =>
          rcases walked : untilFailure rule rest with ⟨others, failure⟩
          show (first :: others, failure) = (made, none) ↔
            (rest.mapM rule).map (first :: ·) = .ok made
          rw [Attempt.map_eq_ok_iff, Prod.mk.injEq]
          constructor
          · rintro ⟨rfl, rfl⟩
            exact ⟨others, ih.mp walked, rfl⟩
          · rintro ⟨rules, made, rfl⟩
            have same := ih.mpr made
            rw [walked] at same
            cases same
            exact ⟨rfl, rfl⟩

/-- A correction that succeeds replaces all error ratios and adds all weights. -/
theorem apply_eq_none_iff
    {slo : Slo}
    {alerts : BurnAlerts}
    {before after : RuleSet} :
    apply slo alerts before = (after, none) ↔
      ∃ events ratios weights,
        queries slo = .ok events ∧
          (ErrorRatio.windows slo alerts).mapM (ratioRule slo events) = .ok ratios ∧
          (ErrorRatio.windows slo alerts).mapM (weightRule slo events) =
            .ok weights ∧
          after =
            { before with
              errorRatio := { before.errorRatio with rules := ratios }
              metadata := before.metadata.append weights } := by
  simp only [apply, forWindows_eq_mapM]
  cases queries slo with
  | error failure => simp
  | ok events =>
      cases made : (ErrorRatio.windows slo alerts).mapM (ratioRule slo events) with
      | error failure => simp [made]
      | ok ratios =>
          rcases walked :
            untilFailure (weightRule slo events) (ErrorRatio.windows slo alerts) with
            ⟨weights, failure⟩
          simp only [made, walked, Prod.mk.injEq, Except.ok.injEq]
          constructor
          · rintro ⟨rfl, rfl⟩
            exact
              ⟨events, ratios, weights, rfl, made,
                untilFailure_eq_none_iff.mp walked, rfl⟩
          · rintro ⟨_, others, more, rfl, isRatios, isWeights, rfl⟩
            rw [made] at isRatios
            cases isRatios
            have same := untilFailure_eq_none_iff.mpr isWeights
            rw [walked] at same
            cases same
            exact ⟨rfl, rfl⟩

theorem exists_of_ratioRule
    {slo : Slo}
    {events : EventQueries}
    {window : Duration}
    {rule : Rule}
    (made : ratioRule slo events window = .ok rule) :
    ∃ data expression,
      Template.render ErrorRatio.title data (template events) = .ok expression ∧
        ErrorRatio.windowRule slo window expression = .ok rule := by
  rcases Attempt.bind_eq_ok_iff.mp made with ⟨_, _, afterText⟩
  rcases Attempt.bind_eq_ok_iff.mp afterText with ⟨_, _, afterFilter⟩
  rcases Attempt.bind_eq_ok_iff.mp afterFilter with ⟨expression, rendered, recorded⟩
  exact ⟨_, expression, rendered, recorded⟩

/-- A weighted error ratio is recorded as the error ratio of its window is. -/
theorem records_of_ratioRule
    {slo : Slo}
    {events : EventQueries}
    {window : Duration}
    {rule : Rule}
    (made : ratioRule slo events window = .ok rule) :
    ErrorRatio.Records slo window rule := by
  rcases exists_of_ratioRule made with ⟨_, _, _, recorded⟩
  exact (ErrorRatio.windowRule_eq_ok recorded).1

theorem exists_of_weightRule
    {slo : Slo}
    {events : EventQueries}
    {window : Duration}
    {rule : Rule}
    (made : weightRule slo events window = .ok rule) :
    ∃ text share whole,
      window.prometheus = .ok text ∧
        totalOver events window = .ok share ∧
        totalOver events slo.period = .ok whole ∧
        rule =
          { record := weightMetric ++ text
            expression := "(" ++ share ++ ")/(" ++ whole ++ ")"
            labels := (Naming.identity slo).merge slo.labels } := by
  rcases Attempt.bind_eq_ok_iff.mp made with ⟨text, written, afterText⟩
  rcases Attempt.bind_eq_ok_iff.mp afterText with ⟨share, isShare, afterShare⟩
  rcases Attempt.bind_eq_ok_iff.mp afterShare with ⟨whole, isWhole, same⟩
  cases same
  exact ⟨text, share, whole, written, isShare, isWhole, rfl⟩

end Corrected

/-- A correction passes exactly if all rules of its windows are made, and replaces and adds them. -/
theorem Processor.corrected_run_eq_iff
    {origin : Origin}
    {alerts : BurnAlerts}
    {before after : Progress} :
    Processor.corrected.run origin alerts before = (after, none) ↔
      ∃ events ratios weights,
        Corrected.queries before.slo = .ok events ∧
          List.Forall₂ (Corrected.ratioRule before.slo events · = .ok ·)
            (ErrorRatio.windows before.slo alerts) ratios ∧
          List.Forall₂ (Corrected.weightRule before.slo events · = .ok ·)
            (ErrorRatio.windows before.slo alerts) weights ∧
          after =
            { before with
              rules :=
                { before.rules with
                  errorRatio := { before.rules.errorRatio with rules := ratios }
                  metadata := before.rules.metadata.append weights } } := by
  simp only [run, Prod.mk.injEq, ← Attempt.mapM_eq_ok_iff]
  constructor
  · rintro ⟨rfl, noFailure⟩
    rcases Corrected.apply_eq_none_iff.mp (Prod.ext rfl noFailure) with
      ⟨events, ratios, weights, isEvents, areRatios, areWeights, same⟩
    exact
      ⟨events, ratios, weights, isEvents, areRatios, areWeights,
        congrArg (fun rules => { before with rules }) same⟩
  · rintro ⟨events, ratios, weights, isEvents, areRatios, areWeights, rfl⟩
    have applied : Corrected.apply before.slo alerts before.rules = (_, none) :=
      Corrected.apply_eq_none_iff.mpr
        ⟨events, ratios, weights, isEvents, areRatios, areWeights, rfl⟩
    rw [applied]
    exact ⟨rfl, rfl⟩

end ServiceLevel
