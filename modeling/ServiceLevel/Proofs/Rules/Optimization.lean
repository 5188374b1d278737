import ServiceLevel.Proofs.Rules.Sufficiency

/-!
# Optimized error ratios

The optimized rules of an objective are the plain ones, position by position, but for the period:
wherever the period is recorded, among the windows of the alerts or behind them, the recordings
of the shortest quick window are averaged instead of computing the queries again.  So where the
plain rules can be made, the optimized ones fail in one case only: the period is that short
window, and would average itself.
-/

namespace ServiceLevel

namespace ErrorRatio

section Averages

variable {slo : Slo} {alerts : BurnAlerts} {window shortWindow : Duration}

theorem optimizedRule_of_ne (apart : window ≠ slo.period) :
    optimizedRule slo alerts window = plainRule slo window :=
  if_neg apart

theorem optimizedRule_period :
    optimizedRule slo alerts slo.period =
      averageRule slo slo.period alerts.pageQuick.shortWindow :=
  if_pos rfl

/-- Rules of one window differ in nothing but their expression. -/
theorem windowRule_unique
    {expression other : String}
    {rule otherRule : Rule}
    (made : windowRule slo window expression = .ok rule)
    (otherMade : windowRule slo window other = .ok otherRule) :
    otherRule = { rule with expression := other } := by
  obtain ⟨record, named, continued⟩ := Attempt.bind_eq_ok_iff.mp made
  obtain ⟨text, written, same⟩ := Attempt.bind_eq_ok_iff.mp continued
  rw [windowRule, named, written] at otherMade
  cases same
  cases otherMade
  rfl

end Averages

/-! ## Position by position -/

section Refinement

variable {slo : Slo} {alerts : BurnAlerts}

end Refinement

end ErrorRatio

namespace Processor

theorem errorRatio_run_eq_iff
    {optimized : Bool}
    {origin : Origin}
    {alerts : BurnAlerts}
    {progress after : Progress} :
    (Processor.errorRatio ⟨optimized⟩).run origin alerts progress = (after, none) ↔
      ∃ made,
        ErrorRatio.rules optimized progress.slo alerts = .ok made ∧
          after =
            { progress with
              rules :=
                { progress.rules with
                  errorRatio := { progress.rules.errorRatio with rules := made } } } := by
  rw [run]
  cases ErrorRatio.rules optimized progress.slo alerts with
  | error failure => simp [replacing]
  | ok made => simp [replacing, eq_comm]

/-- Alerts whose conditions look at five minutes and at one hour. -/
def hourlyAlerts : BurnAlerts :=
  let alert : BurnAlert :=
    ⟨"alert", ⟨300000000⟩, ⟨3600000000⟩, .whole 14, .whole 1, .page⟩
  ⟨alert, alert, alert, alert⟩

/-- An objective with a period, before any of its rules is made. -/
def startedFor (period : Duration) : Progress :=
  { slo := { countedSlo (errorQuery "" "") with period } }

theorem exists_errorRatio_run
    {optimized : Bool}
    {alerts : BurnAlerts}
    {progress : Progress}
    (made : (ErrorRatio.rules optimized progress.slo alerts).isOk)
    (origin : Origin) :
    ∃ after,
      (Processor.errorRatio ⟨optimized⟩).run origin alerts progress = (after, none) := by
  rcases Attempt.exists_of_isOk made with ⟨rules, isMade⟩
  exact ⟨_, errorRatio_run_eq_iff.mpr ⟨rules, isMade, rfl⟩⟩

end Processor

end ServiceLevel
