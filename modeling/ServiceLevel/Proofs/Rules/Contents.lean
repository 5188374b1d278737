import ServiceLevel.Rules.Alerting
import ServiceLevel.Rules.Metadata
import ServiceLevel.Proofs.Attempt

/-!
# The contents of metadata and alerts

Metadata and alerts are put together from numbers and texts each of which may fail to be
written.  If all of them are written, the rules are what they are put together to.
-/

namespace ServiceLevel

namespace Metadata

/-- The metadata of an objective by the numbers and texts that it is made of. -/
def contents
    (origin : Origin)
    (slo : Slo)
    (ratio : Binary64)
    (filter current period objective : String) : List Rule :=
  let ratioText := Quantity.conciseBinary64 ratio
  let grouping := (labels slo).groupText
  let rule (record expression : String) : Rule :=
    { record, expression, labels := labels slo }
  [rule Naming.objectiveMetric ("vector(" ++ ratioText ++ ")"),
    rule Naming.errorBudgetMetric ("vector(1-" ++ ratioText ++ ")"),
    rule Naming.periodDaysMetric
      ("vector(" ++ Quantity.conciseBinary64 slo.period.days ++ ")"),
    rule Naming.currentBurnRateMetric (burnRateExpression current filter grouping),
    rule Naming.periodBurnRateMetric (burnRateExpression period filter grouping),
    rule Naming.budgetRemainingMetric ("1 - " ++ Naming.periodBurnRateMetric ++ filter),
    { record := Naming.infoMetric, expression := "vector(1)",
      labels := infoLabels origin slo objective }]

theorem rules_eq_ok_iff
    {origin : Origin}
    {slo : Slo}
    {alerts : BurnAlerts}
    {made : List Rule} :
    rules origin slo alerts = .ok made ↔
      ∃ ratio filter current period objective,
        slo.objective.divNat 100 = .ok ratio ∧
          (labels slo).filterText = .ok filter ∧
          Naming.errorRatio alerts.pageQuick.shortWindow = .ok current ∧
          Naming.errorRatio slo.period = .ok period ∧
          slo.objective.plain = .ok objective ∧
          contents origin slo ratio filter current period objective = made := by
  constructor
  · intro isMade
    rcases Attempt.bind_eq_ok_iff.mp isMade with ⟨ratio, divided, afterRatio⟩
    rcases Attempt.bind_eq_ok_iff.mp afterRatio with ⟨filter, filtered, afterFilter⟩
    rcases Attempt.bind_eq_ok_iff.mp afterFilter with
      ⟨current, isCurrent, afterCurrent⟩
    rcases Attempt.bind_eq_ok_iff.mp afterCurrent with
      ⟨period, isPeriod, afterPeriod⟩
    rcases Attempt.bind_eq_ok_iff.mp afterPeriod with ⟨objective, shown, same⟩
    cases same
    exact
      ⟨ratio, filter, current, period, objective, divided, filtered, isCurrent,
        isPeriod, shown, rfl⟩
  · rintro
      ⟨ratio, filter, current, period, objective, divided, filtered, isCurrent,
        isPeriod, shown, rfl⟩
    rw [rules, divided, filtered, isCurrent, isPeriod, shown]
    rfl

end Metadata

namespace Alerting

/-- The alert of a class by its two conditions. -/
def contents
    (settings : AlertSettings)
    (severity : Severity)
    (quick slow : String) : Rule where
  alert := .text settings.name
  expression := quick ++ "or\n" ++ slow
  labels :=
    (Labels.ofTexts [(Naming.severityLabel, severity.name)]).merge settings.labels
  annotations := (defaultAnnotations severity).merge settings.annotations

theorem rule_eq_ok_iff
    {slo : Slo}
    {settings : AlertSettings}
    {quick slow : BurnAlert}
    {made : Rule} :
    rule slo settings quick slow = .ok made ↔
      ∃ filter budget quickShort quickFactor quickLong slowShort slowFactor slowLong,
        (Naming.identity slo).filterText = .ok filter ∧
          quick.budget.divNat 100 = .ok budget ∧
          Naming.errorRatio quick.shortWindow = .ok quickShort ∧
          quick.factor.concise = .ok quickFactor ∧
          Naming.errorRatio quick.longWindow = .ok quickLong ∧
          Naming.errorRatio slow.shortWindow = .ok slowShort ∧
          slow.factor.concise = .ok slowFactor ∧
          Naming.errorRatio slow.longWindow = .ok slowLong ∧
          contents settings quick.severity
              (condition quickShort quickLong filter quickFactor
                (Quantity.conciseBinary64 budget))
              (condition slowShort slowLong filter slowFactor
                (Quantity.conciseBinary64 budget)) =
            made := by
  constructor
  · intro isRule
    rcases Attempt.bind_eq_ok_iff.mp isRule with ⟨filter, filtered, afterFilter⟩
    rcases Attempt.bind_eq_ok_iff.mp afterFilter with ⟨budget, divided, afterBudget⟩
    rcases Attempt.bind_eq_ok_iff.mp afterBudget with
      ⟨quickShort, isQuickShort, afterQuickShort⟩
    rcases Attempt.bind_eq_ok_iff.mp afterQuickShort with
      ⟨quickFactor, isQuickFactor, afterQuickFactor⟩
    rcases Attempt.bind_eq_ok_iff.mp afterQuickFactor with
      ⟨quickLong, isQuickLong, afterQuickLong⟩
    rcases Attempt.bind_eq_ok_iff.mp afterQuickLong with
      ⟨slowShort, isSlowShort, afterSlowShort⟩
    rcases Attempt.bind_eq_ok_iff.mp afterSlowShort with
      ⟨slowFactor, isSlowFactor, afterSlowFactor⟩
    rcases Attempt.bind_eq_ok_iff.mp afterSlowFactor with
      ⟨slowLong, isSlowLong, same⟩
    cases same
    exact
      ⟨filter, budget, quickShort, quickFactor, quickLong, slowShort, slowFactor,
        slowLong, filtered, divided, isQuickShort, isQuickFactor, isQuickLong,
        isSlowShort, isSlowFactor, isSlowLong, rfl⟩
  · rintro
      ⟨filter, budget, quickShort, quickFactor, quickLong, slowShort, slowFactor,
        slowLong, filtered, divided, isQuickShort, isQuickFactor, isQuickLong,
        isSlowShort, isSlowFactor, isSlowLong, rfl⟩
    rw [rule, filtered, divided, isQuickShort, isQuickFactor, isQuickLong,
      isSlowShort, isSlowFactor, isSlowLong]
    rfl

end Alerting

end ServiceLevel
