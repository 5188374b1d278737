import ServiceLevel.BurnAlert
import ServiceLevel.Naming
import ServiceLevel.Quantity.Text
import ServiceLevel.Rule

/-!
# Metadata rules

Recordings for dashboards and other tools: the objective, the error budget, the
length of the period, the burn rates, the remaining budget, and the origin of
the rules.  The alerts do not depend on them.
-/

namespace ServiceLevel.Metadata

/-- The labels of all metadata rules of an objective. -/
def labels (slo : Slo) : Labels :=
  (Naming.identity slo).merge slo.labels

/-- The error ratio of a metric in shares of the error budget. -/
def burnRateExpression (metric filter grouping : String) : String :=
  metric ++ filter ++ "\n" ++
  "/ on(" ++ grouping ++ ") group_left\n" ++
  Naming.errorBudgetMetric ++ filter ++ "\n"

/-- The labels of the info rule. -/
def infoLabels (origin : Origin) (slo : Slo) (objective : String) : Labels :=
  (labels slo).merge (Labels.ofTexts
    [(Naming.versionLabel, origin.version), (Naming.modeLabel, origin.mode),
     (Naming.specLabel, origin.spec), (Naming.objectiveLabel, objective)])

/-- The metadata rules of an objective. -/
def rules (origin : Origin) (slo : Slo) (alerts : BurnAlerts) :
    Except Failure (List Rule) := do
  let ratio ← slo.objective.divNat 100
  let filter ← (labels slo).filterText
  let grouping := (labels slo).groupText
  let current ← Naming.errorRatio alerts.pageQuick.shortWindow
  let period ← Naming.errorRatio slo.period
  let objective ← slo.objective.plain
  let ratioText := Quantity.conciseBinary64 ratio
  let rule (record expression : String) : Rule :=
    { record, expression, labels := labels slo }
  return [
    rule Naming.objectiveMetric ("vector(" ++ ratioText ++ ")"),
    rule Naming.errorBudgetMetric ("vector(1-" ++ ratioText ++ ")"),
    rule Naming.periodDaysMetric
      ("vector(" ++ Quantity.conciseBinary64 slo.period.days ++ ")"),
    rule Naming.currentBurnRateMetric (burnRateExpression current filter grouping),
    rule Naming.periodBurnRateMetric (burnRateExpression period filter grouping),
    rule Naming.budgetRemainingMetric ("1 - " ++ Naming.periodBurnRateMetric ++ filter),
    { record := Naming.infoMetric, expression := "vector(1)",
      labels := infoLabels origin slo objective }]

end ServiceLevel.Metadata
