import ServiceLevel.Naming
import ServiceLevel.Quantity.Text
import ServiceLevel.Rule

/-!
# The exhausted budget alert

An alert on the recorded remaining error budget of the period.
-/

namespace ServiceLevel

/-- The settings of the alert. -/
structure BudgetAlert where
  /-- The remaining budget at which the alert fires. -/
  threshold : Binary64
  hold : Duration
  name : Json
  selector : Labels
  labels : Labels
  annotations : Labels
  deriving DecidableEq, Repr

namespace BudgetAlert

/-- The labels by which the recording is selected. -/
def selectorLabels (alert : BudgetAlert) (slo : Slo) : Labels :=
  Entries.mergeAll
    [Labels.ofTexts
      [(Naming.nameLabel, slo.name), (Naming.serviceLabel, slo.service),
       (Naming.idLabel, slo.service ++ "-" ++ slo.name)],
     slo.labels, alert.selector]

/-- The alerting rule of an objective. -/
def rule (alert : BudgetAlert) (slo : Slo) : Except Failure Rule := do
  let filter ← (alert.selectorLabels slo).filterText
  return {
    alert := alert.name
    expression := Naming.budgetRemainingMetric ++ filter ++ " <= " ++
      Quantity.conciseBinary64 alert.threshold
    hold := some alert.hold
    labels := alert.labels
    annotations := alert.annotations }

end BudgetAlert

end ServiceLevel
