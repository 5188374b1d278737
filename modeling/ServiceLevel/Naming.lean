import ServiceLevel.Slo.Basic

/-!
# Names of metrics, labels and rule groups

The names under which rules are recorded and by which dashboards and alerts find
them.
-/

namespace ServiceLevel.Naming

/-- What the names of the error ratio metrics begin with. -/
def errorRatioMetric : String := "slo:sli_error:ratio_rate"

/-- The metric of the objective as a ratio. -/
def objectiveMetric : String := "slo:objective:ratio"

/-- The metric of the error budget. -/
def errorBudgetMetric : String := "slo:error_budget:ratio"

/-- The metric of the length of the period. -/
def periodDaysMetric : String := "slo:time_period:days"

/-- The metric of the current burn rate. -/
def currentBurnRateMetric : String := "slo:current_burn_rate:ratio"

/-- The metric of the burn rate over the period. -/
def periodBurnRateMetric : String := "slo:period_burn_rate:ratio"

/-- The metric of the error budget left in the period. -/
def budgetRemainingMetric : String := "slo:period_error_budget_remaining:ratio"

/-- The metric with information about the definition. -/
def infoMetric : String := "sloth_slo_info"

def idLabel : String := "sloth_id"
def nameLabel : String := "sloth_slo"
def serviceLabel : String := "sloth_service"
def windowLabel : String := "sloth_window"
def severityLabel : String := "sloth_severity"
def versionLabel : String := "sloth_version"
def modeLabel : String := "sloth_mode"
def specLabel : String := "sloth_spec"
def objectiveLabel : String := "sloth_objective"

/-- What the default names of the groups of error ratio rules begin with. -/
def errorRatioGroup : String := "sloth-slo-sli-recordings-"

/-- What the default names of the groups of metadata rules begin with. -/
def metadataGroup : String := "sloth-slo-meta-recordings-"

/-- What the default names of the groups of alerts begin with. -/
def alertGroup : String := "sloth-slo-alerts-"

/-- What the default names of the extra groups begin with. -/
def extraGroup : String := "sloth-slo-extra-rules-"

/-- The name by which query templates refer to the window. -/
def windowVariable : String := "window"

/-- The error ratio metric of a window. -/
def errorRatio (window : Duration) : Except Failure String := do
  let text ← window.prometheus
  return errorRatioMetric ++ text

/-- The labels that identify the rules of one objective. -/
def identity (slo : Slo) : Labels :=
  Labels.ofTexts [(idLabel, slo.id), (nameLabel, slo.name), (serviceLabel, slo.service)]

end ServiceLevel.Naming
