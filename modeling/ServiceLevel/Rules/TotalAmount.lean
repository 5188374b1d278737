import ServiceLevel.Rules.Corrected

/-!
# Total amount rules

The amount of all events of every window, recorded in a group of its own.
-/

namespace ServiceLevel.TotalAmount

/-- What the names of the metrics begin with. -/
def metric : String := "slo:sli_total:amount"

/-- What the name of the group begins with. -/
def groupName : String := "sloth-slo-sli-total-amount-"

/-- The rule of the amount of events of a window. -/
def amountRule (slo : Slo) (total : String) (window : Duration) : Except Failure Rule := do
  let text ← window.prometheus
  let record := metric ++ text
  let expression ← Template.render record (ErrorRatio.windowData text) total
  return { record, expression, labels := (Naming.identity slo).merge slo.labels }

/-- The query of all events, not empty. -/
def query (slo : Slo) : Except Failure String :=
  let missing : Failure := .fault .value "SLI event type with total query required"
  match slo.indicator.events with
  | none => .error missing
  | some events => if events.total.isEmpty then .error missing else .ok events.total

/-- The group with the amounts of all windows. -/
def group (slo : Slo) (alerts : BurnAlerts) : Except Failure RuleGroup := do
  let total ← query slo
  let rules ← Corrected.forWindows (amountRule slo total) (ErrorRatio.windows slo alerts)
  return { name := groupName ++ slo.id, rules }

end ServiceLevel.TotalAmount
