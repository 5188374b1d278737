import ServiceLevel.BurnAlert
import ServiceLevel.Naming
import ServiceLevel.Quantity.Text
import ServiceLevel.Rule

/-!
# Alerting rules

Each enabled class of alerts is one rule.  It fires when the quick or the slow
pair of windows burns the error budget faster than its factor allows, in the
short and in the long window alike.
-/

namespace ServiceLevel.Alerting

/-- The comparison of the recorded error ratio of one window with a share of the budget. -/
def comparison (metric filter factor budget : String) : String :=
  "    max(" ++ metric ++ filter ++ " > (" ++ factor ++ " * " ++ budget ++ ")) without (" ++
    Naming.windowLabel ++ ")\n"

/-- The condition of a pair of windows. -/
def condition (shortMetric longMetric filter factor budget : String) : String :=
  "(\n" ++ comparison shortMetric filter factor budget ++ "    and\n" ++
    comparison longMetric filter factor budget ++ ")\n"

/-- The annotation that names the service and the objective. -/
def subject : String :=
  "\x7b\x7b$labels." ++ Naming.serviceLabel ++ "\x7d\x7d \x7b\x7b$labels." ++
    Naming.nameLabel ++ "\x7d\x7d SLO error budget burn rate is "

/-- The annotations that every alert has. -/
def defaultAnnotations (severity : Severity) : Labels :=
  Labels.ofTexts
    [("title", "(" ++ severity.name ++ ") " ++ subject ++ "too fast."),
     ("summary", subject ++ "over expected.")]

/-- The alerting rule of a class from its quick and its slow condition. -/
def rule (slo : Slo) (settings : AlertSettings) (quick slow : BurnAlert) :
    Except Failure Rule := do
  let filter ← (Naming.identity slo).filterText
  let budgetRatio ← quick.budget.divNat 100
  let budget := Quantity.conciseBinary64 budgetRatio
  let quickShort ← Naming.errorRatio quick.shortWindow
  let quickFactor ← quick.factor.concise
  let quickLong ← Naming.errorRatio quick.longWindow
  let slowShort ← Naming.errorRatio slow.shortWindow
  let slowFactor ← slow.factor.concise
  let slowLong ← Naming.errorRatio slow.longWindow
  return {
    alert := .text settings.name
    expression :=
      condition quickShort quickLong filter quickFactor budget ++ "or\n" ++
        condition slowShort slowLong filter slowFactor budget
    labels := (Labels.ofTexts [(Naming.severityLabel, quick.severity.name)]).merge settings.labels
    annotations := (defaultAnnotations quick.severity).merge settings.annotations }

/-- The rule of a class of alerts, unless the class is disabled. -/
def classRules (slo : Slo) (severity : Severity) (settings : AlertSettings)
    (quick slow : BurnAlert) : Except Failure (List Rule) :=
  if settings.disabled then .ok []
  else
    match rule slo settings quick slow with
    | .ok made => .ok [made]
    | .error cause =>
      .error (.because (.fault .value)
        ("could not create " ++ severity.name ++ " alert: " ++ cause.message) cause)

/-- The alerting rules of an objective. -/
def rules (slo : Slo) (alerts : BurnAlerts) : Except Failure (List Rule) := do
  let page ← classRules slo .page slo.pageAlert alerts.pageQuick alerts.pageSlow
  let ticket ← classRules slo .ticket slo.ticketAlert alerts.ticketQuick alerts.ticketSlow
  return page ++ ticket

end ServiceLevel.Alerting
