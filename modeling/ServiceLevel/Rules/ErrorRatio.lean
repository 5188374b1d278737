import ServiceLevel.BurnAlert
import ServiceLevel.Naming
import ServiceLevel.Rule
import ServiceLevel.Template

/-!
# Error ratio rules

One rule records the error ratio of every window of the alerts, and one more
that of the whole period.  In the optimized form the rule of the period does not
compute the queries again: it averages the recordings of the shortest quick
window over the period.
-/

namespace ServiceLevel.ErrorRatio

/-- The rule that records an expression as the error ratio of a window. -/
def windowRule (slo : Slo) (window : Duration) (expression : String) :
    Except Failure Rule := do
  let record ← Naming.errorRatio window
  let text ← window.prometheus
  let labels := Entries.mergeAll
    [Naming.identity slo, Labels.ofTexts [(Naming.windowLabel, text)], slo.labels]
  return { expression, record, labels }

/-- The template of the error ratio of an indicator. -/
def queryTemplate (indicator : Indicator) : Except Failure String :=
  match indicator.events, indicator.raw with
  | some events, _ => .ok ("(" ++ events.error ++ ")\n/\n(" ++ events.total ++ ")\n")
  | none, some query => .ok ("(" ++ query ++ ")")
  | none, none => .error (.fault .value "invalid SLI type")

/-- What the title of the templates of error ratios is in messages. -/
def title : String := "SLI expression"

/-- The values of a query template for a window with the given text. -/
def windowData (text : String) : Entries String :=
  .ofList [(Naming.windowVariable, text)]

/-- The rule that computes the queries over a window. -/
def plainRule (slo : Slo) (window : Duration) : Except Failure Rule := do
  let template ← queryTemplate slo.indicator
  let text ← window.prometheus
  let expression ← Template.render title (windowData text) template
  windowRule slo window expression

/-- The average of the recordings of one metric over a window. -/
def averageExpression (metric filter window : String) : String :=
  "sum_over_time(" ++ metric ++ filter ++ "[" ++ window ++ "])\n" ++
  "/ ignoring (" ++ Naming.windowLabel ++ ")\n" ++
  "count_over_time(" ++ metric ++ filter ++ "[" ++ window ++ "])\n"

/-- The rule that averages the recordings of a short window over a longer one. -/
def averageRule (slo : Slo) (window shortWindow : Duration) : Except Failure Rule :=
  if window = shortWindow then
    .error (.fault .value
      "can't optimize using the same short window as the window to optimize")
  else do
    let metric ← Naming.errorRatio shortWindow
    let filter ← (Naming.identity slo).filterText
    let text ← window.prometheus
    windowRule slo window (averageExpression metric filter text)

/-- The rule of a window in the optimized form: only the period is averaged. -/
def optimizedRule (slo : Slo) (alerts : BurnAlerts) (window : Duration) :
    Except Failure Rule :=
  if window = slo.period then averageRule slo window alerts.pageQuick.shortWindow
  else plainRule slo window

/-- The windows that are recorded: those of the alerts, then the period. -/
def windows (slo : Slo) (alerts : BurnAlerts) : List Duration :=
  alerts.windows ++ [slo.period]

/-- The failure of the rule of a window. -/
def windowFailure (slo : Slo) (window : Duration) (cause : Failure) : Failure :=
  match window.prometheus with
  | .error failure => failure
  | .ok text =>
    .because (.fault .value)
      ("could not create " ++ Text.quoted slo.id ++ " SLO rule for window " ++ text ++ ": " ++
        cause.message)
      cause

/-- The rules of several windows, or the failure of the first that has none. -/
def rulesOf (slo : Slo) (rule : Duration → Except Failure Rule) :
    List Duration → Except Failure (List Rule)
  | [] => .ok []
  | window :: rest =>
    match rule window with
    | .error cause => .error (windowFailure slo window cause)
    | .ok first => (rulesOf slo rule rest).map (first :: ·)

/-- The error ratio rules of an objective. -/
def rules (optimized : Bool) (slo : Slo) (alerts : BurnAlerts) : Except Failure (List Rule) :=
  rulesOf slo (if optimized then optimizedRule slo alerts else plainRule slo)
    (windows slo alerts)

end ServiceLevel.ErrorRatio
