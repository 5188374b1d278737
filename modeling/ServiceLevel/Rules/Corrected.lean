import ServiceLevel.Rules.ErrorRatio

/-!
# Denominator corrected rules

Windows with little traffic give noisy error ratios.  Here the error ratio of a
window is weighted by the share of the traffic of the period that fell into it,
which one more rule of each window records beside the metadata.
-/

namespace ServiceLevel.Corrected

/-- What the names of the metrics of the weights begin with. -/
def weightMetric : String := "slo:numerator_correction:ratio"

/-- The template of a weighted error ratio. -/
def template (events : EventQueries) : String :=
  "(\n" ++ weightMetric ++ "\x7b\x7b.window\x7d\x7d\x7b\x7b.filter\x7d\x7d\n* on()\n" ++
    events.error ++ "\n)\n/\n(" ++ events.total ++ ")\n"

/-- The rule of the weighted error ratio of a window. -/
def ratioRule (slo : Slo) (events : EventQueries) (window : Duration) :
    Except Failure Rule := do
  let text ← window.prometheus
  let filter ← (Naming.identity slo).filterText
  let data := Entries.ofList [(Naming.windowVariable, text), ("filter", filter)]
  let expression ← Template.render ErrorRatio.title data (template events)
  ErrorRatio.windowRule slo window expression

/-- The query of all events over a window. -/
def totalOver (events : EventQueries) (window : Duration) : Except Failure String := do
  let text ← window.prometheus
  Template.render "total query" (ErrorRatio.windowData text) events.total

/-- The rule of the weight of a window. -/
def weightRule (slo : Slo) (events : EventQueries) (window : Duration) :
    Except Failure Rule := do
  let text ← window.prometheus
  let share ← totalOver events window
  let whole ← totalOver events slo.period
  return {
    record := weightMetric ++ text
    expression := "(" ++ share ++ ")/(" ++ whole ++ ")"
    labels := (Naming.identity slo).merge slo.labels }

/-- The queries that the rules need, neither of them empty. -/
def queries (slo : Slo) : Except Failure EventQueries :=
  let missing : Failure :=
    .fault .value "denominator corrected SLI requires SLI event type"
  match slo.indicator.events with
  | none => .error missing
  | some events =>
    if events.error.isEmpty || events.total.isEmpty then .error missing else .ok events

/-- The rules made by a function for several windows, or the first failure. -/
def forWindows (rule : Duration → Except Failure Rule) :
    List Duration → Except Failure (List Rule)
  | [] => .ok []
  | window :: rest => do
    let first ← rule window
    let others ← forWindows rule rest
    return first :: others

/-- The rules made before the first failure, and that failure if there is one. -/
def untilFailure (rule : Duration → Except Failure Rule) :
    List Duration → List Rule × Option Failure
  | [] => ([], none)
  | window :: rest =>
    match rule window with
    | .error failure => ([], some failure)
    | .ok first =>
      let (others, failure) := untilFailure rule rest
      (first :: others, failure)

/--
Replace the error ratio rules by weighted ones and add the rules of the weights
to the metadata.  The rules of weights made before a failure stay.
-/
def apply (slo : Slo) (alerts : BurnAlerts) (rules : RuleSet) : RuleSet × Option Failure :=
  let windows := ErrorRatio.windows slo alerts
  match queries slo with
  | .error failure => (rules, some failure)
  | .ok events =>
    match forWindows (ratioRule slo events) windows with
    | .error failure => (rules, some failure)
    | .ok ratios =>
      let (weights, failure) := untilFailure (weightRule slo events) windows
      ({ rules with
          errorRatio := { rules.errorRatio with rules := ratios }
          metadata := rules.metadata.append weights }, failure)

end ServiceLevel.Corrected
