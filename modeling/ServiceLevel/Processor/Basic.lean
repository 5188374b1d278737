import ServiceLevel.Log.Event
import ServiceLevel.Processor.Fields
import ServiceLevel.Rules.Alerting
import ServiceLevel.Rules.BudgetAlert
import ServiceLevel.Rules.Metadata
import ServiceLevel.Rules.TotalAmount
import ServiceLevel.Slo.Validation

/-!
# Processors

A processor is one step of the generation of the rules of an objective.  It sees
where the rules are generated and the alerts of the objective, and it changes a
`Progress`: the objective itself, its rules so far, the context that all steps
share, and the journal.  A step that fails keeps what it changed before.

Beside the processors of the library there are those of the host, of which nothing
is known: any function of what a processor sees, which may change the objective, its
rules and the context.
-/

namespace ServiceLevel

/-- What all steps of a generation share. -/
structure Context where
  /-- The values that were set. -/
  values : Entries Json := .empty
  cancelled : Bool := false
  deriving DecidableEq, Repr

/-- What a tracing step saw. -/
structure Observation where
  id : String
  config : String
  sloId : String
  cancelled : Bool
  /-- The names of the values of the context, sorted. -/
  values : List String
  /-- The numbers of rules in the first three groups, and of extra groups. -/
  counts : List Nat
  deriving DecidableEq, Repr

/-- What the generations of several objectives share. -/
structure Shared where
  context : Context := {}
  events : List LogEvent := []
  observations : List Observation := []
  deriving Repr

/-- Add an event to the journal. -/
def Shared.log (shared : Shared) (event : LogEvent) : Shared :=
  { shared with events := shared.events ++ [event] }

/-- What a generation changes. -/
structure Progress extends Shared where
  slo : Slo
  rules : RuleSet := {}
  deriving Repr

/-- What a processor of the host leaves and adds to the journal, and its failure if it fails. -/
structure HostEffect where
  context : Context
  slo : Slo
  rules : RuleSet
  events : List LogEvent := []
  observations : List Observation := []
  failure : Option Failure := none

/--
What a processor of the host does.  It works on the objective and the rules themselves and on the
context; what a host remembers from one call to the next is among the values of the context.
Where the rules are generated and the alerts of the objective are left as they are, and so is what
was seen for other objectives.  Every group of the rules is an object of its own: none stands in
two places.
-/
abbrev HostProcess :=
  (origin : Origin) → (alerts : BurnAlerts) → (context : Context) → (slo : Slo) →
    (rules : RuleSet) → HostEffect

/-- One of the three main groups of rules. -/
inductive GroupChoice where
  | errorRatio
  | metadata
  | alerts
  deriving DecidableEq, Repr

/-- Change one of the main groups. -/
def RuleSet.modify (rules : RuleSet) (choice : GroupChoice)
    (change : RuleGroup → RuleGroup) : RuleSet :=
  match choice with
  | .errorRatio => { rules with errorRatio := change rules.errorRatio }
  | .metadata => { rules with metadata := change rules.metadata }
  | .alerts => { rules with alerts := change rules.alerts }

/-- One action of a scripted processor of the host. -/
inductive Action where
  /-- Note what can be seen. -/
  | trace
  | fail (failure : Failure)
  | addGroup (group : RuleGroup)
  | addRule (choice : GroupChoice) (rule : Rule)
  /-- Set a label on every rule of a group. -/
  | setLabel (choice : GroupChoice) (name : String) (value : Json)
  | clear (choice : GroupChoice)
  | rename (choice : GroupChoice) (name : String)
  /-- Set a label of the objective. -/
  | labelSlo (name : String) (value : Json)
  | setValue (name : String)
  | cancel
  deriving Repr

namespace Action

/-- What a tracing step with the given identifier and config sees. -/
def observe (id config : String) (progress : Progress) : Observation :=
  { id, config, sloId := progress.slo.id
    cancelled := progress.context.cancelled
    values := Labels.sortTexts progress.context.values.keys
    counts :=
      [progress.rules.errorRatio.rules.length, progress.rules.metadata.rules.length,
       progress.rules.alerts.rules.length, progress.rules.extra.length] }

/-- Do one action; `id` and `config` are those of its processor. -/
def run (id config : String) (action : Action) (progress : Progress) :
    Progress × Option Failure :=
  match action with
  | .trace =>
    ({ progress with observations := progress.observations ++ [observe id config progress] },
      none)
  | .fail failure => (progress, some failure)
  | .addGroup group =>
    ({ progress with
        rules := { progress.rules with extra := progress.rules.extra ++ [group] } }, none)
  | .addRule choice rule =>
    ({ progress with rules := progress.rules.modify choice (·.append [rule]) }, none)
  | .setLabel choice name value =>
    let change := RuleGroup.mapRules fun rule => { rule with labels := rule.labels.put name value }
    ({ progress with rules := progress.rules.modify choice change }, none)
  | .clear choice =>
    ({ progress with rules := progress.rules.modify choice ({ · with rules := [] }) }, none)
  | .rename choice name =>
    ({ progress with rules := progress.rules.modify choice ({ · with name }) }, none)
  | .labelSlo name value =>
    ({ progress with
        slo := { progress.slo with labels := progress.slo.labels.put name value } }, none)
  | .setValue name =>
    let values := progress.context.values.put name (.bool true)
    ({ progress with context := { progress.context with values } }, none)
  | .cancel =>
    ({ progress with context := { progress.context with cancelled := true } }, none)

/-- Do actions up to the first that fails. -/
def runAll (id config : String) : List Action → Progress → Progress × Option Failure
  | [], progress => (progress, none)
  | action :: rest, progress =>
    match action.run id config progress with
    | (progress, none) => runAll id config rest progress
    | failed => failed

end Action

/-- The intervals that a processor sets. -/
structure Intervals where
  common : Duration
  errorRatio : Option Duration
  metadata : Option Duration
  alerts : Option Duration
  deriving DecidableEq, Repr

/-- A step of the generation. -/
inductive Processor where
  /-- Check the objective with a dialect. -/
  | validate (dialect : Dialect)
  /-- Check the objective with the dialect of VictoriaMetrics. -/
  | validateMetricsql
  | errorRatio (settings : ErrorRatioSettings)
  | metadata
  | alerts
  | idle
  /-- Log the request and the result. -/
  | debug (id : String) (settings : DebugSettings)
  | corrected
  | totalAmount
  | budgetAlert (alert : BudgetAlert)
  /-- Add labels to the first metadata rule of a metric. -/
  | infoLabels (labels : Labels) (metric : Json)
  /-- Keep only identifying and preserved labels, except on skipped metrics. -/
  | removeLabels (preserved skipped : List String)
  | intervals (intervals : Intervals)
  | host (process : HostProcess)

namespace Processor

/-- The processor of the host that does actions; `id` and `config` are those of its plugin. -/
def scripted (id config : String) (actions : List Action) : Processor :=
  .host fun _ _ context slo rules =>
    let (progress, failure) := Action.runAll id config actions { context, slo, rules }
    { context := progress.context, slo := progress.slo, rules := progress.rules
      events := progress.events, observations := progress.observations, failure }

/-- The outcome of replacing rules by ones that may fail to be made. -/
def replacing {α : Type} (progress : Progress) (made : Except Failure α)
    (change : α → RuleSet → RuleSet) : Progress × Option Failure :=
  match made with
  | .error failure => (progress, some failure)
  | .ok value => ({ progress with rules := change value progress.rules }, none)

/-- The outcome of a validation. -/
def checking (progress : Progress) (wrap : Failure → Failure)
    (check : Except Failure Unit) : Progress × Option Failure :=
  match check with
  | .ok () => (progress, none)
  | .error failure => (progress, some (wrap failure))

/-- A failed validation with the objective it is about. -/
def invalid (kind : Failure.Kind) (slo : Slo) (failure : Failure) : Failure :=
  .because kind ("invalid slo " ++ Text.quoted slo.id ++ ": " ++ failure.message) failure

/-- The events that the debug processor logs. -/
def debugEvents (id : String) (settings : DebugSettings) : List LogEvent :=
  let event (name : String) (field : String) (value : String) : LogEvent :=
    ⟨.debug, LogEvent.pluginLogger, name, [("plugin", .text id), (field, .text value)]⟩
  (if settings.message.isEmpty then []
    else [event "debug_plugin_message" "msg" settings.message]) ++
  (if settings.showRequest then [event "debug_plugin_request" "request" "<repr>"] else []) ++
  (if settings.showResult then [event "debug_plugin_result" "result" "<repr>"] else [])

/-- Add labels to the first rule that records a metric. -/
def labelFirst (labels : Labels) (metric : Json) : List Rule → List Rule
  | [] => []
  | rule :: rest =>
    if Json.text rule.record = metric then
      { rule with labels := rule.labels.merge labels } :: rest
    else rule :: labelFirst labels metric rest

/-- Keep the labels of a rule whose name is listed, unless its metric is skipped. -/
def keepLabels (kept skipped : List String) (rule : Rule) : Rule :=
  if skipped.contains rule.record then rule
  else { rule with labels := rule.labels.filterKeys kept.contains }

/-- Remove the labels that are neither identifying nor preserved. -/
def withoutLabels (preserved skipped : List String) (slo : Slo) (rules : RuleSet) : RuleSet :=
  let skipped := Naming.infoMetric :: skipped
  let kept := (Naming.identity slo).keys ++ preserved
  { rules with
    errorRatio := rules.errorRatio.mapRules (keepLabels (Naming.windowLabel :: kept) skipped)
    metadata := rules.metadata.mapRules
      (keepLabels (kept.filter fun name => name ≠ Naming.windowLabel) skipped) }

/-- Set the intervals of the three main groups. -/
def withIntervals (intervals : Intervals) (rules : RuleSet) : RuleSet :=
  { rules with
    errorRatio := { rules.errorRatio with
      interval := some (intervals.errorRatio.getD intervals.common) }
    metadata := { rules.metadata with
      interval := some (intervals.metadata.getD intervals.common) }
    alerts := { rules.alerts with
      interval := some (intervals.alerts.getD intervals.common) } }

/-- Run one step. -/
def run (processor : Processor) (origin : Origin) (alerts : BurnAlerts)
    (progress : Progress) : Progress × Option Failure :=
  let slo := progress.slo
  match processor with
  | .validate dialect =>
    checking progress (invalid .validation slo) (slo.validate dialect)
  | .validateMetricsql =>
    checking progress (invalid (.fault .value) slo) (slo.validate .metricsql)
  | .errorRatio settings =>
    replacing progress (ErrorRatio.rules settings.optimized slo alerts) fun made rules =>
      { rules with errorRatio := { rules.errorRatio with rules := made } }
  | .metadata =>
    replacing progress (Metadata.rules origin slo alerts) fun made rules =>
      { rules with metadata := { rules.metadata with rules := made } }
  | .alerts =>
    replacing progress (Alerting.rules slo alerts) fun made rules =>
      { rules with alerts := { rules.alerts with rules := made } }
  | .idle => (progress, none)
  | .debug id settings =>
    ({ progress with events := progress.events ++ debugEvents id settings }, none)
  | .corrected =>
    let (rules, failure) := Corrected.apply slo alerts progress.rules
    ({ progress with rules }, failure)
  | .totalAmount =>
    replacing progress (TotalAmount.group slo alerts) fun group rules =>
      { rules with extra := rules.extra ++ [group] }
  | .budgetAlert alert =>
    replacing progress (alert.rule slo) fun rule rules =>
      { rules with alerts := rules.alerts.append [rule] }
  | .infoLabels labels metric =>
    let change (group : RuleGroup) : RuleGroup :=
      { group with rules := labelFirst labels metric group.rules }
    ({ progress with rules := progress.rules.modify .metadata change }, none)
  | .removeLabels preserved skipped =>
    ({ progress with rules := withoutLabels preserved skipped slo progress.rules }, none)
  | .intervals chosen =>
    ({ progress with rules := withIntervals chosen progress.rules }, none)
  | .host process =>
    let effect := process origin alerts progress.context slo progress.rules
    ({ context := effect.context, slo := effect.slo, rules := effect.rules
       events := progress.events ++ effect.events
       observations := progress.observations ++ effect.observations },
      effect.failure)

end Processor

end ServiceLevel
