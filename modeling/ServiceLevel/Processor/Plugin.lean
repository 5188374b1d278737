import ServiceLevel.Duration.Reader
import ServiceLevel.Processor.Basic
import ServiceLevel.Source.Loaded

/-!
# Plugins and their configs

A plugin makes a processor from the written form of a config.  There are the
built-in plugins, the ones shipped with the library, those of the host, and those
loaded from a source.  A config that a plugin refuses is a configuration failure
that names the plugin.

Of a plugin loaded from a source the factory is called, but what it returns is not
followed as a processor: a source whose factory makes one stands for a plugin of
the host, whose factory may be any function.

Which queries the language of Prometheus accepts is a parameter of the built-in
validation.
-/

namespace ServiceLevel

/-- The plugins that are always available. -/
inductive Builtin where
  | validate
  | errorRatio
  | metadata
  | alerts
  | idle
  | debug
  deriving DecidableEq, Repr

namespace Builtin

/-- The identifier of a built-in plugin. -/
def id : Builtin → String
  | .validate => "sloth.dev/core/validate/v1"
  | .errorRatio => "sloth.dev/core/sli_rules/v1"
  | .metadata => "sloth.dev/core/metadata_rules/v1"
  | .alerts => "sloth.dev/core/alert_rules/v1"
  | .idle => "sloth.dev/core/noop/v1"
  | .debug => "sloth.dev/core/debug/v1"

/-- All built-in plugins. -/
def all : List Builtin :=
  [.validate, .errorRatio, .metadata, .alerts, .idle, .debug]

/-- The plugins of the standard chain, in their order. -/
def standard : List Builtin :=
  [.validate, .errorRatio, .metadata, .alerts]

/-- The processor of a built-in plugin. -/
def create (accepts : String → Bool) (builtin : Builtin) (config : String) :
    Except Failure Processor :=
  match builtin with
  | .validate => .ok (.validate (.promql accepts))
  | .errorRatio => (ErrorRatioSettings.read config).map .errorRatio
  | .metadata => .ok .metadata
  | .alerts => .ok .alerts
  | .idle => .ok .idle
  | .debug => (DebugSettings.read config).map (.debug builtin.id)

end Builtin

/-- The plugins shipped with the library that make processors. -/
inductive Shipped where
  | corrected
  | budgetAlert
  | infoLabels
  | removeLabels
  | intervals
  | totalAmount
  | validateMetricsql
  deriving DecidableEq, Repr

namespace Shipped

/-- The name of the module of a shipped plugin. -/
def moduleName : Shipped → String
  | .corrected => "denominator_corrected_rules"
  | .budgetAlert => "error_budget_exhausted_alert"
  | .infoLabels => "info_labels"
  | .removeLabels => "remove_labels"
  | .intervals => "rule_intervals"
  | .totalAmount => "sli_total_amount"
  | .validateMetricsql => "validate_victoria_metrics"

/-- The identifier of a shipped plugin. -/
def id (shipped : Shipped) : String :=
  "sloth.dev/contrib/" ++ shipped.moduleName ++ "/v1"

/-- All shipped plugins that make processors. -/
def all : List Shipped :=
  [.corrected, .budgetAlert, .infoLabels, .removeLabels, .intervals, .totalAmount,
   .validateMetricsql]

/-- A fault of a config. -/
def refused (message : String) : Failure :=
  .fault .value message

/-- The fields of a config that has to be an object; nothing given is an empty one. -/
def readObject (config message : String) : Except Failure Json := do
  let data ← readConfig config
  if !data.isGiven then .ok (.object [])
  else
    match data with
    | .object _ => .ok data
    | _ => .error (refused message)

/-- A field that counts as given. -/
def given? (data : Json) (name : String) : Option Json :=
  (data.field? name).filter Json.isGiven

/-- A field with a map of texts; names and values are shown as texts. -/
def textMap (data : Json) (name : String) : Except Failure Labels :=
  match given? data name with
  | none => .ok .empty
  | some (.object fields) =>
    .ok (Labels.ofTexts (fields.map fun field => (field.1, field.2.display)))
  | some _ => .error (refused ("invalid config: " ++ name ++ " must be an object"))

/-- How long the exhausted budget alert has to hold unless its config says otherwise. -/
def defaultHold : String := "5m"

/-- A number as a threshold. -/
def thresholdOf : Json → Except Failure Quantity
  | .number value => .ok value
  | _ => .error (refused "invalid plugin config: threshold must be a number")

/-- Read the config of the exhausted budget alert. -/
def readBudgetAlert (config : String) : Except Failure BudgetAlert := do
  let data ← readObject config "invalid plugin config: must be an object"
  let threshold ← thresholdOf ((given? data "threshold").getD (.ofInt 0))
  let hold ← Duration.ofJson ((given? data "for").getD (.text defaultHold))
  let hold ← if hold.isZero then Duration.read defaultHold else .ok hold
  let threshold ← threshold.toBinary64
  let name := (given? data "alert_name").getD (.text "ErrorBudgetExhausted")
  let selector ← textMap data "selector_labels"
  let labels ← textMap data "alert_labels"
  let annotations ← textMap data "annotations"
  return { threshold, hold, name, selector, labels, annotations }

/-- Read the config of the plugin that adds labels. -/
def readInfoLabels (config : String) : Except Failure Processor := do
  let data ← readObject config "invalid config: must be an object"
  let fields ←
    match (given? data "labels").getD (.object []) with
    | .object fields => .ok fields
    | _ => .error (refused "invalid config: labels must be an object")
  if fields.isEmpty then .error (refused "at least one label is required")
  else do
    let labels := Labels.ofTexts (fields.map fun field => (field.1, field.2.display))
    let metric := (given? data "metricName").getD (.text Naming.infoMetric)
    return .infoLabels labels metric

/-- The failure of a value that cannot be a member of a set. -/
def unhashable (value : Json) : Failure :=
  .fault .type ("unhashable type: '" ++ value.typeName ++ "'")

/-- The texts among the members of a set; containers cannot be members. -/
def textMembers : List Json → Except Failure (List String)
  | [] => .ok []
  | .text name :: rest => (textMembers rest).map (name :: ·)
  | .array items :: _ => .error (unhashable (.array items))
  | .object fields :: _ => .error (unhashable (.object fields))
  | _ :: rest => textMembers rest

/-- Read the config of the plugin that removes labels. -/
def readRemoveLabels (config : String) : Except Failure Processor := do
  let data ← readObject config "invalid config: must be an object"
  match (given? data "preserveLabels").getD (.array []),
      (given? data "skipMetrics").getD (.array []) with
  | .array preserved, .array skipped =>
    let preserved ← textMembers preserved
    let skipped ← textMembers skipped
    return .removeLabels preserved skipped
  | _, _ =>
    .error (refused "invalid config: preserveLabels and skipMetrics must be lists")

/-- An interval that is given and not zero. -/
def readInterval (data : Json) (name : String) : Except Failure (Option Duration) :=
  match given? data name with
  | none => .ok none
  | some value =>
    match Duration.ofJson value with
    | .ok duration => .ok (if duration.isZero then none else some duration)
    | .error failure =>
      match failure.kind with
      | .fault .overflow => .error failure
      | _ => .error (refused ("invalid " ++ name ++ " interval: " ++ failure.message))

/-- Read the config of the plugin that sets intervals. -/
def readIntervals (config : String) : Except Failure Processor := do
  let data ← readObject config "invalid config: must be an object"
  let intervals ←
    match (given? data "interval").getD (.object []) with
    | .object fields => .ok (Json.object fields)
    | _ => .error (refused "invalid config: interval must be an object")
  let some common ← readInterval intervals "default"
    | .error (refused "at least default interval is required")
  let errorRatio ← readInterval intervals "sliError"
  let metadata ← readInterval intervals "metadata"
  let alerts ← readInterval intervals "alert"
  return .intervals { common, errorRatio, metadata, alerts }

/-- The processor of a shipped plugin. -/
def create (shipped : Shipped) (config : String) : Except Failure Processor :=
  match shipped with
  | .corrected => .ok .corrected
  | .budgetAlert => (readBudgetAlert config).map .budgetAlert
  | .infoLabels => readInfoLabels config
  | .removeLabels => readRemoveLabels config
  | .intervals => readIntervals config
  | .totalAmount => .ok .totalAmount
  | .validateMetricsql => .ok .validateMetricsql

end Shipped

/-- A plugin of the host made of actions. -/
structure Script where
  id : String
  /-- The message with which every config is refused. -/
  refusal : Option String := none
  /-- Whether the plugin makes no processor. -/
  withoutProcessor : Bool := false
  actions : List Action := []
  deriving Repr

/-- What a script makes of the written form of a config. -/
def Script.create (script : Script) (config : String) : Except Failure (Option Processor) :=
  match script.refusal with
  | some message => .error (.fault .value message)
  | none =>
    .ok (if script.withoutProcessor then none
      else some (.scripted script.id config script.actions))

/-- A plugin that makes processors. -/
inductive Plugin where
  | builtin (builtin : Builtin)
  | shipped (shipped : Shipped)
  /-- A plugin of the host: its factory may fail, or make something else than a processor. -/
  | host (id : String) (factory : String → Except Failure (Option Processor))
  | loaded (plugin : LoadedPlugin)

namespace Plugin

/-- The plugin of the host that a script describes. -/
def scripted (script : Script) : Plugin :=
  .host script.id script.create

/-- The identifier of a plugin. -/
def id : Plugin → String
  | .builtin plugin => plugin.id
  | .shipped plugin => plugin.id
  | .host id _ => id
  | .loaded plugin => plugin.id

/-- What a plugin makes of the written form of a config. -/
def create (accepts : String → Bool) (plugin : Plugin) (config : String) :
    Except Failure (Option Processor) :=
  match plugin with
  | .builtin standard => (standard.create accepts config).map some
  | .shipped extra => (extra.create config).map some
  | .host _ factory => factory config
  | .loaded plugin => do
    let arguments : List Source.Value :=
      [.record "bytes" [("text", .text config)], .record "AppUtils" [("plugin", .text plugin.id)]]
    let _ ← (plugin.call (pure arguments)).1
    return none

end Plugin

/-- A processor and the identifier of the plugin that made it. -/
structure NamedProcessor where
  id : String
  processor : Processor

namespace NamedProcessor

/-- Make the processor of a plugin from a config. -/
def make (accepts : String → Bool) (plugin : Plugin) (config : Setting) :
    Except Failure NamedProcessor :=
  let details : List (String × Json) := [("plugin_id", .text plugin.id)]
  match config.write with
  | .error failure =>
    .error (.because .configuration
      ("could not marshal config of SLO plugin " ++ Text.quoted plugin.id ++ ": " ++
        failure.message) failure details)
  | .ok written =>
    match plugin.create accepts written with
    | .error failure =>
      .error (.because .configuration
        ("could not create SLO plugin " ++ Text.quoted plugin.id ++ ": " ++ failure.message)
        failure details)
    | .ok none =>
      .error (.configuration
        ("SLO plugin " ++ Text.quoted plugin.id ++ " factory didn't return a processor") details)
    | .ok (some processor) => .ok ⟨plugin.id, processor⟩

end NamedProcessor

end ServiceLevel
