import ServiceLevel.Chain
import ServiceLevel.Processor.Plugin

/-!
# Generation of rules

The rules of a group of objectives.  Each objective is copied and its processors
are made before any objective is processed, so that faults of configs surface
first; then the objectives are processed one after another, and the first failure
ends the generation.  Rule groups left without a name get one made of the kind of
the group and the identifier that the objective has by then.
-/

namespace ServiceLevel

/-- The steps of a chain run on one progress, up to the first that fails. -/
def runSteps (origin : Origin) (alerts : BurnAlerts) :
    List NamedProcessor → Progress → Progress × Option Failure
  | [], progress => (progress, none)
  | step :: rest, progress =>
    match step.processor.run origin alerts progress with
    | (progress, none) => runSteps origin alerts rest progress
    | (progress, some cause) => (progress, some (.processing step.id cause))

namespace RuleSet

/-- A number with at least three digits. -/
def threeDigits (index : Nat) : String :=
  let digits := Nat.toDigits 10 index
  String.ofList (List.replicate (3 - digits.length) '0' ++ digits)

/-- Name a group that has no name. -/
def nameGroup (name : String) (group : RuleGroup) : RuleGroup :=
  if group.name.isEmpty then { group with name } else group

/-- Name the extra groups that have no name, counting from `index`. -/
def nameExtra (sloId : String) : Nat → List RuleGroup → List RuleGroup
  | _, [] => []
  | index, group :: rest =>
    nameGroup (Naming.extraGroup ++ threeDigits index ++ "-" ++ sloId) group ::
      nameExtra sloId (index + 1) rest

/-- Name the groups that have no name. -/
def withNames (sloId : String) (rules : RuleSet) : RuleSet :=
  { errorRatio := nameGroup (Naming.errorRatioGroup ++ sloId) rules.errorRatio
    metadata := nameGroup (Naming.metadataGroup ++ sloId) rules.metadata
    alerts := nameGroup (Naming.alertGroup ++ sloId) rules.alerts
    extra := nameExtra sloId 0 rules.extra }

end RuleSet

/-- The objectives of one file, with the plugins for all of them. -/
structure SloGroup where
  slos : List Slo
  chain : Chain := {}
  deriving Repr

/-- Check that a group has objectives and that their identifiers differ. -/
def SloGroup.validate (group : SloGroup) : Except Failure Unit :=
  if group.slos.isEmpty then
    .error (.validation "invalid SLO group: at least one SLO is required")
  else firstRepeated [] group.slos
where
  firstRepeated : List String → List Slo → Except Failure Unit
    | _, [] => .ok ()
    | seen, slo :: rest =>
      if seen.contains slo.id then
        .error (.validation
          ("invalid SLO group: SLO ID " ++ Text.quoted slo.id ++ " is repeated"))
      else firstRepeated (slo.id :: seen) rest

/-- A copy of an objective.  Only the configs in its chain can fail to be copied. -/
def Slo.copy (slo : Slo) : Except Failure Slo :=
  match slo.chain.copyFailure? with
  | none => .ok slo
  | some failure => .error failure

/-- A request for the rules of a group. -/
structure GenerationRequest where
  origin : Origin := {}
  group : SloGroup
  extraLabels : Labels := .empty
  deriving Repr

/-- An objective with the labels that the request adds. -/
def GenerationRequest.labelled (request : GenerationRequest) (slo : Slo) : Slo :=
  { slo with labels := slo.labels.merge request.extraLabels }

/-- What makes the rules of groups. -/
structure Generator where
  /-- The processors that run unless a chain overrides them. -/
  standard : List NamedProcessor
  /-- The plugins for all objectives. -/
  appEntries : List ChainEntry := []
  /-- The plugins beyond the built-in ones, if there is a place to look for them. -/
  plugins : Option (String → Option Plugin) := none
  /-- The queries that the built-in validation accepts. -/
  accepts : String → Bool := Promql.accepts

/-- The calculation of the alerts of an objective. -/
abbrev AlertCalculation := (id : String) → (objective : Quantity) → (period : Duration) →
  Except Failure BurnAlerts

namespace Generator

/-- The written config of a built-in plugin of the standard chain. -/
def standardConfig (optimized : Bool) : Builtin → Setting
  | .errorRatio => .map [(.text "optimized", .bool optimized)]
  | _ => .null

/-- The processors of the standard chain. -/
def standardProcessors (accepts : String → Bool) (optimized : Bool) :
    Except Failure (List NamedProcessor) :=
  Builtin.standard.mapM fun builtin =>
    NamedProcessor.make accepts (.builtin builtin) (standardConfig optimized builtin)

/-- A generator with the standard processors. -/
def make (optimized : Bool) (appEntries : List ChainEntry)
    (plugins : Option (String → Option Plugin))
    (accepts : String → Bool := Promql.accepts) : Except Failure Generator := do
  let standard ← standardProcessors accepts optimized
  return { standard, appEntries, plugins, accepts }

/-- The plugin of an identifier, built-in ones first. -/
def resolve (generator : Generator) (id : Json) : Except Failure Plugin :=
  match id with
  | .text name =>
    match Builtin.all.find? fun builtin => builtin.id = name with
    | some builtin => .ok (.builtin builtin)
    | none =>
      match generator.plugins.bind fun find => find name with
      | some plugin => .ok plugin
      | none => .error (.notFound id)
  | .array _ | .object _ => .error (Shipped.unhashable id)
  | _ => .error (.notFound id)

/-- The processor of an entry of a chain. -/
def processorOf (generator : Generator) (entry : ChainEntry) :
    Except Failure NamedProcessor := do
  let plugin ← generator.resolve entry.id
  NamedProcessor.make generator.accepts plugin entry.config

/-- The processors of entries, or the failure of the first that has none. -/
def processorsOf (generator : Generator) :
    List ChainEntry → Except Failure (List NamedProcessor)
  | [] => .ok []
  | entry :: rest => do
    let first ← generator.processorOf entry
    let others ← generator.processorsOf rest
    return first :: others

/-- The processors of an objective, in the order in which they run. -/
def processorsFor (generator : Generator) (group : SloGroup) (slo : Slo) :
    Except Failure (List NamedProcessor) := do
  let entries := Chain.merge group.chain slo.chain generator.appEntries
  let before ← generator.processorsOf (Chain.before entries)
  let after ← generator.processorsOf (Chain.after entries)
  return before ++ (if slo.chain.overrides then [] else generator.standard) ++ after

end Generator

/-- An objective with the processors that make its rules. -/
structure Job where
  slo : Slo
  steps : List NamedProcessor

/-- An objective, as the processors left it, with its rules. -/
structure Generated where
  slo : Slo
  rules : RuleSet
  deriving DecidableEq, Repr

/-- The groups that have rules, of all objectives in their order. -/
def Generated.groups (results : List Generated) : List RuleGroup :=
  results.flatMap fun result => result.rules.groups

/-- The rules file of all objectives. -/
def Generated.rulesFile (results : List Generated) : Except Failure Json :=
  RuleSet.fileOf (Generated.groups results)

/-- What generations of several objectives share, with the calculations asked for. -/
structure Proceedings extends Shared where
  calculations : List (String × Quantity × Duration) := []
  deriving Repr

/-- How a generation ended, and what it left. -/
structure GenerationOutcome where
  proceedings : Proceedings := {}
  result : Except Failure (List Generated)

namespace Job

/-- The log event of an objective. -/
def event (slo : Slo) (level : LogLevel) (name : String)
    (fields : List (String × Json)) : LogEvent :=
  ⟨level, LogEvent.pipelineLogger, name, ("slo_id", .text slo.id) :: fields⟩

/-- The event of a job that failed. -/
def failedEvent (job : Job) (cause : Failure) : LogEvent :=
  event job.slo .error "slo_generation_failed" [("error", .text cause.message)]

/-- The event of a job whose rules were made. -/
def doneEvent (job : Job) (rules : RuleSet) : LogEvent :=
  event job.slo .info "slo_rules_generated"
    [("processors", .ofInt job.steps.length), ("groups", .ofInt rules.groups.length)]

/-- What is left once the alerts of a job have been asked for. -/
def asked (job : Job) (proceedings : Proceedings) : Proceedings :=
  { proceedings with
    calculations :=
      proceedings.calculations ++ [(job.slo.id, job.slo.objective, job.slo.period)] }

/-- Where the steps of a job start. -/
def start (job : Job) (shared : Shared) : Progress where
  toShared := shared.log (event job.slo .debug "mwmb_alerts_generated" [])
  slo := job.slo

/-- The failure of a job, which is logged.  It names the identifier that the objective has by
then. -/
def failed (job : Job) (sloId : String) (cause : Failure) (proceedings : Proceedings) :
    Proceedings × Except Failure Generated :=
  ({ proceedings with toShared := proceedings.toShared.log (job.failedEvent cause) },
    .error (.generation sloId cause))

/-- Calculate the alerts of an objective and run its processors, which may change the objective
and its identifier. -/
def run (origin : Origin) (calculate : AlertCalculation) (job : Job)
    (proceedings : Proceedings) : Proceedings × Except Failure Generated :=
  let proceedings := job.asked proceedings
  match calculate job.slo.id job.slo.objective job.slo.period with
  | .error cause => job.failed job.slo.id cause proceedings
  | .ok alerts =>
    match runSteps origin alerts job.steps (job.start proceedings.toShared) with
    | (progress, some cause) =>
      job.failed progress.slo.id cause { proceedings with toShared := progress.toShared }
    | (progress, none) =>
      let rules := progress.rules.withNames progress.slo.id
      ({ proceedings with toShared := progress.toShared.log (job.doneEvent rules) },
        .ok ⟨progress.slo, rules⟩)

/-- Run jobs one after another, up to the first that fails. -/
def runAll (origin : Origin) (calculate : AlertCalculation) :
    List Job → Proceedings → Proceedings × Except Failure (List Generated)
  | [], proceedings => (proceedings, .ok [])
  | job :: rest, proceedings =>
    match job.run origin calculate proceedings with
    | (proceedings, .error failure) => (proceedings, .error failure)
    | (proceedings, .ok first) =>
      match runAll origin calculate rest proceedings with
      | (proceedings, .error failure) => (proceedings, .error failure)
      | (proceedings, .ok others) => (proceedings, .ok (first :: others))

end Job

namespace Generator

/-- The job of an objective, which is one of a copy of it. -/
def jobFor (generator : Generator) (request : GenerationRequest) (slo : Slo) :
    Except Failure Job := do
  let copied ← slo.copy
  let steps ← generator.processorsFor request.group (request.labelled copied)
  return ⟨request.labelled copied, steps⟩

/-- The jobs of objectives, or the failure of the first that cannot be made. -/
def jobs (generator : Generator) (request : GenerationRequest) :
    List Slo → Except Failure (List Job)
  | [] => .ok []
  | slo :: rest => do
    let job ← generator.jobFor request slo
    let others ← generator.jobs request rest
    return job :: others

/-- The checked group as jobs. -/
def prepare (generator : Generator) (request : GenerationRequest) :
    Except Failure (List Job) := do
  request.group.validate
  generator.jobs request request.group.slos

/-- Generate the rules of a group. -/
def generate (generator : Generator) (calculate : AlertCalculation)
    (request : GenerationRequest) : GenerationOutcome :=
  match generator.prepare request with
  | .error failure => { result := .error failure }
  | .ok jobs =>
    let (proceedings, result) := Job.runAll request.origin calculate jobs {}
    { proceedings, result }

end Generator

end ServiceLevel
