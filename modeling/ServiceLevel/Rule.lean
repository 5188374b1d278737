import ServiceLevel.Duration.Basic
import ServiceLevel.Labels

/-!
# Prometheus rules

Recording and alerting rules, the groups they are evaluated in, and the set of
groups of one objective.  The documents of rules are what a rules file holds.
-/

namespace ServiceLevel

/-- A recording or an alerting rule; exactly one of its two names should be given. -/
structure Rule where
  expression : String := ""
  /-- The metric that a recording rule writes. -/
  record : String := ""
  /-- The name of an alerting rule, as a definition or a config gives it. -/
  alert : Json := .text ""
  labels : Labels := .empty
  annotations : Labels := .empty
  /-- How long the condition of an alert has to hold. -/
  hold : Option Duration := none
  deriving DecidableEq, Repr, Inhabited

namespace Rule

/-- Whether a rule records a metric. -/
def isRecording (rule : Rule) : Bool :=
  !rule.record.isEmpty

/-- Check that a rule has exactly one name, and an expression. -/
def validate (rule : Rule) : Except Failure Unit :=
  if rule.isRecording = rule.alert.isGiven then
    .error (.fault .value "a rule must set exactly one of record or alert")
  else if rule.expression.isEmpty then
    .error (.fault .value "a rule expression is required")
  else .ok ()

/-- A field with the text of a duration, left out when there is none. -/
def durationField (name : String) :
    Option Duration → Except Failure (List (String × Json))
  | none => .ok []
  | some duration =>
    if duration.isZero then .ok []
    else duration.prometheus.map fun text => [(name, .text text)]

/-- A field with a map, left out when it is empty. -/
def mapField (name : String) (labels : Labels) : List (String × Json) :=
  if labels.isEmpty then [] else [(name, .object labels.pairs)]

/-- The document of a rule. -/
def toJson (rule : Rule) : Except Failure Json := do
  let hold ← durationField "for" rule.hold
  let name := if rule.isRecording then ("record", .text rule.record) else ("alert", rule.alert)
  return .object
    ([name, ("expr", .text rule.expression)] ++ hold ++
      mapField "labels" rule.labels ++ mapField "annotations" rule.annotations)

end Rule

/-- Rules that are evaluated together. -/
structure RuleGroup where
  name : String := ""
  interval : Option Duration := none
  rules : List Rule := []
  deriving DecidableEq, Repr, Inhabited

namespace RuleGroup

/-- The documents of rules, or the first failure. -/
def rulesToJson : List Rule → Except Failure (List Json)
  | [] => .ok []
  | rule :: rest => do
    let document ← rule.toJson
    let documents ← rulesToJson rest
    return document :: documents

/-- The document of a group. -/
def toJson (group : RuleGroup) : Except Failure Json := do
  let interval ← Rule.durationField "interval" group.interval
  let rules ← rulesToJson group.rules
  return .object ([("name", .text group.name)] ++ interval ++ [("rules", .array rules)])

/-- Change every rule of a group. -/
def mapRules (change : Rule → Rule) (group : RuleGroup) : RuleGroup :=
  { group with rules := group.rules.map change }

/-- Add rules at the end. -/
def append (group : RuleGroup) (rules : List Rule) : RuleGroup :=
  { group with rules := group.rules ++ rules }

end RuleGroup

/-- The rules of one objective. -/
structure RuleSet where
  errorRatio : RuleGroup := {}
  metadata : RuleGroup := {}
  alerts : RuleGroup := {}
  extra : List RuleGroup := []
  deriving DecidableEq, Repr, Inhabited

namespace RuleSet

/-- All groups, empty ones included. -/
def allGroups (rules : RuleSet) : List RuleGroup :=
  [rules.errorRatio, rules.metadata, rules.alerts] ++ rules.extra

/-- The groups that have rules, in the order of the rules file. -/
def groups (rules : RuleSet) : List RuleGroup :=
  rules.allGroups.filter fun group => !group.rules.isEmpty

/-- Each of the three main groups and each extra one is listed exactly if it has rules. -/
theorem mem_groups_iff {rules : RuleSet} {group : RuleGroup} :
    group ∈ rules.groups ↔
      (group = rules.errorRatio ∨ group = rules.metadata ∨ group = rules.alerts ∨
          group ∈ rules.extra) ∧
        group.rules ≠ [] := by
  simp [groups, allGroups]

/-- The documents of groups, or the first failure. -/
def groupsToJson : List RuleGroup → Except Failure (List Json)
  | [] => .ok []
  | group :: rest => do
    let document ← group.toJson
    let documents ← groupsToJson rest
    return document :: documents

/-- The rules file of several groups. -/
def fileOf (groups : List RuleGroup) : Except Failure Json := do
  let documents ← groupsToJson groups
  return .object [("groups", .array documents)]

/-- The rules file of one set. -/
def toJson (rules : RuleSet) : Except Failure Json :=
  fileOf rules.groups

end RuleSet

end ServiceLevel
