import ServiceLevel.Proofs.Duration.RoundTrip
import ServiceLevel.Proofs.Generation.Independence

/-!
# The names of rule groups

The groups of a generated objective are the groups that its processors leave, each with a
name: its own, if the processors gave it one, and otherwise the default name of its place.
A default name is made of what the place is called and of the identifier that the objective
has by then, and both can be read off it, whatever characters the identifier has: the number
of an extra group ends at the first dash behind it, and no kind of group is called like the
beginning of another one.

So no two default names of one objective are the same, and none of two objectives with
different identifiers.  The identifiers of a group of objectives differ, and only a processor
of the host can change one: two objectives that it gives the same identifier get the same
default names.
-/

namespace ServiceLevel

namespace RuleSet

/-! ## Numbers with three digits -/

/-- Where a group stands among the groups of an objective. -/
inductive Place where
  | errorRatio
  | metadata
  | alerts
  | extra (index : Nat)
  deriving DecidableEq, Repr

namespace Place

/-- What the default name of a place begins with. -/
def stem : Place → String
  | .errorRatio => Naming.errorRatioGroup
  | .metadata => Naming.metadataGroup
  | .alerts => Naming.alertGroup
  | .extra _ => Naming.extraGroup

/-- What stands between the stem of a default name and the identifier. -/
def number : Place → String
  | .extra index => threeDigits index ++ "-"
  | _ => ""

end Place

end RuleSet

/-! ## Naming groups -/

/-- A group with a name: its own, if it has one, and any other otherwise. -/
structure RuleGroup.NamedAs (left named : RuleGroup) : Prop where
  unchanged : named = { left with name := named.name }
  isNamed : named.name ≠ ""
  keeps : left.name ≠ "" → named.name = left.name

namespace RuleSet

/-- The places of the groups, in the order of the groups. -/
def places (rules : RuleSet) : List Place :=
  [.errorRatio, .metadata, .alerts] ++
    (List.range rules.extra.length).map Place.extra

end RuleSet

/-! ## Generated groups -/

/-- An objective as its processors left it, with names for its groups. -/
def Progress.named (stop : Progress) : Generated :=
  ⟨stop.slo, stop.rules.withNames stop.slo.id⟩

/-- What is generated for an objective that its processors left in some way: the objective is the
same, and so are its groups, but for names where they have none. -/
structure Generated.Names (stop : Progress) (result : Generated) : Prop where
  slo : result.slo = stop.slo
  groups :
    List.Forall₂ RuleGroup.NamedAs stop.rules.allGroups result.rules.allGroups

namespace Job

section

variable (origin : Origin) (calculate : AlertCalculation)

/-- What the processors of jobs leave, each job starting from what those in front of it share. -/
inductive Leave : List Job → Proceedings → List Progress → Prop where
  | nil (proceedings : Proceedings) : Leave [] proceedings []
  | cons {job : Job} {rest : List Job} {proceedings : Proceedings}
      {alerts : BurnAlerts} {stop : Progress} {left : List Progress}
      (calculated :
        calculate job.slo.id job.slo.objective job.slo.period = .ok alerts)
      (passes :
        Passes origin alerts job.steps (job.start proceedings.toShared) stop)
      (behind : Leave rest (job.run origin calculate proceedings).1 left) :
      Leave (job :: rest) proceedings (stop :: left)

variable {origin calculate}

/-- Processors that let the identifiers be leave the objectives with their identifiers. -/
theorem Leave.map_id
    {jobs : List Job}
    {proceedings : Proceedings}
    {left : List Progress}
    (leave : Leave origin calculate jobs proceedings left)
    (keep : ∀ job ∈ jobs, ∀ step ∈ job.steps, step.processor.KeepsId) :
    (left.map fun stop => stop.slo.id) = jobs.map fun job => job.slo.id := by
  induction leave with
  | nil proceedings => rfl
  | @cons job rest proceedings alerts stop left calculated passes behind ih =>
      have ⟨keepHere, keepBehind⟩ := List.forall_mem_cons.mp keep
      have atEnd :
          (runSteps origin alerts job.steps (job.start proceedings.toShared)).1.slo.id =
            job.slo.id :=
        id_runSteps keepHere _
      rw [runSteps_eq_none_iff.mpr passes] at atEnd
      rw [List.map_cons, List.map_cons, ih keepBehind, atEnd]

end

end Job

namespace Generator

/-- A plugin that adds groups, of which one has a name, and names the alerts. -/
def grouping : Script where
  id := "grouping"
  actions :=
    [.addGroup {}, .addGroup { name := "sloth-slo-alerts-orders" }, .addGroup {},
      .rename .alerts "alarms"]

end Generator

end ServiceLevel
