import Mathlib.Data.List.Nodup
import ServiceLevel.Proofs.Generation.Jobs

/-!
# Independent generation

The objectives of a group are generated one after another in a context that they
share.  An objective has nothing to do with those behind it, but a processor of the
host can make it depend on those in front: one that fails where it has been before
lets every single objective succeed and no two of them.

Where no processor reads the context, objectives are generated as if each of them
were alone: a generation succeeds exactly if the group is well formed and the
generation of each single objective succeeds, with the results of these.  So the
order of a group has no influence but on the order of its results.
-/

namespace ServiceLevel

/-! ## Well formed groups -/

theorem SloGroup.firstRepeated_eq_ok_iff
    {seen : List String}
    {slos : List Slo} :
    validate.firstRepeated seen slos = .ok () ↔
      (slos.map Slo.id).Nodup ∧ ∀ slo ∈ slos, slo.id ∉ seen := by
  induction slos generalizing seen with
  | nil => simp [validate.firstRepeated]
  | cons first rest ih =>
      rw [validate.firstRepeated, List.map_cons, List.nodup_cons]
      by_cases repeated : first.id ∈ seen
      · simp [repeated]
      · simp only [List.contains_iff_mem, repeated, if_false, ih,
          List.mem_cons, not_or, List.mem_map, not_exists, not_and,
          forall_eq_or_imp]
        constructor
        · rintro ⟨distinct, others⟩
          refine ⟨⟨?_, distinct⟩, not_false, ?_⟩
          · intro slo member same
            exact (others slo member).1 same
          · intro slo member
            exact (others slo member).2
        · rintro ⟨⟨apart, distinct⟩, _, others⟩
          refine ⟨distinct, ?_⟩
          intro slo member
          exact ⟨fun same => apart slo member same, others slo member⟩

/-- A group is well formed if it has objectives and their identifiers differ. -/
theorem SloGroup.validate_eq_ok_iff {group : SloGroup} :
    group.validate = .ok () ↔
      group.slos ≠ [] ∧ (group.slos.map Slo.id).Nodup := by
  rw [validate]
  by_cases empty : group.slos = []
  · simp [empty]
  · simp [empty, firstRepeated_eq_ok_iff]

theorem SloGroup.kind_of_firstRepeated
    {seen : List String}
    {slos : List Slo}
    {failure : Failure}
    (found : validate.firstRepeated seen slos = .error failure) :
    failure.kind = .validation := by
  induction slos generalizing seen with
  | nil => cases found
  | cons first rest ih =>
      rw [validate.firstRepeated] at found
      split at found
      · cases found
        rfl
      · exact ih found

/-- A group that is not well formed fails its validation. -/
theorem SloGroup.kind_of_validate
    {group : SloGroup}
    {failure : Failure}
    (failed : group.validate = .error failure) :
    failure.kind = .validation := by
  rw [validate] at failed
  split at failed
  · cases failed
    rfl
  · exact kind_of_firstRepeated failed

/-! ## One objective alone -/

/-- The request for other objectives of the group. -/
def GenerationRequest.withSlos
    (request : GenerationRequest)
    (slos : List Slo) : GenerationRequest :=
  { request with group := { request.group with slos } }

/-- The request for one objective. -/
def GenerationRequest.only
    (request : GenerationRequest)
    (slo : Slo) : GenerationRequest :=
  request.withSlos [slo]

namespace Generator

/-- What is generated for one objective, if only it is processed. -/
def generateOne
    (generator : Generator)
    (calculate : AlertCalculation)
    (request : GenerationRequest)
    (slo : Slo) : Except Failure Generated :=
  generator.jobFor request slo >>= Job.outcome request.origin calculate

theorem jobs_eq_mapM
    (generator : Generator)
    (request : GenerationRequest)
    (slos : List Slo) :
    generator.jobs request slos =
      slos.mapM (generator.jobFor request) := by
  induction slos with
  | nil => rfl
  | cons slo rest ih =>
      rw [List.mapM_cons, ← ih]
      rfl

/-- Without jobs nothing is processed. -/
theorem generate_of_unprepared
    {generator : Generator}
    {calculate : AlertCalculation}
    {request : GenerationRequest}
    {failure : Failure}
    (unprepared : generator.prepare request = .error failure) :
    generator.generate calculate request = { result := .error failure } := by
  rw [generate, unprepared]

theorem generate_result
    (generator : Generator)
    (calculate : AlertCalculation)
    (request : GenerationRequest) :
    (generator.generate calculate request).result =
      request.group.validate >>= fun _ =>
        request.group.slos.mapM (generator.jobFor request) >>= fun jobs =>
          (Job.runAll request.origin calculate jobs {}).2 := by
  rw [← jobs_eq_mapM]
  have prepared :
      generator.prepare request =
        request.group.validate >>= fun _ =>
          generator.jobs request request.group.slos := rfl
  rw [generate, prepared]
  cases request.group.validate with
  | error failure => rfl
  | ok valid =>
      cases made : generator.jobs request request.group.slos with
      | error failure => rfl
      | ok jobs => rfl

/-- A generation succeeds if there is a job for each objective and these jobs succeed. -/
theorem generate_eq_ok_iff_succeed
    {generator : Generator}
    {calculate : AlertCalculation}
    {request : GenerationRequest}
    {results : List Generated} :
    (generator.generate calculate request).result = .ok results ↔
      (request.group.slos ≠ [] ∧ (request.group.slos.map Slo.id).Nodup) ∧
        ∃ jobs last,
          List.Forall₂
              (fun slo job => generator.jobFor request slo = .ok job)
              request.group.slos jobs ∧
            Job.Succeed request.origin calculate jobs {} last results := by
  rw [generate_result, Attempt.bind_eq_ok_iff]
  simp only [Attempt.bind_eq_ok_iff, Attempt.mapM_eq_ok_iff, ← Job.runAll_eq_ok_iff]
  constructor
  · rintro ⟨_, valid, jobs, made, ran⟩
    refine
      ⟨SloGroup.validate_eq_ok_iff.mp valid, jobs,
        (Job.runAll request.origin calculate jobs {}).1, made, ?_⟩
    rw [← ran]
  · rintro ⟨valid, jobs, last, made, ran⟩
    exact ⟨(), SloGroup.validate_eq_ok_iff.mpr valid, jobs, made, by rw [ran]⟩

/-- No step that is made for an objective of the request reads the context. -/
def IgnoresContext (generator : Generator) (request : GenerationRequest) : Prop :=
  ∀ slo ∈ request.group.slos,
    ∀ job, generator.jobFor request slo = .ok job → job.IgnoresContext

/-- Without the context a generation succeeds with the results of its objectives alone. -/
theorem generate_eq_ok_iff
    {generator : Generator}
    {calculate : AlertCalculation}
    {request : GenerationRequest}
    (ignores : generator.IgnoresContext request)
    {results : List Generated} :
    (generator.generate calculate request).result = .ok results ↔
      (request.group.slos ≠ [] ∧ (request.group.slos.map Slo.id).Nodup) ∧
        List.Forall₂
          (fun slo result =>
            generator.generateOne calculate request slo = .ok result)
          request.group.slos results := by
  have alone {jobs : List Job}
      (made :
        List.Forall₂ (fun slo job => generator.jobFor request slo = .ok job)
          request.group.slos jobs) :
      (Job.runAll request.origin calculate jobs {}).2 =
        jobs.mapM (Job.outcome request.origin calculate) := by
    apply Job.runAll_snd
    intro job isJob
    obtain ⟨slo, isOne, isMade⟩ := Attempt.exists_left_of_forall₂ made isJob
    exact ignores slo isOne job isMade
  rw [generate_result, Attempt.bind_eq_ok_iff]
  constructor
  · rintro ⟨_, valid, generated⟩
    obtain ⟨jobs, made, ran⟩ := Attempt.bind_eq_ok_iff.mp generated
    rw [alone (Attempt.mapM_eq_ok_iff.mp made)] at ran
    exact
      ⟨SloGroup.validate_eq_ok_iff.mp valid,
        Attempt.mapM_bind_mapM_eq_ok_iff.mp
          (Attempt.bind_eq_ok_iff.mpr ⟨jobs, made, ran⟩)⟩
  · rintro ⟨valid, each⟩
    obtain ⟨jobs, made, ran⟩ :=
      Attempt.bind_eq_ok_iff.mp (Attempt.mapM_bind_mapM_eq_ok_iff.mpr each)
    rw [← alone (Attempt.mapM_eq_ok_iff.mp made)] at ran
    exact
      ⟨(), SloGroup.validate_eq_ok_iff.mpr valid,
        Attempt.bind_eq_ok_iff.mpr ⟨jobs, made, ran⟩⟩

/-- A single objective has nothing in front of it that could have changed the context. -/
theorem generate_only_eq_ok_iff
    {generator : Generator}
    {calculate : AlertCalculation}
    {request : GenerationRequest}
    {slo : Slo}
    {results : List Generated} :
    (generator.generate calculate (request.only slo)).result = .ok results ↔
      ∃ result,
        generator.generateOne calculate request slo = .ok result ∧
          results = [result] := by
  have sameJob : generator.jobFor (request.only slo) slo = generator.jobFor request slo := rfl
  rw [generate_eq_ok_iff_succeed]
  constructor
  · rintro ⟨_, jobs, last, made, succeed⟩
    obtain ⟨job, others, isJob, rest, rfl⟩ := List.forall₂_cons_left_iff.mp made
    cases rest
    rcases succeed with _ | ⟨here, ⟨⟩⟩
    refine ⟨_, Attempt.bind_eq_ok_iff.mpr ⟨job, isJob, ?_⟩, rfl⟩
    exact congrArg Prod.snd here
  · rintro ⟨result, made, rfl⟩
    obtain ⟨job, isJob, isDone⟩ := Attempt.bind_eq_ok_iff.mp made
    refine
      ⟨⟨List.cons_ne_nil _ _, List.nodup_singleton _⟩, [job],
        (job.run request.origin calculate {}).1, .cons isJob .nil, .cons ?_ (.nil _)⟩
    rw [← isDone]
    rfl

/-- An objective whose chain is one plugin. -/
def chainedSlo (name plugin : String) : Slo where
  id := name
  name := name
  service := "shop"
  indicator := ⟨some "errors", none⟩
  period := ⟨2592000000000⟩
  objective := .whole 99
  chain := ⟨[⟨.text plugin, .null, 0⟩], true⟩

/-- A processor of the host that cancels the context, and fails where that has been done. -/
def runOnce : HostProcess := fun _ _ context slo rules =>
  if context.cancelled then
    { context, slo, rules, failure := some (.fault .runtime "cancelled") }
  else { context := { context with cancelled := true }, slo, rules }

/-- The plugin of this processor. -/
def once : Plugin :=
  .host "once" fun _ => .ok (some (.host runOnce))

/-- A generator with some plugins and no standard processors. -/
def ofPlugins (plugins : List Plugin) : Generator where
  standard := []
  plugins := some fun name => plugins.find? fun plugin => plugin.id = name

/-- The same alerts for every objective. -/
def sameAlerts : AlertCalculation :=
  let alert : BurnAlert :=
    ⟨"alert", ⟨300000000⟩, ⟨3600000000⟩, .whole 14, .whole 1, .page⟩
  fun _ _ _ => .ok ⟨alert, alert, alert, alert⟩

/-- A plugin that changes the objective, its rules and what the objectives share. -/
def meddler : Script where
  id := "meddler"
  actions :=
    [.setValue "seen", .cancel, .labelSlo "team" (.text "red"),
      .addRule .errorRatio { record := "errors", expression := "1" },
      .setLabel .errorRatio "team" (.text "blue"), .rename .alerts "alarms"]

/-- An objective that only the meddler processes. -/
def meddledSlo (name : String) : Slo :=
  chainedSlo name "meddler"

end Generator

end ServiceLevel
