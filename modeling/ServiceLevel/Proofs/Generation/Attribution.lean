import ServiceLevel.Proofs.Generation.Independence
import ServiceLevel.Proofs.Generation.Processors

/-!
# The attribution of failures

A generation has many places where it can fail, and each failure tells where it
comes from.  A group that is not well formed, an objective that cannot be copied and
a processor that cannot be made are found before any objective is processed.  After
that the first objective that fails is named, by the identifier that it has then, with
the failure of its alerts or of its first failing processor as the cause, and nothing
behind that processor has any part in what happened.

The main statement follows the generation through these places.  Two of them are not
guarded: the failure of copying a config leaves the generation as it is, and so does
the fault of an entry whose identifier is a list or a map.
-/

namespace ServiceLevel

/-! ## Processors that cannot be made -/

/-- A value that can be looked up, as no list and no map can. -/
structure Json.IsKey (value : Json) : Prop where
  noArray : ∀ items, value ≠ .array items
  noObject : ∀ fields, value ≠ .object fields

instance (value : Json) : Decidable value.IsKey :=
  match value with
  | .array items => isFalse fun isKey => isKey.noArray items rfl
  | .object fields => isFalse fun isKey => isKey.noObject fields rfl
  | .null | .bool _ | .number _ | .text _ => isTrue (by constructor <;> simp)

/-- A plugin that makes no processor has a config at fault. -/
theorem NamedProcessor.kind_of_make
    {accepts : String → Bool}
    {plugin : Plugin}
    {config : Setting}
    {failure : Failure}
    (failed : make accepts plugin config = .error failure) :
    failure.kind = .configuration := by
  simp only [make] at failed
  split at failed
  · cases failed
    rfl
  · split at failed
    · cases failed
      rfl
    · cases failed
      rfl
    · cases failed

theorem Chain.mem_merge
    {group own : Chain}
    {app : List ChainEntry}
    {entry : ChainEntry}
    (member : entry ∈ merge group own app) :
    entry ∈ app ++ group.entries ++ own.entries := by
  rw [merge, sortEntries, List.mem_mergeSort] at member
  split at member
  · exact List.mem_append_right _ member
  · exact member

namespace Generator

/-- An identifier is not resolved if no plugin has it, or if it cannot be looked up. -/
theorem resolve_eq_error
    {generator : Generator}
    {id : Json}
    {failure : Failure}
    (failed : generator.resolve id = .error failure) :
    (id.IsKey ∧ failure = .notFound id) ∨
      ¬ id.IsKey ∧ failure = Shipped.unhashable id := by
  cases id with
  | text name =>
      simp only [resolve] at failed
      split at failed
      · cases failed
      · split at failed
        · cases failed
        · cases failed
          exact Or.inl ⟨by constructor <;> simp, rfl⟩
  | array items =>
      cases failed
      exact Or.inr ⟨fun isKey => isKey.noArray items rfl, rfl⟩
  | object fields =>
      cases failed
      exact Or.inr ⟨fun isKey => isKey.noObject fields rfl, rfl⟩
  | null =>
      cases failed
      exact Or.inl ⟨by constructor <;> simp, rfl⟩
  | bool value =>
      cases failed
      exact Or.inl ⟨by constructor <;> simp, rfl⟩
  | number value =>
      cases failed
      exact Or.inl ⟨by constructor <;> simp, rfl⟩

/-- What an entry without a processor fails with: for want of its plugin or for its config, or
because its identifier cannot be looked up. -/
def EntryFailure (entry : ChainEntry) (failure : Failure) : Prop :=
  failure = .notFound entry.id ∨ failure.kind = .configuration ∨
    ¬ entry.id.IsKey ∧ failure = Shipped.unhashable entry.id

theorem processorOf_eq_error
    {generator : Generator}
    {entry : ChainEntry}
    {failure : Failure}
    (failed : generator.processorOf entry = .error failure) :
    EntryFailure entry failure := by
  rcases Attempt.bind_eq_error_iff.mp failed with
    unresolved | ⟨plugin, _, unmade⟩
  · rcases resolve_eq_error unresolved with ⟨_, isNotFound⟩ | isUnhashable
    · exact Or.inl isNotFound
    · exact Or.inr (Or.inr isUnhashable)
  · exact Or.inr (Or.inl (NamedProcessor.kind_of_make unmade))

theorem exists_of_processorsOf_eq_error
    {generator : Generator}
    {entries : List ChainEntry}
    {failure : Failure}
    (failed : generator.processorsOf entries = .error failure) :
    ∃ entry ∈ entries, generator.processorOf entry = .error failure := by
  rw [processorsOf_eq_mapM] at failed
  obtain ⟨before, entry, after, _, split, _, here⟩ :=
    Attempt.exists_of_mapM_eq_error failed
  refine ⟨entry, ?_, here⟩
  rw [split]
  exact List.mem_append_right _ List.mem_cons_self

/-- Processors of an objective cannot be made if that of one of its entries cannot. -/
theorem exists_of_processorsFor_eq_error
    {generator : Generator}
    {group : SloGroup}
    {slo : Slo}
    {failure : Failure}
    (failed : generator.processorsFor group slo = .error failure) :
    ∃ entry ∈ Chain.merge group.chain slo.chain generator.appEntries,
      generator.processorOf entry = .error failure := by
  rcases Attempt.bind_eq_error_iff.mp failed with
    inFront | ⟨firsts, _, continued⟩
  · obtain ⟨entry, member, here⟩ := exists_of_processorsOf_eq_error inFront
    exact ⟨entry, (List.mem_filter.mp member).1, here⟩
  · rcases Attempt.bind_eq_error_iff.mp continued with
      behind | ⟨lasts, _, impossible⟩
    · obtain ⟨entry, member, here⟩ := exists_of_processorsOf_eq_error behind
      exact ⟨entry, (List.mem_filter.mp member).1, here⟩
    · cases impossible

end Generator

/-! ## Jobs that fail -/

namespace Job

section

variable (origin : Origin) (calculate : AlertCalculation)

/--
The failure of a job: the steps that have run until then, what is shared
afterwards, the identifier that the objective has by then, and the cause.  Without
alerts no step runs; otherwise the last step that has run is the first that fails.
-/
inductive Fails (job : Job) (shared : Shared) :
    List NamedProcessor → Shared → String → Failure → Prop where
  | uncalculated {cause : Failure}
      (refused :
        calculate job.slo.id job.slo.objective job.slo.period = .error cause) :
      Fails job shared [] (shared.log (job.failedEvent cause)) job.slo.id cause
  | step {alerts : BurnAlerts} {passed : List NamedProcessor}
      {step : NamedProcessor} {stop : Progress} {cause : Failure}
      (calculated :
        calculate job.slo.id job.slo.objective job.slo.period = .ok alerts)
      (fails :
        FailsAt origin alerts (job.start shared) passed step stop cause) :
      Fails job shared
        (passed ++ [step])
        (stop.toShared.log (job.failedEvent (.processing step.id cause)))
        stop.slo.id
        (.processing step.id cause)

variable {origin calculate}

/-- A job that fails does so with the same outcome whatever steps are left behind. -/
theorem Fails.run_eq
    {job : Job}
    {proceedings : Proceedings}
    {reached : List NamedProcessor}
    {left : Shared}
    {sloId : String}
    {cause : Failure}
    (fails :
      job.Fails origin calculate proceedings.toShared reached left sloId cause)
    (behind : List NamedProcessor) :
    run origin calculate { job with steps := reached ++ behind } proceedings =
      ({ job.asked proceedings with toShared := left },
        .error (.generation sloId cause)) := by
  cases fails with
  | uncalculated refused =>
      let whole : Job := { job with steps := [] ++ behind }
      have refusedAlike :
          calculate whole.slo.id whole.slo.objective whole.slo.period = .error cause :=
        refused
      exact run_of_uncalculated refusedAlike proceedings
  | @step alerts passed step stop cause calculated failsAt =>
      let whole : Job := { job with steps := passed ++ [step] ++ behind }
      have calculatedAlike :
          calculate whole.slo.id whole.slo.objective whole.slo.period = .ok alerts :=
        calculated
      have stopped :
          runSteps origin alerts whole.steps (whole.start proceedings.toShared) =
            (stop, some (.processing step.id cause)) := by
        have ran := failsAt.runSteps_eq behind
        rw [← List.singleton_append, ← List.append_assoc] at ran
        exact ran
      exact run_of_failed calculatedAlike stopped

/-- Where the steps that have run let the identifier be, the failure names the objective by it. -/
theorem Fails.sloId_eq
    {job : Job}
    {shared left : Shared}
    {reached : List NamedProcessor}
    {sloId : String}
    {cause : Failure}
    (fails : job.Fails origin calculate shared reached left sloId cause)
    (keep : ∀ step ∈ reached, step.processor.KeepsId) :
    sloId = job.slo.id := by
  cases fails with
  | uncalculated refused => rfl
  | @step alerts passed step stop cause calculated failsAt =>
      have kept :
          (runSteps origin alerts (passed ++ [step]) (job.start shared)).1.slo.id =
            job.slo.id :=
        id_runSteps keep (job.start shared)
      rw [failsAt.runSteps_eq []] at kept
      exact kept

/-- A run of a job that fails has a cause, and steps that it has reached. -/
theorem exists_fails_of_run
    {job : Job}
    {proceedings last : Proceedings}
    {failure : Failure}
    (ran : job.run origin calculate proceedings = (last, .error failure)) :
    ∃ reached behind left sloId cause,
      job.steps = reached ++ behind ∧
        job.Fails origin calculate proceedings.toShared reached left sloId cause ∧
        failure = .generation sloId cause ∧
        last = { job.asked proceedings with toShared := left } := by
  obtain ⟨shared, ends, leaves⟩ := ends_of_run ran
  cases ends with
  | uncalculated refused =>
      exact ⟨[], job.steps, _, _, _, rfl, .uncalculated refused, rfl, leaves⟩
  | @failed alerts passed rest step stop cause calculated split fails =>
      refine
        ⟨passed ++ [step], rest, _, _, _, ?_, .step calculated fails, rfl,
          leaves⟩
      rw [split, List.append_assoc, List.singleton_append]

end

end Job

/-! ## Generations that stop -/

namespace Generator

/-- All entries that a generation makes processors of. -/
def entries
    (generator : Generator)
    (request : GenerationRequest) : List ChainEntry :=
  generator.appEntries ++ request.group.chain.entries ++
    request.group.slos.flatMap fun slo => slo.chain.entries

/-- Why an objective has no job: it cannot be copied, or one of the entries for it fails. -/
inductive WithoutJob
    (generator : Generator)
    (request : GenerationRequest)
    (slo : Slo)
    (failure : Failure) : Prop where
  | uncopied
      (fails : slo.chain.copyFailure? = some failure)
  | refused
      {entry : ChainEntry}
      (copied : slo.chain.copyFailure? = none)
      (member :
        entry ∈ Chain.merge request.group.chain slo.chain generator.appEntries)
      (fails : generator.processorOf entry = .error failure)
      (isOf : EntryFailure entry failure)

/-- An objective without a job, where those in front of it have theirs. -/
structure Unmade
    (generator : Generator)
    (request : GenerationRequest)
    (failure : Failure) where
  before : List Slo
  slo : Slo
  after : List Slo
  order : request.group.slos = before ++ slo :: after
  jobs : List Job
  earlier :
    List.Forall₂
      (fun other job => generator.jobFor request other = .ok job)
      before jobs
  fails : generator.jobFor request slo = .error failure
  reason : generator.WithoutJob request slo failure

/--
A generation that stops at an objective: those in front of it are generated, the
steps of its own are run up to the first that fails, and for this cause it fails.
-/
structure Stop
    (generator : Generator)
    (calculate : AlertCalculation)
    (request : GenerationRequest) where
  before : List Slo
  slo : Slo
  after : List Slo
  order : request.group.slos = before ++ slo :: after
  /-- The jobs of the objectives in front, of this one, and of those behind it. -/
  done : List Job
  job : Job
  later : List Job
  prepared : generator.prepare request = .ok (done ++ job :: later)
  isJob : generator.jobFor request slo = .ok job
  /-- What the objectives in front result in, and what they leave. -/
  results : List Generated
  middle : Proceedings
  succeed : Job.Succeed request.origin calculate done {} middle results
  /-- The steps of this objective that are run, and those that are not. -/
  reached : List NamedProcessor
  behind : List NamedProcessor
  steps : job.steps = reached ++ behind
  left : Shared
  /-- The identifier that the objective has by then. -/
  sloId : String
  cause : Failure
  fails :
    job.Fails request.origin calculate middle.toShared reached left sloId cause

/-- What a generation that stops has asked for and left, and its failure. -/
def Stop.outcome
    {generator : Generator}
    {calculate : AlertCalculation}
    {request : GenerationRequest}
    (stop : Stop generator calculate request) : GenerationOutcome where
  proceedings :=
    { toShared := stop.left
      calculations :=
        (stop.before ++ [stop.slo]).map fun slo =>
          (slo.id, slo.objective, slo.period) }
  result := .error (.generation stop.sloId stop.cause)

/-- The failure of a stop names its objective, where no step has changed the identifier. -/
theorem Stop.sloId_eq
    {generator : Generator}
    {calculate : AlertCalculation}
    {request : GenerationRequest}
    (stop : Stop generator calculate request)
    (keep : ∀ step ∈ stop.reached, step.processor.KeepsId) :
    stop.sloId = stop.slo.id := by
  rw [stop.fails.sloId_eq keep, slo_of_jobFor stop.isJob]
  rfl

theorem calculation_of_jobFor
    {generator : Generator}
    {request : GenerationRequest}
    {slo : Slo}
    {job : Job}
    (made : generator.jobFor request slo = .ok job) :
    job.calculation = (slo.id, slo.objective, slo.period) := by
  rw [Job.calculation, slo_of_jobFor made]
  rfl

theorem calculations_of_jobs
    {generator : Generator}
    {request : GenerationRequest}
    {slos : List Slo}
    {jobs : List Job}
    (made :
      List.Forall₂
        (fun slo job => generator.jobFor request slo = .ok job) slos jobs) :
    jobs.map Job.calculation =
      slos.map fun slo => (slo.id, slo.objective, slo.period) := by
  induction made with
  | nil => rfl
  | cons here there ih =>
      rw [List.map_cons, List.map_cons, ih, calculation_of_jobFor here]

theorem withoutJob_of_jobFor
    {generator : Generator}
    {request : GenerationRequest}
    {slo : Slo}
    {failure : Failure}
    (failed : generator.jobFor request slo = .error failure) :
    generator.WithoutJob request slo failure := by
  rcases jobFor_eq_error_iff.mp failed with uncopied | ⟨copied, refused⟩
  · exact .uncopied uncopied
  · obtain ⟨entry, member, fails⟩ := exists_of_processorsFor_eq_error refused
    exact .refused copied member fails (processorOf_eq_error fails)

/-- Jobs of a request that cannot be made fail at an objective of it. -/
theorem exists_unmade
    {generator : Generator}
    {request : GenerationRequest}
    {failure : Failure}
    (failed : generator.jobs request request.group.slos = .error failure) :
    Nonempty (generator.Unmade request failure) := by
  rw [jobs_eq_mapM] at failed
  obtain ⟨before, slo, after, jobs, order, made, fails⟩ :=
    Attempt.exists_of_mapM_eq_error failed
  exact
    ⟨{ before, slo, after, order, jobs, fails
       earlier := Attempt.mapM_eq_ok_iff.mp made
       reason := withoutJob_of_jobFor fails }⟩

/-- A run of the jobs of a request that fails is a stop at an objective of it. -/
theorem exists_stop
    {generator : Generator}
    {calculate : AlertCalculation}
    {request : GenerationRequest}
    {jobs : List Job}
    {last : Proceedings}
    {failure : Failure}
    (prepared : generator.prepare request = .ok jobs)
    (failed :
      Job.runAll request.origin calculate jobs {} = (last, .error failure)) :
    ∃ stop : Stop generator calculate request,
      stop.outcome = { proceedings := last, result := .error failure } ∧
        ∀ behind later,
          Job.runAll request.origin calculate
              (stop.done ++
                { stop.job with steps := stop.reached ++ behind } :: later)
              {} =
            (last, .error failure) := by
  obtain ⟨done, job, later, middle, results, split, ran, jobFailed⟩ :=
    Job.exists_of_runAll_eq_error failed
  obtain
    ⟨reached, behind, left, sloId, cause, steps, fails, isGeneration, leaves⟩ :=
    Job.exists_fails_of_run jobFailed
  obtain ⟨_, _, jobsMade⟩ := Attempt.bind_eq_ok_iff.mp prepared
  rw [jobs_eq_mapM, split] at jobsMade
  obtain ⟨before, slo, after, order, madeInFront, isJob, madeBehind⟩ :=
    Attempt.exists_split_of_forall₂ (Attempt.mapM_eq_ok_iff.mp jobsMade)
  let stop : Stop generator calculate request :=
    { before, slo, after, order, done, job, later, isJob, results, middle,
      reached, behind, steps, left, sloId, cause, fails
      succeed := Job.runAll_eq_ok_iff.mp ran
      prepared := by rw [prepared, split] }
  have leftOver : stop.outcome.proceedings = last := by
    have asked := Job.calculations_runAll ran
    rw [calculations_of_jobs madeInFront] at asked
    rw [leaves, Job.asked, asked]
    simp only [Stop.outcome, stop, List.map_append, List.map_cons,
      List.map_nil, List.nil_append]
    rw [← calculation_of_jobFor isJob]
    rfl
  refine ⟨stop, ?_, ?_⟩
  · rw [isGeneration, ← leftOver]
    rfl
  · intro others afterwards
    have stopped :
        Job.run request.origin calculate
            { job with steps := reached ++ others } middle =
          (last, .error failure) := by
      rw [isGeneration, leaves]
      exact fails.run_eq others
    exact Job.runAll_eq_error ran stopped afterwards

theorem mem_entries_of_mem_merge
    {generator : Generator}
    {request : GenerationRequest}
    {slo : Slo}
    (isOne : slo ∈ request.group.slos)
    {entry : ChainEntry}
    (member :
      entry ∈
        Chain.merge request.group.chain slo.chain generator.appEntries) :
    entry ∈ generator.entries request := by
  rcases List.mem_append.mp (Chain.mem_merge member) with shared | own
  · exact List.mem_append_left _ shared
  · exact
      List.mem_append_right _
        (List.mem_flatMap.mpr ⟨slo, isOne, own⟩)

/--
The attribution of failures.  A generation has one result for each objective in
their order, each made from what those in front have left; or it fails in one of three
ways.  The group is not well formed; or an objective has no job, because it cannot be
copied or because one of its plugins is not found or refuses its config, and nothing is
processed; or it stops at the first objective that fails, for the cause and at the step
that the stop records, whatever steps and objectives are behind.  Then it names the
identifier that the objective has by that time, which is its own if no step that has run
changes it.
-/
theorem generate_attribution
    (generator : Generator)
    (calculate : AlertCalculation)
    (request : GenerationRequest) :
    (∃ jobs last results,
      generator.generate calculate request =
          { proceedings := last, result := .ok results } ∧
        List.Forall₂ (fun slo job => generator.jobFor request slo = .ok job)
          request.group.slos jobs ∧
        Job.Succeed request.origin calculate jobs {} last results) ∨
      (∃ failure,
        generator.generate calculate request = { result := .error failure } ∧
          failure.kind = .validation ∧
          (request.group.slos = [] ∨
            ¬ (request.group.slos.map Slo.id).Nodup)) ∨
      (∃ (failure : Failure) (_ : generator.Unmade request failure),
        generator.generate calculate request = { result := .error failure }) ∨
      ∃ stop : Stop generator calculate request,
        generator.generate calculate request = stop.outcome ∧
          ((∀ step ∈ stop.reached, step.processor.KeepsId) →
            stop.sloId = stop.slo.id) ∧
          ∀ behind later,
            Job.runAll request.origin calculate
                (stop.done ++
                  { stop.job with steps := stop.reached ++ behind } :: later)
                {} =
              (stop.outcome.proceedings, stop.outcome.result) := by
  rcases prepared : generator.prepare request with failure | jobs
  · have generated :
        generator.generate calculate request = { result := .error failure } :=
      generate_of_unprepared prepared
    rcases Attempt.bind_eq_error_iff.mp prepared with
      invalid | ⟨_, _, unprepared⟩
    · have malformed :
          request.group.slos = [] ∨
            ¬ (request.group.slos.map Slo.id).Nodup := by
        by_contra! wellFormed
        rw [SloGroup.validate_eq_ok_iff.mpr wellFormed] at invalid
        cases invalid
      exact
        Or.inr (Or.inl
          ⟨failure, generated, SloGroup.kind_of_validate invalid, malformed⟩)
    · obtain ⟨unmade⟩ := exists_unmade unprepared
      exact Or.inr (Or.inr (Or.inl ⟨failure, unmade, generated⟩))
  · rcases ran : Job.runAll request.origin calculate jobs {} with
      ⟨last, failure | results⟩
    · have generated :
          generator.generate calculate request =
            { proceedings := last, result := .error failure } := by
        simp only [generate, prepared, ran]
      obtain ⟨stop, same, whatever⟩ := exists_stop prepared ran
      refine Or.inr (Or.inr (Or.inr ⟨stop, ?_, stop.sloId_eq, ?_⟩))
      · rw [generated, same]
      · rw [same]
        exact whatever
    · have generated :
          generator.generate calculate request =
            { proceedings := last, result := .ok results } := by
        simp only [generate, prepared, ran]
      obtain ⟨_, _, jobsMade⟩ := Attempt.bind_eq_ok_iff.mp prepared
      rw [jobs_eq_mapM] at jobsMade
      exact
        Or.inl
          ⟨jobs, last, results, generated, Attempt.mapM_eq_ok_iff.mp jobsMade,
            Job.runAll_eq_ok_iff.mp ran⟩

/-- A plugin that fails with a fault of its own. -/
def faulty : Script where
  id := "faulty"
  actions := [.setValue "seen", .fail (.fault .key "no such key")]

/-- The failure of copying a value that cannot be copied. -/
def uncopiedLock : Failure :=
  .fault .type "cannot pickle '_thread.lock' object"

/-- A generator with two plugins, one of which fails. -/
def faultyGenerator : Generator :=
  ofPlugins [.scripted meddler, .scripted faulty]

/-- A request for three objectives, of which the second has the plugin that fails. -/
def faultyRequest : GenerationRequest where
  group :=
    ⟨[chainedSlo "orders" "meddler", chainedSlo "search" "faulty",
      chainedSlo "basket" "meddler"], {}⟩

/-- A request for an objective whose chain is one entry. -/
def entryRequest (entry : ChainEntry) : GenerationRequest where
  group := ⟨[{ chainedSlo "orders" "meddler" with chain := ⟨[entry], true⟩ }], {}⟩

/--
A generation stops at the first objective that fails.  One with a config that cannot be copied
ends with the failure of copying it, and one with a list for an identifier with that of looking
it up: neither is a failure of the library.
-/
theorem generate_attribution_of_faulty :
    ∃ stop : Stop faultyGenerator sameAlerts faultyRequest,
      stop.outcome.result =
          .error
            (.generation "search"
              (.processing "faulty" (.fault .key "no such key"))) ∧
        faultyGenerator.generate sameAlerts
            (entryRequest ⟨.text "meddler", .foreign "lock" (some uncopiedLock), 0⟩) =
          { result := .error uncopiedLock } ∧
        faultyGenerator.generate sameAlerts
            (entryRequest ⟨.array [.text "meddler"], .null, 0⟩) =
          { result := .error (.fault .type "unhashable type: 'list'") } := by
  have generated :
      (faultyGenerator.generate sameAlerts faultyRequest).result =
        .error
          (.generation "search"
            (.processing "faulty" (.fault .key "no such key"))) := by
    decide +kernel
  have uncopied :
      (faultyGenerator.prepare
          (entryRequest ⟨.text "meddler", .foreign "lock" (some uncopiedLock), 0⟩)).map
            (fun _ => ()) =
        .error uncopiedLock := by
    decide +kernel
  have unhashable :
      (faultyGenerator.prepare
          (entryRequest ⟨.array [.text "meddler"], .null, 0⟩)).map (fun _ => ()) =
        .error (.fault .type "unhashable type: 'list'") := by
    decide +kernel
  rcases generate_attribution faultyGenerator sameAlerts faultyRequest with
    ⟨jobs, last, results, succeeded, _⟩ | ⟨failure, refused, isValidation, _⟩ |
      ⟨failure, unmade, refused⟩ | ⟨stop, stopped, _⟩
  · rw [succeeded] at generated
    cases generated
  · rw [refused] at generated
    cases generated
    cases isValidation
  · rw [refused] at generated
    cases generated
    rcases unmade.reason with notCopied | ⟨_, _, _, notFound | isConfiguration | ⟨_, isFault⟩⟩
    · have copied : ∀ slo ∈ faultyRequest.group.slos, slo.chain.copyFailure? = none := by
        decide +kernel
      have isOne : unmade.slo ∈ faultyRequest.group.slos := by
        rw [unmade.order]
        exact List.mem_append_right _ List.mem_cons_self
      rw [copied unmade.slo isOne] at notCopied
      cases notCopied
    · cases congrArg Failure.kind notFound
    · cases isConfiguration
    · cases congrArg Failure.kind isFault
  · refine
      ⟨stop, ?_, generate_of_unprepared (Attempt.map_eq_error_iff.mp uncopied),
        generate_of_unprepared (Attempt.map_eq_error_iff.mp unhashable)⟩
    rw [← stopped, generated]

end Generator

end ServiceLevel
