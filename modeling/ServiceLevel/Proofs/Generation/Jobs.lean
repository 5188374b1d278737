import ServiceLevel.Proofs.Attempt
import ServiceLevel.Proofs.Generation.Steps

/-!
# Jobs and runs of jobs

The generation of one objective ends in one of three ways: its alerts cannot be
calculated, one of its steps fails, or all of them pass.  The failure and the names of
the groups then tell the identifier that the objective has by that time.

A run of jobs hands the context on from one to the next.  Contexts that no step tells
apart lead to the same results, so that where the steps ignore the context a run of
jobs is a walk through what each job results in alone.
-/

namespace ServiceLevel.Job

/-! ## One job -/

section

variable (origin : Origin) (calculate : AlertCalculation)

/-- The ways in which a job ends: what it shares afterwards, and its result. -/
inductive Ends (job : Job) (shared : Shared) :
    Shared → Except Failure Generated → Prop where
  | uncalculated {cause : Failure}
      (refused :
        calculate job.slo.id job.slo.objective job.slo.period = .error cause) :
      Ends job shared
        (shared.log (job.failedEvent cause))
        (.error (.generation job.slo.id cause))
  | failed {alerts : BurnAlerts} {passed rest : List NamedProcessor}
      {step : NamedProcessor} {stop : Progress} {cause : Failure}
      (calculated :
        calculate job.slo.id job.slo.objective job.slo.period = .ok alerts)
      (split : job.steps = passed ++ step :: rest)
      (fails :
        FailsAt origin alerts (job.start shared) passed step stop cause) :
      Ends job shared
        (stop.toShared.log (job.failedEvent (.processing step.id cause)))
        (.error (.generation stop.slo.id (.processing step.id cause)))
  | done {alerts : BurnAlerts} {stop : Progress}
      (calculated :
        calculate job.slo.id job.slo.objective job.slo.period = .ok alerts)
      (passes : Passes origin alerts job.steps (job.start shared) stop) :
      Ends job shared
        (stop.toShared.log (job.doneEvent (stop.rules.withNames stop.slo.id)))
        (.ok ⟨stop.slo, stop.rules.withNames stop.slo.id⟩)

/-- What a job results in on its own. -/
def outcome (job : Job) : Except Failure Generated :=
  (job.run origin calculate {}).2

variable {origin calculate}

theorem run_of_uncalculated
    {job : Job}
    {cause : Failure}
    (refused :
      calculate job.slo.id job.slo.objective job.slo.period = .error cause)
    (proceedings : Proceedings) :
    job.run origin calculate proceedings =
      job.failed job.slo.id cause (job.asked proceedings) := by
  simp only [run, refused]

theorem run_of_failed
    {job : Job}
    {proceedings : Proceedings}
    {alerts : BurnAlerts}
    {stop : Progress}
    {cause : Failure}
    (calculated :
      calculate job.slo.id job.slo.objective job.slo.period = .ok alerts)
    (ran :
      runSteps origin alerts job.steps (job.start proceedings.toShared) =
        (stop, some cause)) :
    job.run origin calculate proceedings =
      job.failed stop.slo.id cause
        { job.asked proceedings with toShared := stop.toShared } := by
  have sameShared : (job.asked proceedings).toShared = proceedings.toShared := rfl
  simp only [run, calculated, sameShared, ran]

theorem run_of_passed
    {job : Job}
    {proceedings : Proceedings}
    {alerts : BurnAlerts}
    {stop : Progress}
    (calculated :
      calculate job.slo.id job.slo.objective job.slo.period = .ok alerts)
    (ran :
      runSteps origin alerts job.steps (job.start proceedings.toShared) =
        (stop, none)) :
    job.run origin calculate proceedings =
      ({ job.asked proceedings with
          toShared :=
            stop.toShared.log
              (job.doneEvent (stop.rules.withNames stop.slo.id)) },
        .ok ⟨stop.slo, stop.rules.withNames stop.slo.id⟩) := by
  have sameShared : (job.asked proceedings).toShared = proceedings.toShared := rfl
  simp only [run, calculated, sameShared, ran]

/-- A job asks for its alerts and then ends in one of the three ways. -/
theorem ends_of_run
    {job : Job}
    {proceedings last : Proceedings}
    {result : Except Failure Generated}
    (ran : job.run origin calculate proceedings = (last, result)) :
    ∃ shared,
      job.Ends origin calculate proceedings.toShared shared result ∧
        last = { job.asked proceedings with toShared := shared } := by
  rcases calculated :
      calculate job.slo.id job.slo.objective job.slo.period with cause | alerts
  · rw [run_of_uncalculated calculated] at ran
    cases ran
    exact ⟨_, .uncalculated calculated, rfl⟩
  · rcases stepsRan :
        runSteps origin alerts job.steps (job.start proceedings.toShared) with
      ⟨stop, _ | failure⟩
    · rw [run_of_passed calculated stepsRan] at ran
      cases ran
      have passes := runSteps_eq_none_iff.mp stepsRan
      exact ⟨_, .done calculated passes, rfl⟩
    · rw [run_of_failed calculated stepsRan] at ran
      cases ran
      obtain ⟨passed, step, rest, cause, split, fails, rfl⟩ :=
        exists_failsAt_of_runSteps stepsRan
      exact ⟨_, .failed calculated split fails, rfl⟩

/-! ## Contexts that a job does not tell apart -/

/-- All steps of a job respect a relation of contexts. -/
def Respects (related : Context → Context → Prop) (job : Job) : Prop :=
  ∀ step ∈ job.steps, step.processor.Respects related

/-- All steps of a job ignore the context. -/
def IgnoresContext (job : Job) : Prop :=
  ∀ step ∈ job.steps, step.processor.IgnoresContext

/-- In related contexts a job has the same result, and leaves related contexts. -/
theorem run_agrees
    {related : Context → Context → Prop}
    {job : Job}
    (respects : job.Respects related)
    {left right : Proceedings}
    (contexts : related left.context right.context) :
    (job.run origin calculate left).2 = (job.run origin calculate right).2 ∧
      related (job.run origin calculate left).1.context
        (job.run origin calculate right).1.context := by
  rcases calculated :
      calculate job.slo.id job.slo.objective job.slo.period with cause | alerts
  · rw [run_of_uncalculated calculated, run_of_uncalculated calculated]
    exact ⟨rfl, contexts⟩
  · have start :
        (job.start left.toShared).Agrees related (job.start right.toShared) :=
      ⟨rfl, rfl, contexts⟩
    have agree := runSteps_agrees origin alerts respects start
    rcases here :
        runSteps origin alerts job.steps (job.start left.toShared) with
      ⟨stop, _ | failure⟩ <;>
      rcases there :
        runSteps origin alerts job.steps (job.start right.toShared) with
        ⟨otherStop, _ | otherFailure⟩ <;>
      rw [here, there] at agree
    · rw [run_of_passed calculated here, run_of_passed calculated there,
        agree.progress.slo, agree.progress.rules]
      exact ⟨rfl, agree.progress.context⟩
    · cases agree.failure
    · cases agree.failure
    · cases agree.failure
      rw [run_of_failed calculated here, run_of_failed calculated there,
        agree.progress.slo]
      exact ⟨rfl, agree.progress.context⟩

/-- If its steps ignore the context, what came before a job has no influence on its result. -/
theorem run_snd
    {job : Job}
    (ignores : job.IgnoresContext)
    (proceedings : Proceedings) :
    (job.run origin calculate proceedings).2 =
      job.outcome origin calculate :=
  (run_agrees ignores trivial).1

/-- Where the steps of an objective start on its own. -/
def begun (slo : Slo) : Progress :=
  start ⟨slo, []⟩ ({} : Proceedings).toShared

/-- What an objective results in where its steps have run. -/
def ended : Progress × Option Failure → Except Failure Generated
  | (stop, some cause) => .error (.generation stop.slo.id cause)
  | (stop, none) => .ok ⟨stop.slo, stop.rules.withNames stop.slo.id⟩

theorem outcome_of_uncalculated
    {slo : Slo}
    {cause : Failure}
    (refused : calculate slo.id slo.objective slo.period = .error cause)
    (steps : List NamedProcessor) :
    outcome origin calculate ⟨slo, steps⟩ = .error (.generation slo.id cause) := by
  rw [outcome, run_of_uncalculated refused]
  rfl

theorem outcome_of_calculated
    {slo : Slo}
    {alerts : BurnAlerts}
    (calculated : calculate slo.id slo.objective slo.period = .ok alerts)
    (steps : List NamedProcessor) :
    outcome origin calculate ⟨slo, steps⟩ =
      ended (runSteps origin alerts steps (begun slo)) := by
  rcases ran : runSteps origin alerts steps (begun slo) with ⟨stop, _ | cause⟩
  · rw [outcome, run_of_passed calculated ran]
    rfl
  · rw [outcome, run_of_failed calculated ran]
    rfl

/-! ## Runs of jobs -/

/-- In related contexts a run of jobs has the same results. -/
theorem runAll_agrees
    {related : Context → Context → Prop}
    {jobs : List Job}
    (respect : ∀ job ∈ jobs, job.Respects related)
    {left right : Proceedings}
    (contexts : related left.context right.context) :
    (runAll origin calculate jobs left).2 =
      (runAll origin calculate jobs right).2 := by
  induction jobs generalizing left right with
  | nil => rfl
  | cons job rest ih =>
      have ⟨respects, restRespect⟩ := List.forall_mem_cons.mp respect
      have ⟨sameResult, nextContexts⟩ :
          (job.run origin calculate left).2 = (job.run origin calculate right).2 ∧
            related (job.run origin calculate left).1.context
              (job.run origin calculate right).1.context :=
        run_agrees respects contexts
      rw [runAll, runAll]
      rcases here : job.run origin calculate left with ⟨next, failure | first⟩ <;>
        rcases there : job.run origin calculate right with
          ⟨otherNext, otherFailure | otherFirst⟩ <;>
        rw [here, there] at sameResult nextContexts <;>
        cases sameResult
      · rfl
      · have others := ih restRespect nextContexts
        rcases behind : runAll origin calculate rest next with
          ⟨last, failure | results⟩ <;>
          rcases otherBehind : runAll origin calculate rest otherNext with
            ⟨otherLast, otherFailure | otherResults⟩ <;>
          rw [behind, otherBehind] at others <;>
          cases others <;>
          simp only [behind, otherBehind]

theorem runAll_snd
    {jobs : List Job}
    (ignore : ∀ job ∈ jobs, job.IgnoresContext)
    (proceedings : Proceedings) :
    (runAll origin calculate jobs proceedings).2 =
      jobs.mapM (outcome origin calculate) := by
  induction jobs generalizing proceedings with
  | nil => rfl
  | cons job rest ih =>
      have ⟨ignores, restIgnore⟩ := List.forall_mem_cons.mp ignore
      rw [Attempt.mapM_cons_eq, ← run_snd ignores proceedings, runAll]
      rcases job.run origin calculate proceedings with
        ⟨next, failure | first⟩
      · rfl
      · have others := ih restIgnore next
        rcases ran : runAll origin calculate rest next with
          ⟨last, failure | results⟩ <;>
          rw [ran] at others <;>
          simp only [ran, ← others] <;>
          rfl

theorem runAll_cons_eq_ok_iff
    {first : Job}
    {rest : List Job}
    {proceedings last : Proceedings}
    {results : List Generated} :
    runAll origin calculate (first :: rest) proceedings = (last, .ok results) ↔
      ∃ next made others,
        first.run origin calculate proceedings = (next, .ok made) ∧
          runAll origin calculate rest next = (last, .ok others) ∧
          results = made :: others := by
  rw [runAll]
  rcases first.run origin calculate proceedings with ⟨next, failure | made⟩
  · simp
  · rcases restRun : runAll origin calculate rest next with
      ⟨stop, failure | others⟩
    · simp [restRun]
    · simp only [restRun]
      constructor
      · intro same
        cases same
        exact ⟨next, made, others, rfl, restRun, rfl⟩
      · rintro ⟨_, _, _, same, again, rfl⟩
        cases same
        rw [restRun] at again
        cases again
        rfl

theorem runAll_cons_eq_error_iff
    {first : Job}
    {rest : List Job}
    {proceedings last : Proceedings}
    {failure : Failure} :
    runAll origin calculate (first :: rest) proceedings =
        (last, .error failure) ↔
      first.run origin calculate proceedings = (last, .error failure) ∨
        ∃ next made,
          first.run origin calculate proceedings = (next, .ok made) ∧
            runAll origin calculate rest next = (last, .error failure) := by
  rw [runAll]
  rcases first.run origin calculate proceedings with ⟨next, other | made⟩
  · simp
  · rcases restRun : runAll origin calculate rest next with
      ⟨stop, other | others⟩
    · simp only [restRun]
      constructor
      · intro same
        cases same
        exact Or.inr ⟨next, made, rfl, restRun⟩
      · rintro (impossible | ⟨_, _, same, again⟩)
        · cases impossible
        · cases same
          rw [restRun] at again
          exact again
    · simp [restRun]

/-- A run of jobs that fails does so at one of them, and those in front succeed. -/
theorem exists_of_runAll_eq_error
    {jobs : List Job}
    {proceedings last : Proceedings}
    {failure : Failure}
    (ran :
      runAll origin calculate jobs proceedings = (last, .error failure)) :
    ∃ before job after middle results,
      jobs = before ++ job :: after ∧
        runAll origin calculate before proceedings = (middle, .ok results) ∧
        job.run origin calculate middle = (last, .error failure) := by
  induction jobs generalizing proceedings with
  | nil => cases ran
  | cons first rest ih =>
      rcases runAll_cons_eq_error_iff.mp ran with
        here | ⟨next, made, firstRun, restRun⟩
      · exact ⟨[], first, rest, proceedings, [], rfl, rfl, here⟩
      · obtain ⟨before, job, after, middle, results, split, earlier, failed⟩ :=
          ih restRun
        refine
          ⟨first :: before, job, after, middle, made :: results, ?_, ?_,
            failed⟩
        · rw [split, List.cons_append]
        · exact
            runAll_cons_eq_ok_iff.mpr
              ⟨next, made, results, firstRun, earlier, rfl⟩

/-- A run of jobs ends at one that fails, whatever jobs are behind it. -/
theorem runAll_eq_error
    {before : List Job}
    {job : Job}
    {proceedings middle last : Proceedings}
    {results : List Generated}
    {failure : Failure}
    (earlier :
      runAll origin calculate before proceedings = (middle, .ok results))
    (failed : job.run origin calculate middle = (last, .error failure))
    (after : List Job) :
    runAll origin calculate (before ++ job :: after) proceedings =
      (last, .error failure) := by
  induction before generalizing proceedings results with
  | nil =>
      cases earlier
      exact runAll_cons_eq_error_iff.mpr (Or.inl failed)
  | cons first rest ih =>
      obtain ⟨next, made, others, firstRun, restRun, _⟩ :=
        runAll_cons_eq_ok_iff.mp earlier
      exact
        runAll_cons_eq_error_iff.mpr
          (Or.inr ⟨next, made, firstRun, ih restRun⟩)

variable (origin calculate)

/-- Jobs that succeed one after another, each from what those in front of it have left. -/
inductive Succeed : List Job → Proceedings → Proceedings → List Generated → Prop where
  | nil (proceedings : Proceedings) : Succeed [] proceedings proceedings []
  | cons {job : Job} {rest : List Job} {first next last : Proceedings}
      {made : Generated} {others : List Generated}
      (here : job.run origin calculate first = (next, .ok made))
      (behind : Succeed rest next last others) :
      Succeed (job :: rest) first last (made :: others)

variable {origin calculate}

/-- A run of jobs succeeds exactly if they succeed one after another. -/
theorem runAll_eq_ok_iff
    {jobs : List Job}
    {first last : Proceedings}
    {results : List Generated} :
    runAll origin calculate jobs first = (last, .ok results) ↔
      Succeed origin calculate jobs first last results := by
  constructor
  · intro ran
    induction jobs generalizing first results with
    | nil =>
        cases ran
        exact .nil _
    | cons job rest ih =>
        obtain ⟨next, made, others, here, behind, rfl⟩ :=
          runAll_cons_eq_ok_iff.mp ran
        exact .cons here (ih behind)
  · intro succeed
    induction succeed with
    | nil proceedings => rfl
    | cons here behind ih =>
        exact runAll_cons_eq_ok_iff.mpr ⟨_, _, _, here, ih, rfl⟩

theorem Succeed.length_eq
    {jobs : List Job}
    {first last : Proceedings}
    {results : List Generated}
    (succeed : Succeed origin calculate jobs first last results) :
    results.length = jobs.length := by
  induction succeed with
  | nil proceedings => rfl
  | cons here behind ih => rw [List.length_cons, List.length_cons, ih]

/-- Jobs in two parts succeed if the first part does, and the second from there on. -/
theorem succeed_append_iff
    {jobs others : List Job}
    {first last : Proceedings}
    {results : List Generated} :
    Succeed origin calculate (jobs ++ others) first last results ↔
      ∃ middle front back,
        Succeed origin calculate jobs first middle front ∧
          Succeed origin calculate others middle last back ∧
          results = front ++ back := by
  induction jobs generalizing first results with
  | nil =>
      constructor
      · intro succeed
        exact ⟨first, [], results, .nil first, succeed, rfl⟩
      · rintro ⟨_, _, back, ⟨⟩, behind, rfl⟩
        exact behind
  | cons job rest ih =>
      constructor
      · rintro (_ | ⟨here, behind⟩)
        obtain ⟨middle, front, back, inFront, atEnd, rfl⟩ := ih.mp behind
        exact ⟨middle, _ :: front, back, .cons here inFront, atEnd, rfl⟩
      · rintro ⟨middle, _, back, ⟨⟩ | ⟨here, inFront⟩, atEnd, rfl⟩
        exact .cons here (ih.mpr ⟨middle, _, back, inFront, atEnd, rfl⟩)

/-- Jobs succeed with the same results in contexts that they do not tell apart. -/
theorem Succeed.of_related
    {related : Context → Context → Prop}
    {jobs : List Job}
    (respect : ∀ job ∈ jobs, job.Respects related)
    {first last other : Proceedings}
    {results : List Generated}
    (succeed : Succeed origin calculate jobs first last results)
    (contexts : related first.context other.context) :
    ∃ otherLast, Succeed origin calculate jobs other otherLast results := by
  have ran := runAll_eq_ok_iff.mpr succeed
  have same :
      (runAll origin calculate jobs first).2 = (runAll origin calculate jobs other).2 :=
    runAll_agrees respect contexts
  rw [ran] at same
  rcases otherRan : runAll origin calculate jobs other with ⟨otherLast, _⟩
  rw [otherRan] at same
  cases same
  exact ⟨otherLast, runAll_eq_ok_iff.mp otherRan⟩

/-- The calculation that a job asks for. -/
def calculation (job : Job) : String × Quantity × Duration :=
  (job.slo.id, job.slo.objective, job.slo.period)

theorem calculations_run (job : Job) (proceedings : Proceedings) :
    (job.run origin calculate proceedings).1.calculations =
      proceedings.calculations ++ [job.calculation] := by
  rcases ran : job.run origin calculate proceedings with ⟨last, result⟩
  obtain ⟨shared, _, left⟩ := ends_of_run ran
  rw [left]
  rfl

/-- A run that succeeds has asked for one calculation of each of its jobs, in their order. -/
theorem calculations_runAll
    {jobs : List Job}
    {proceedings last : Proceedings}
    {results : List Generated}
    (ran :
      runAll origin calculate jobs proceedings = (last, .ok results)) :
    last.calculations =
      proceedings.calculations ++ jobs.map calculation := by
  induction jobs generalizing proceedings results with
  | nil =>
      cases ran
      rw [List.map_nil, List.append_nil]
  | cons first rest ih =>
      obtain ⟨next, made, others, firstRun, restRun, _⟩ :=
        runAll_cons_eq_ok_iff.mp ran
      have asked :
          (first.run origin calculate proceedings).1.calculations =
            proceedings.calculations ++ [first.calculation] :=
        first.calculations_run proceedings
      rw [firstRun] at asked
      rw [ih restRun, asked, List.map_cons, List.append_assoc,
        List.singleton_append]

end

end ServiceLevel.Job

/-! ## The job of an objective -/

namespace ServiceLevel

theorem Slo.copy_eq_ok_iff {slo copied : Slo} :
    slo.copy = .ok copied ↔ slo.chain.copyFailure? = none ∧ copied = slo := by
  rw [copy]
  cases slo.chain.copyFailure? with
  | none => simp [eq_comm]
  | some failure => simp

theorem Slo.copy_eq_error_iff {slo : Slo} {failure : Failure} :
    slo.copy = .error failure ↔ slo.chain.copyFailure? = some failure := by
  rw [copy]
  cases slo.chain.copyFailure? with
  | none => simp
  | some other => simp

namespace Generator

variable {generator : Generator} {request : GenerationRequest} {slo : Slo}

/-- An objective has a job if it can be copied and its processors can be made. -/
theorem jobFor_eq_ok_iff {job : Job} :
    generator.jobFor request slo = .ok job ↔
      slo.chain.copyFailure? = none ∧
        ∃ steps,
          generator.processorsFor request.group (request.labelled slo) = .ok steps ∧
            job = ⟨request.labelled slo, steps⟩ := by
  rw [jobFor, Attempt.bind_eq_ok_iff]
  simp only [Slo.copy_eq_ok_iff]
  constructor
  · rintro ⟨_, ⟨copied, rfl⟩, made⟩
    obtain ⟨steps, areSteps, same⟩ := Attempt.bind_eq_ok_iff.mp made
    cases same
    exact ⟨copied, steps, areSteps, rfl⟩
  · rintro ⟨copied, steps, areSteps, rfl⟩
    exact ⟨slo, ⟨copied, rfl⟩, Attempt.bind_eq_ok_iff.mpr ⟨steps, areSteps, rfl⟩⟩

/-- Otherwise the failure is that of copying it, or else that of making its processors. -/
theorem jobFor_eq_error_iff {failure : Failure} :
    generator.jobFor request slo = .error failure ↔
      slo.chain.copyFailure? = some failure ∨
        slo.chain.copyFailure? = none ∧
          generator.processorsFor request.group (request.labelled slo) = .error failure := by
  rw [jobFor, Attempt.bind_eq_error_iff]
  simp only [Slo.copy_eq_error_iff, Slo.copy_eq_ok_iff]
  refine or_congr_right ?_
  constructor
  · rintro ⟨_, ⟨copied, rfl⟩, unmade⟩
    rcases Attempt.bind_eq_error_iff.mp unmade with failed | ⟨steps, _, impossible⟩
    · exact ⟨copied, failed⟩
    · cases impossible
  · rintro ⟨copied, failed⟩
    exact ⟨slo, ⟨copied, rfl⟩, Attempt.bind_eq_error_iff.mpr (Or.inl failed)⟩

theorem slo_of_jobFor
    {job : Job}
    (made : generator.jobFor request slo = .ok job) :
    job.slo = request.labelled slo := by
  obtain ⟨_, steps, _, rfl⟩ := jobFor_eq_ok_iff.mp made
  rfl

end Generator

end ServiceLevel
