import ServiceLevel.Proofs.Generation.Jobs

/-!
# Objectives with other chains

Of the steps of the library only the checks of objectives look at the chain of their objective:
they ask for entries where it overrides, and for an identifier of each.  Where another chain
passes the same check, the steps end alike and leave the same rules.
-/

namespace ServiceLevel

/-! ## Steps -/

/-- Put another chain in the place of that of the objective. -/
def Progress.withChain (chain : Chain) (progress : Progress) : Progress :=
  { progress with slo := { progress.slo with chain } }

theorem ErrorRatio.rulesOf_withChain
    (slo : Slo)
    (chain : Chain)
    (rule : Duration → Except Failure Rule)
    (windows : List Duration) :
    rulesOf { slo with chain } rule windows = rulesOf slo rule windows := by
  induction windows with
  | nil => rfl
  | cons window rest ih =>
      rw [rulesOf, rulesOf, ih]
      rfl

theorem ErrorRatio.rules_withChain
    (optimized : Bool)
    (slo : Slo)
    (alerts : BurnAlerts)
    (chain : Chain) :
    rules optimized { slo with chain } alerts = rules optimized slo alerts := by
  cases optimized <;> exact rulesOf_withChain slo chain _ _

/-- Nothing but the check of chains looks at the chain of an objective. -/
theorem Slo.validate_withChain
    {slo : Slo}
    {chain : Chain}
    (sameCheck : checkChain chain = checkChain slo.chain)
    (dialect : Dialect) :
    ({ slo with chain } : Slo).validate dialect = slo.validate dialect := by
  simp only [validate, sameCheck]

namespace Processor

theorem checking_withChain
    (chain : Chain)
    (progress : Progress)
    (wrap : Failure → Failure)
    (check : Except Failure Unit) :
    checking (progress.withChain chain) wrap check =
      ((checking progress wrap check).1.withChain chain,
        (checking progress wrap check).2) := by
  cases check with
  | error failure => rfl
  | ok done => rfl

theorem replacing_withChain
    {α : Type}
    (chain : Chain)
    (progress : Progress)
    (made : Except Failure α)
    (change : α → RuleSet → RuleSet) :
    replacing (progress.withChain chain) made change =
      ((replacing progress made change).1.withChain chain,
        (replacing progress made change).2) := by
  cases made with
  | error failure => rfl
  | ok value => rfl

/-- A step of the library does the same to an objective with another chain of the same worth. -/
theorem run_withChain
    {processor : Processor}
    (noHost : processor.isHost = false)
    (origin : Origin)
    (alerts : BurnAlerts)
    (progress : Progress)
    {chain : Chain}
    (sameCheck : Slo.checkChain chain = Slo.checkChain progress.slo.chain) :
    processor.run origin alerts (progress.withChain chain) =
      ((processor.run origin alerts progress).1.withChain chain,
        (processor.run origin alerts progress).2) := by
  cases processor with
  | host process => cases noHost
  | validate dialect =>
      rw [run, run, Progress.withChain, Slo.validate_withChain sameCheck]
      exact checking_withChain chain progress _ _
  | validateMetricsql =>
      rw [run, run, Progress.withChain, Slo.validate_withChain sameCheck]
      exact checking_withChain chain progress _ _
  | errorRatio settings =>
      rw [run, run, Progress.withChain, ErrorRatio.rules_withChain]
      exact replacing_withChain chain progress _ _
  | metadata =>
      rw [run, run]
      exact replacing_withChain chain progress _ _
  | alerts =>
      rw [run, run]
      exact replacing_withChain chain progress _ _
  | totalAmount =>
      rw [run, run]
      exact replacing_withChain chain progress _ _
  | budgetAlert alert =>
      rw [run, run]
      exact replacing_withChain chain progress _ _
  | idle => rfl
  | debug id settings => rfl
  | corrected => rfl
  | infoLabels labels metric => rfl
  | removeLabels preserved skipped => rfl
  | intervals chosen => rfl

end Processor

theorem runSteps_withChain
    (origin : Origin)
    (alerts : BurnAlerts)
    {steps : List NamedProcessor}
    (noHosts : ∀ step ∈ steps, step.processor.isHost = false)
    (progress : Progress)
    {chain : Chain}
    (sameCheck : Slo.checkChain chain = Slo.checkChain progress.slo.chain) :
    runSteps origin alerts steps (progress.withChain chain) =
      ((runSteps origin alerts steps progress).1.withChain chain,
        (runSteps origin alerts steps progress).2) := by
  induction steps generalizing progress with
  | nil => rfl
  | cons step rest ih =>
      have noHost := noHosts step List.mem_cons_self
      have first := Processor.run_withChain noHost origin alerts progress sameCheck
      have sameSlo := Processor.slo_run_of_isHost_eq_false noHost origin alerts progress
      rw [runSteps, runSteps, first]
      rcases ran : step.processor.run origin alerts progress with ⟨next, _ | cause⟩
      · rw [ran] at sameSlo
        rw [← sameSlo] at sameCheck
        exact
          ih (fun other member => noHosts other (List.mem_cons_of_mem step member)) next
            sameCheck
      · rfl

/-! ## Jobs -/

/-- Put another chain in the place of that of the generated objective. -/
def Generated.withChain (chain : Chain) (result : Generated) : Generated :=
  { result with slo := { result.slo with chain } }

theorem Job.outcome_withChain
    {origin : Origin}
    {calculate : AlertCalculation}
    {slo : Slo}
    {steps : List NamedProcessor}
    {chain : Chain}
    (noHosts : ∀ step ∈ steps, step.processor.isHost = false)
    (sameCheck : Slo.checkChain chain = Slo.checkChain slo.chain) :
    outcome origin calculate ⟨{ slo with chain }, steps⟩ =
      (outcome origin calculate ⟨slo, steps⟩).map (Generated.withChain chain) := by
  let moved : Slo := { slo with chain }
  rcases calculated : calculate slo.id slo.objective slo.period with cause | alerts
  · have movedCalculated : calculate moved.id moved.objective moved.period = .error cause :=
      calculated
    rw [outcome_of_uncalculated movedCalculated, outcome_of_uncalculated calculated]
    rfl
  · have movedCalculated : calculate moved.id moved.objective moved.period = .ok alerts :=
      calculated
    have movedRun :
        runSteps origin alerts steps (begun moved) =
          ((runSteps origin alerts steps (begun slo)).1.withChain chain,
            (runSteps origin alerts steps (begun slo)).2) :=
      runSteps_withChain origin alerts noHosts (begun slo) sameCheck
    rw [outcome_of_calculated movedCalculated, outcome_of_calculated calculated, movedRun]
    rcases runSteps origin alerts steps (begun slo) with ⟨stop, _ | cause⟩ <;> rfl

end ServiceLevel
