import ServiceLevel.Generation

/-!
# Steps and runs of steps

What a processor of the library does to an objective and its rules depends on
nothing but these two: the context and the journal, which the objectives of a group
share, are written but never read into a rule, a label or a failure.  A processor of
the host may read the context, so that of such a one this has to be known; it is so
of every script.  The journal no processor reads.

Both facts are one about contexts that are related in some way, either all of them
or equal ones only: steps that respect the relation lead from agreement to
agreement, and by induction so do runs of such steps.

No processor of the library changes an objective.  A run ends well exactly if its
steps pass one after another; otherwise the steps in front of one pass and this one
fails, and the run leaves what it left.
-/

namespace ServiceLevel

/-! ## What a step can see -/

section Agreement

variable (related : Context → Context → Prop)

/-- The same objective and rules in related contexts, with journals that may differ. -/
structure Progress.Agrees (left right : Progress) : Prop where
  slo : left.slo = right.slo
  rules : left.rules = right.rules
  context : related left.context right.context

/-- Agreeing progresses, with the same failure if there is one. -/
structure StepsAgree (left right : Progress × Option Failure) : Prop where
  progress : left.1.Agrees related right.1
  failure : left.2 = right.2

/-- Effects on an objective, its rules and related contexts that are the same, journals apart. -/
structure HostEffect.Agrees (left right : HostEffect) : Prop where
  slo : left.slo = right.slo
  rules : left.rules = right.rules
  context : related left.context right.context
  failure : left.failure = right.failure

/--
A processor that does not tell related contexts apart.  This says something about processors of
the host only.
-/
def Processor.Respects : Processor → Prop
  | .host process =>
    ∀ origin alerts left right slo rules,
      related left right →
        (process origin alerts left slo rules).Agrees related
          (process origin alerts right slo rules)
  | _ => True

end Agreement

/-- A processor whose effect on an objective and its rules, and whose failure, do not depend on
the context. -/
def Processor.IgnoresContext (processor : Processor) : Prop :=
  processor.Respects fun _ _ => True

/-- A processor of the host. -/
def Processor.isHost : Processor → Bool
  | .host _ => true
  | _ => false

section Agreement

variable {related : Context → Context → Prop}

/-- Processors of the library respect every relation, for they do not read the context. -/
theorem Processor.respects_of_isHost_eq_false
    {processor : Processor}
    (noHost : processor.isHost = false) :
    processor.Respects related := by
  cases processor with
  | host process => cases noHost
  | _ => trivial

/-- The same context has the same effects. -/
theorem Processor.respects_eq (processor : Processor) :
    processor.Respects Eq := by
  cases processor with
  | host process =>
      rintro origin alerts left right slo rules rfl
      exact ⟨rfl, rfl, rfl, rfl⟩
  | _ => trivial

namespace Processor

theorem replacing_agrees
    {α : Type}
    (made : Except Failure α)
    (change : α → RuleSet → RuleSet)
    {left right : Progress}
    (agrees : left.Agrees related right) :
    StepsAgree related (replacing left made change) (replacing right made change) := by
  cases made with
  | error failure => exact ⟨agrees, rfl⟩
  | ok value =>
      exact ⟨⟨agrees.slo, congrArg (change value) agrees.rules, agrees.context⟩, rfl⟩

theorem checking_agrees
    (wrap : Failure → Failure)
    (check : Except Failure Unit)
    {left right : Progress}
    (agrees : left.Agrees related right) :
    StepsAgree related (checking left wrap check) (checking right wrap check) := by
  cases check with
  | error failure => exact ⟨agrees, rfl⟩
  | ok done => exact ⟨agrees, rfl⟩

/-- A step that respects a relation leads from agreement to agreement. -/
theorem run_agrees
    {processor : Processor}
    (respects : processor.Respects related)
    (origin : Origin)
    (alerts : BurnAlerts)
    {left right : Progress}
    (agrees : left.Agrees related right) :
    StepsAgree related
      (processor.run origin alerts left)
      (processor.run origin alerts right) := by
  obtain ⟨leftShared, slo, rules⟩ := left
  obtain ⟨rightShared, otherSlo, otherRules⟩ := right
  obtain ⟨rfl, rfl⟩ : slo = otherSlo ∧ rules = otherRules :=
    ⟨agrees.slo, agrees.rules⟩
  cases processor with
  | validate dialect =>
      rw [run, run]
      exact checking_agrees _ _ agrees
  | validateMetricsql =>
      rw [run, run]
      exact checking_agrees _ _ agrees
  | errorRatio settings =>
      rw [run, run]
      exact replacing_agrees _ _ agrees
  | metadata =>
      rw [run, run]
      exact replacing_agrees _ _ agrees
  | alerts =>
      rw [run, run]
      exact replacing_agrees _ _ agrees
  | totalAmount =>
      rw [run, run]
      exact replacing_agrees _ _ agrees
  | budgetAlert alert =>
      rw [run, run]
      exact replacing_agrees _ _ agrees
  | idle => exact ⟨agrees, rfl⟩
  | debug id settings => exact ⟨⟨rfl, rfl, agrees.context⟩, rfl⟩
  | corrected =>
      rw [run, run]
      exact ⟨⟨rfl, rfl, agrees.context⟩, rfl⟩
  | infoLabels labels metric => exact ⟨⟨rfl, rfl, agrees.context⟩, rfl⟩
  | removeLabels preserved skipped => exact ⟨⟨rfl, rfl, agrees.context⟩, rfl⟩
  | intervals chosen => exact ⟨⟨rfl, rfl, agrees.context⟩, rfl⟩
  | host process =>
      have same := respects origin alerts _ _ slo rules agrees.context
      exact ⟨⟨same.slo, same.rules, same.context⟩, same.failure⟩

end Processor

/-- Runs of such steps that start in agreement end in agreement. -/
theorem runSteps_agrees
    (origin : Origin)
    (alerts : BurnAlerts)
    {steps : List NamedProcessor}
    (respect : ∀ step ∈ steps, step.processor.Respects related)
    {left right : Progress}
    (agrees : left.Agrees related right) :
    StepsAgree related
      (runSteps origin alerts steps left)
      (runSteps origin alerts steps right) := by
  induction steps generalizing left right with
  | nil => exact ⟨agrees, rfl⟩
  | cons step rest ih =>
      have ⟨respects, restRespect⟩ := List.forall_mem_cons.mp respect
      have first := Processor.run_agrees respects origin alerts agrees
      simp only [runSteps]
      rcases leftStep : step.processor.run origin alerts left with
        ⟨leftNext, _ | cause⟩ <;>
        rcases rightStep : step.processor.run origin alerts right with
          ⟨rightNext, _ | other⟩ <;>
        rw [leftStep, rightStep] at first
      · exact ih restRespect first.progress
      · cases first.failure
      · cases first.failure
      · cases first.failure
        exact ⟨first.progress, rfl⟩

end Agreement

/-! ## Scripts -/

theorem Action.run_agrees
    (id config : String)
    (action : Action)
    {left right : Progress}
    (agrees : left.Agrees (fun _ _ => True) right) :
    StepsAgree (fun _ _ => True) (action.run id config left) (action.run id config right) := by
  obtain ⟨leftShared, slo, rules⟩ := left
  obtain ⟨rightShared, _, _⟩ := right
  obtain ⟨rfl, rfl, _⟩ := agrees
  cases action <;> exact ⟨⟨rfl, rfl, trivial⟩, rfl⟩

theorem Action.runAll_agrees
    (id config : String)
    (actions : List Action)
    {left right : Progress}
    (agrees : left.Agrees (fun _ _ => True) right) :
    StepsAgree (fun _ _ => True)
      (Action.runAll id config actions left)
      (Action.runAll id config actions right) := by
  induction actions generalizing left right with
  | nil => exact ⟨agrees, rfl⟩
  | cons action rest ih =>
      have first := action.run_agrees id config agrees
      simp only [Action.runAll]
      rcases leftStep : action.run id config left with ⟨leftNext, _ | failure⟩ <;>
        rcases rightStep : action.run id config right with ⟨rightNext, _ | other⟩ <;>
        rw [leftStep, rightStep] at first
      · exact ih first.progress
      · cases first.failure
      · cases first.failure
      · exact first

theorem Processor.slo_replacing
    {α : Type}
    (progress : Progress)
    (made : Except Failure α)
    (change : α → RuleSet → RuleSet) :
    (replacing progress made change).1.slo = progress.slo := by
  cases made <;> rfl

/-- Replacing rules passes exactly if they are made. -/
theorem Processor.replacing_eq_iff
    {α : Type}
    {before after : Progress}
    {made : Except Failure α}
    {change : α → RuleSet → RuleSet} :
    replacing before made change = (after, none) ↔
      ∃ value,
        made = .ok value ∧
          after = { before with rules := change value before.rules } := by
  cases made with
  | error failure => simp [replacing]
  | ok value => simp [replacing, eq_comm]

theorem Processor.slo_checking
    (progress : Progress)
    (wrap : Failure → Failure)
    (check : Except Failure Unit) :
    (checking progress wrap check).1.slo = progress.slo := by
  cases check <;> rfl

/-- A check passes exactly if it succeeds, and changes nothing. -/
theorem Processor.checking_eq_iff
    {before after : Progress}
    {wrap : Failure → Failure}
    {check : Except Failure Unit} :
    checking before wrap check = (after, none) ↔
      check = .ok () ∧ after = before := by
  cases check with
  | error failure => simp [checking]
  | ok done => simp [checking, eq_comm]

/-- Only a processor of the host changes the objective. -/
theorem Processor.slo_run_of_isHost_eq_false
    {processor : Processor}
    (noHost : processor.isHost = false)
    (origin : Origin)
    (alerts : BurnAlerts)
    (progress : Progress) :
    (processor.run origin alerts progress).1.slo = progress.slo := by
  cases processor with
  | host process => cases noHost
  | validate dialect =>
      rw [run]
      exact slo_checking _ _ _
  | validateMetricsql =>
      rw [run]
      exact slo_checking _ _ _
  | errorRatio settings =>
      rw [run]
      exact slo_replacing _ _ _
  | metadata =>
      rw [run]
      exact slo_replacing _ _ _
  | alerts =>
      rw [run]
      exact slo_replacing _ _ _
  | totalAmount =>
      rw [run]
      exact slo_replacing _ _ _
  | budgetAlert alert =>
      rw [run]
      exact slo_replacing _ _ _
  | idle => rfl
  | debug id settings => rfl
  | corrected => rfl
  | infoLabels labels metric => rfl
  | removeLabels preserved skipped => rfl
  | intervals chosen => rfl

/-- A processor that lets the identifier of the objective be, as all but those of the host do. -/
def Processor.KeepsId : Processor → Prop
  | .host process =>
    ∀ origin alerts context slo rules,
      (process origin alerts context slo rules).slo.id = slo.id
  | _ => True

theorem Processor.id_run
    {processor : Processor}
    (keeps : processor.KeepsId)
    (origin : Origin)
    (alerts : BurnAlerts)
    (progress : Progress) :
    (processor.run origin alerts progress).1.slo.id = progress.slo.id := by
  cases isHost : processor.isHost with
  | false => rw [slo_run_of_isHost_eq_false isHost]
  | true =>
      cases processor with
      | host process => exact keeps origin alerts _ _ _
      | _ => cases isHost

section Runs

variable (origin : Origin) (alerts : BurnAlerts)

/-- Steps that pass one after another, from one progress to another. -/
inductive Passes : List NamedProcessor → Progress → Progress → Prop where
  | nil (progress : Progress) : Passes [] progress progress
  | cons {step : NamedProcessor} {rest : List NamedProcessor}
      {start next stop : Progress}
      (passed : step.processor.run origin alerts start = (next, none))
      (others : Passes rest next stop) :
      Passes (step :: rest) start stop

variable {origin alerts}

/-- Steps of the library that pass leave the objective as it was. -/
theorem Passes.slo_eq
    {steps : List NamedProcessor}
    {start stop : Progress}
    (passes : Passes origin alerts steps start stop)
    (noHosts : ∀ step ∈ steps, step.processor.isHost = false) :
    stop.slo = start.slo := by
  induction passes with
  | nil progress => rfl
  | @cons step rest start next stop passed others ih =>
      have ⟨noHost, restNoHosts⟩ := List.forall_mem_cons.mp noHosts
      have first := Processor.slo_run_of_isHost_eq_false noHost origin alerts start
      rw [passed] at first
      rw [ih restNoHosts, first]

/-- What every step preserves is preserved by steps that pass one after another. -/
theorem Passes.preserves
    {steps : List NamedProcessor}
    {start stop : Progress}
    (passes : Passes origin alerts steps start stop)
    (holds : Progress → Prop)
    (each :
      ∀ step ∈ steps,
        ∀ before after,
          step.processor.run origin alerts before = (after, none) →
            holds before →
              holds after)
    (atStart : holds start) :
    holds stop := by
  induction passes with
  | nil progress => exact atStart
  | @cons step rest start next stop passed others ih =>
      have atNext : holds next :=
        each step List.mem_cons_self start next passed atStart
      apply ih _ atNext
      intro other member
      exact each other (List.mem_cons_of_mem step member)

/-- Each of the steps that pass does so behind some of the others. -/
theorem Passes.exists_of_mem
    {steps : List NamedProcessor}
    {start stop : Progress}
    (passes : Passes origin alerts steps start stop)
    {step : NamedProcessor}
    (member : step ∈ steps) :
    ∃ front before after,
      front ⊆ steps ∧
        Passes origin alerts front start before ∧
        step.processor.run origin alerts before = (after, none) := by
  induction passes with
  | nil progress => cases member
  | @cons first rest start next stop passed others ih =>
      rcases List.mem_cons.mp member with rfl | inRest
      · exact ⟨[], start, next, List.nil_subset _, .nil start, passed⟩
      · rcases ih inRest with ⟨front, before, after, isPart, inFront, here⟩
        exact
          ⟨first :: front, before, after, List.cons_subset_cons first isPart,
            .cons passed inFront, here⟩

/-- Steps that pass are run as if nothing stood behind them. -/
theorem Passes.runSteps_append
    {steps : List NamedProcessor}
    {start stop : Progress}
    (passes : Passes origin alerts steps start stop)
    (rest : List NamedProcessor) :
    runSteps origin alerts (steps ++ rest) start =
      runSteps origin alerts rest stop := by
  induction passes with
  | nil progress => rfl
  | cons passed others ih =>
      rw [List.cons_append, runSteps, passed]
      exact ih

theorem runSteps_eq_none_iff
    {steps : List NamedProcessor}
    {start stop : Progress} :
    runSteps origin alerts steps start = (stop, none) ↔
      Passes origin alerts steps start stop := by
  constructor
  · intro run
    induction steps generalizing start with
    | nil =>
        cases run
        exact .nil _
    | cons step rest ih =>
        simp only [runSteps] at run
        split at run
        · rename_i next passed
          exact .cons passed (ih run)
        · cases run
  · intro passes
    have run := passes.runSteps_append []
    rw [List.append_nil] at run
    exact run

/-- The step at which a run fails: those in front of it pass, and it fails. -/
def FailsAt
    (origin : Origin)
    (alerts : BurnAlerts)
    (start : Progress)
    (passed : List NamedProcessor)
    (step : NamedProcessor)
    (stop : Progress)
    (cause : Failure) : Prop :=
  ∃ middle,
    Passes origin alerts passed start middle ∧
      step.processor.run origin alerts middle = (stop, some cause)

/-- A run that fails at a step ends there, whatever steps are behind it. -/
theorem FailsAt.runSteps_eq
    {start stop : Progress}
    {passed : List NamedProcessor}
    {step : NamedProcessor}
    {cause : Failure}
    (fails : FailsAt origin alerts start passed step stop cause)
    (rest : List NamedProcessor) :
    runSteps origin alerts (passed ++ step :: rest) start =
      (stop, some (.processing step.id cause)) := by
  obtain ⟨middle, passes, failed⟩ := fails
  rw [passes.runSteps_append, runSteps, failed]

/-- A run that fails does so at one of its steps. -/
theorem exists_failsAt_of_runSteps
    {steps : List NamedProcessor}
    {start stop : Progress}
    {failure : Failure}
    (run : runSteps origin alerts steps start = (stop, some failure)) :
    ∃ passed step rest cause,
      steps = passed ++ step :: rest ∧
        FailsAt origin alerts start passed step stop cause ∧
        failure = .processing step.id cause := by
  induction steps generalizing start with
  | nil => cases run
  | cons first others ih =>
      simp only [runSteps] at run
      split at run
      · rename_i next firstPassed
        obtain ⟨passed, step, rest, cause, split, fails, same⟩ := ih run
        obtain ⟨middle, passes, failed⟩ := fails
        refine
          ⟨first :: passed, step, rest, cause, ?_,
            ⟨middle, .cons firstPassed passes, failed⟩, same⟩
        rw [split, List.cons_append]
      · rename_i next cause firstFailed
        cases run
        exact
          ⟨[], first, others, cause, rfl,
            ⟨start, .nil start, firstFailed⟩, rfl⟩

/-- Steps that let the identifier be do so up to the end of a run, whatever the end. -/
theorem id_runSteps
    {steps : List NamedProcessor}
    (keep : ∀ step ∈ steps, step.processor.KeepsId)
    (start : Progress) :
    (runSteps origin alerts steps start).1.slo.id = start.slo.id := by
  induction steps generalizing start with
  | nil => rfl
  | cons step rest ih =>
      have ⟨keeps, restKeep⟩ := List.forall_mem_cons.mp keep
      have first := Processor.id_run keeps origin alerts start
      simp only [runSteps]
      rcases ran : step.processor.run origin alerts start with ⟨next, _ | cause⟩ <;>
        rw [ran] at first
      · exact (ih restKeep next).trans first
      · exact first

end Runs

end ServiceLevel
