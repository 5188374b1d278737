import ServiceLevel.Proofs.Generation.RuleKinds

/-!
# The intervals of the rule groups

A processor may set the intervals at which the three main groups are evaluated.  No supplied
processor reads an interval, and none of them replaces a group: they exchange its rules or add
some.  So this step can be exchanged with every other one, and a run that contains it ends as
the run without it does, with the intervals set in the end.

The intervals come from the config of the plugin: each group has the one of its own if the
config has one that is longer than nothing, and the common one otherwise.
-/

namespace ServiceLevel

/-! ## Chosen intervals -/

namespace Duration

theorem eq_of_ofMicroseconds
    {count : Int}
    {duration : Duration}
    (inRange : ofMicroseconds count = .ok duration) :
    duration = ⟨count⟩ := by
  rw [ofMicroseconds] at inRange
  split at inRange <;> cases inRange
  rfl

/-- What is read is a number of whole milliseconds. -/
theorem exists_ofMilliseconds_of_read
    {text : String}
    {duration : Duration}
    (isRead : read text = .ok duration) :
    ∃ count, duration = ofMilliseconds count := by
  by_cases isZero : text = "0"
  · rw [read, if_pos isZero] at isRead
    cases isRead
    exact ⟨0, rfl⟩
  · rw [read, if_neg isZero] at isRead
    split at isRead
    · cases isRead
    · split at isRead
      · cases isRead
      · split at isRead
        · cases isRead
        · rename_i sum _
          exact ⟨sum, eq_of_ofMicroseconds isRead⟩

theorem exists_ofMilliseconds_of_ofJson
    {data : Json}
    {duration : Duration}
    (isRead : ofJson data = .ok duration) :
    ∃ count, duration = ofMilliseconds count := by
  cases data with
  | text text => exact exists_ofMilliseconds_of_read isRead
  | _ => cases isRead

end Duration

namespace Intervals

/-- The interval of each of the three groups. -/
def of (chosen : Intervals) : GroupChoice → Duration
  | .errorRatio => chosen.errorRatio.getD chosen.common
  | .metadata => chosen.metadata.getD chosen.common
  | .alerts => chosen.alerts.getD chosen.common

/-- The name of the field with the interval of a group. -/
def field : GroupChoice → String
  | .errorRatio => "sliError"
  | .metadata => "metadata"
  | .alerts => "alert"

end Intervals

/-- One of the main groups. -/
def RuleSet.main (rules : RuleSet) : GroupChoice → RuleGroup
  | .errorRatio => rules.errorRatio
  | .metadata => rules.metadata
  | .alerts => rules.alerts

namespace Shipped

/-- An interval that is read is longer than nothing. -/
theorem positive_of_readInterval
    {data : Json}
    {name : String}
    {interval : Duration}
    (isRead : readInterval data name = .ok (some interval)) :
    0 < interval.microseconds := by
  rw [readInterval] at isRead
  split at isRead
  · cases isRead
  · split at isRead
    · rename_i duration isDuration
      split at isRead
      · cases isRead
      · rename_i notZero
        cases isRead
        rcases Duration.exists_ofMilliseconds_of_ofJson isDuration with ⟨count, rfl⟩
        have apart : (count : Int) * 1000 ≠ 0 := fun same => notZero (decide_eq_true same)
        show 0 < (count : Int) * 1000
        omega
    · split at isRead <;> cases isRead

/-- The intervals that a config chooses. -/
structure Chooses (config : String) (chosen : Intervals) : Prop where
  positive : ∀ choice, 0 < (chosen.of choice).microseconds
  fields :
    ∃ data intervals,
      readObject config "invalid config: must be an object" = .ok data ∧
        (given? data "interval").getD (.object []) = .object intervals ∧
        readInterval (.object intervals) "default" = .ok (some chosen.common) ∧
        ∀ choice,
          ∃ own,
            readInterval (.object intervals) (Intervals.field choice) = .ok own ∧
              chosen.of choice = own.getD chosen.common

/-- The plugin accepts a config if it chooses intervals, and makes a step that sets these. -/
theorem exists_chooses_of_readIntervals
    {config : String}
    {processor : Processor}
    (isRead : readIntervals config = .ok processor) :
    ∃ chosen, Chooses config chosen ∧ processor = .intervals chosen := by
  rcases Attempt.bind_eq_ok_iff.mp isRead with ⟨data, isData, afterData⟩
  simp only at afterData
  split at afterData
  · rename_i intervals areIntervals
    rcases Attempt.bind_eq_ok_iff.mp afterData with ⟨fields, same, afterFields⟩
    cases same
    rcases Attempt.bind_eq_ok_iff.mp afterFields with ⟨common, isCommon, afterCommon⟩
    split at afterCommon
    · rename_i common
      rcases Attempt.bind_eq_ok_iff.mp afterCommon with
        ⟨errorRatio, isErrorRatio, afterErrorRatio⟩
      rcases Attempt.bind_eq_ok_iff.mp afterErrorRatio with
        ⟨metadata, isMetadata, afterMetadata⟩
      rcases Attempt.bind_eq_ok_iff.mp afterMetadata with ⟨alerts, isAlerts, same⟩
      cases same
      have own :
          ∀ {name : String} {interval : Option Duration},
            readInterval (.object intervals) name = .ok interval →
              0 < (interval.getD common).microseconds := by
        intro name interval isInterval
        cases interval with
        | none => exact positive_of_readInterval isCommon
        | some interval => exact positive_of_readInterval isInterval
      refine ⟨_, ⟨?_, data, intervals, isData, areIntervals, isCommon, ?_⟩, rfl⟩
      · intro choice
        cases choice with
        | errorRatio => exact own isErrorRatio
        | metadata => exact own isMetadata
        | alerts => exact own isAlerts
      · intro choice
        cases choice with
        | errorRatio => exact ⟨errorRatio, isErrorRatio, rfl⟩
        | metadata => exact ⟨metadata, isMetadata, rfl⟩
        | alerts => exact ⟨alerts, isAlerts, rfl⟩
    · cases afterCommon
  · cases afterData

end Shipped

/-! ## Steps that set no intervals -/

/-- A processor of the library that does not set intervals. -/
def Processor.KeepsIntervals : Processor → Prop
  | .intervals _ => False
  | .host _ => False
  | _ => True

theorem Builtin.keepsIntervals_of_create
    {accepts : String → Bool}
    {builtin : Builtin}
    {config : String}
    {processor : Processor}
    (made : builtin.create accepts config = .ok processor) :
    processor.KeepsIntervals := by
  cases builtin with
  | errorRatio =>
      rcases Attempt.map_eq_ok_iff.mp made with ⟨settings, _, rfl⟩
      trivial
  | debug =>
      rcases Attempt.map_eq_ok_iff.mp made with ⟨settings, _, rfl⟩
      trivial
  | _ =>
      cases made
      trivial

theorem Shipped.keepsIntervals_of_create
    {shipped : Shipped}
    {config : String}
    {processor : Processor}
    (apart : shipped ≠ .intervals)
    (made : shipped.create config = .ok processor) :
    processor.KeepsIntervals := by
  cases shipped with
  | intervals => exact absurd rfl apart
  | budgetAlert =>
      rcases Attempt.map_eq_ok_iff.mp made with ⟨alert, _, rfl⟩
      trivial
  | infoLabels =>
      rcases exists_of_readInfoLabels made with ⟨labels, metric, rfl⟩
      trivial
  | removeLabels =>
      rcases exists_of_readRemoveLabels made with ⟨preserved, skipped, rfl⟩
      trivial
  | _ =>
      cases made
      trivial

/-- Of the plugins of the library, only one makes a step that sets intervals. -/
theorem Plugin.Supplied.keepsIntervals_of_make
    {accepts : String → Bool}
    {plugin : Plugin}
    {config : Setting}
    {step : NamedProcessor}
    (supplied : plugin.Supplied)
    (apart : plugin.id ≠ Shipped.intervals.id)
    (made : NamedProcessor.make accepts plugin config = .ok step) :
    step.processor.KeepsIntervals := by
  rcases NamedProcessor.create_of_make made with ⟨written, _, created⟩
  cases supplied with
  | builtin standard =>
      rcases Attempt.map_eq_ok_iff.mp created with ⟨processor, isMade, same⟩
      cases same
      exact Builtin.keepsIntervals_of_create isMade
  | shipped extra =>
      rcases Attempt.map_eq_ok_iff.mp created with ⟨processor, isMade, same⟩
      cases same
      refine Shipped.keepsIntervals_of_create ?_ isMade
      rintro rfl
      exact apart rfl

theorem Processor.KeepsIntervals.isHost_eq_false
    {processor : Processor}
    (keeps : processor.KeepsIntervals) :
    processor.isHost = false := by
  cases processor with
  | host process => exact keeps.elim
  | _ => rfl

/-! ## One step -/

/-- Set the intervals of the groups that have been made so far. -/
def Progress.setIntervals (chosen : Intervals) (progress : Progress) : Progress :=
  { progress with rules := Processor.withIntervals chosen progress.rules }

namespace Processor

theorem interval_main_withIntervals
    (chosen : Intervals)
    (rules : RuleSet)
    (choice : GroupChoice) :
    ((withIntervals chosen rules).main choice).interval = some (chosen.of choice) := by
  cases choice <;> rfl

theorem checking_setIntervals
    (chosen : Intervals)
    (progress : Progress)
    (wrap : Failure → Failure)
    (check : Except Failure Unit) :
    checking (progress.setIntervals chosen) wrap check =
      ((checking progress wrap check).1.setIntervals chosen,
        (checking progress wrap check).2) := by
  cases check with
  | error failure => rfl
  | ok done => rfl

/-- Rules are replaced under any intervals, if the change lets the intervals be. -/
theorem replacing_setIntervals
    {α : Type}
    (chosen : Intervals)
    (progress : Progress)
    (made : Except Failure α)
    {change : α → RuleSet → RuleSet}
    (commutes :
      ∀ value rules,
        change value (withIntervals chosen rules) =
          withIntervals chosen (change value rules)) :
    replacing (progress.setIntervals chosen) made change =
      ((replacing progress made change).1.setIntervals chosen,
        (replacing progress made change).2) := by
  cases made with
  | error failure => rfl
  | ok value =>
      have changed := commutes value progress.rules
      simp only [replacing, Progress.setIntervals, changed]

theorem apply_withIntervals
    (slo : Slo)
    (alerts : BurnAlerts)
    (chosen : Intervals)
    (rules : RuleSet) :
    Corrected.apply slo alerts (withIntervals chosen rules) =
      (withIntervals chosen (Corrected.apply slo alerts rules).1,
        (Corrected.apply slo alerts rules).2) := by
  simp only [Corrected.apply]
  split
  · rfl
  · split <;> rfl

/-- Setting the intervals can be exchanged with every other step of the library. -/
theorem run_setIntervals
    {processor : Processor}
    (keeps : processor.KeepsIntervals)
    (origin : Origin)
    (alerts : BurnAlerts)
    (chosen : Intervals)
    (progress : Progress) :
    processor.run origin alerts (progress.setIntervals chosen) =
      ((processor.run origin alerts progress).1.setIntervals chosen,
        (processor.run origin alerts progress).2) := by
  cases processor with
  | intervals others => exact keeps.elim
  | host process => exact keeps.elim
  | validate dialect => exact checking_setIntervals chosen progress _ _
  | validateMetricsql => exact checking_setIntervals chosen progress _ _
  | errorRatio settings =>
      rw [run, run]
      exact replacing_setIntervals chosen progress _ fun _ _ => rfl
  | metadata =>
      rw [run, run]
      exact replacing_setIntervals chosen progress _ fun _ _ => rfl
  | alerts =>
      rw [run, run]
      exact replacing_setIntervals chosen progress _ fun _ _ => rfl
  | totalAmount =>
      rw [run, run]
      exact replacing_setIntervals chosen progress _ fun _ _ => rfl
  | budgetAlert alert =>
      rw [run, run]
      exact replacing_setIntervals chosen progress _ fun _ _ => rfl
  | corrected =>
      simp only [run, Progress.setIntervals, apply_withIntervals]
  | idle => rfl
  | debug id settings => rfl
  | infoLabels labels metric => rfl
  | removeLabels preserved skipped => rfl

end Processor

/-! ## Runs -/

section Runs

variable (origin : Origin) (alerts : BurnAlerts)

theorem runSteps_setIntervals
    {steps : List NamedProcessor}
    (keep : ∀ step ∈ steps, step.processor.KeepsIntervals)
    (chosen : Intervals)
    (progress : Progress) :
    runSteps origin alerts steps (progress.setIntervals chosen) =
      ((runSteps origin alerts steps progress).1.setIntervals chosen,
        (runSteps origin alerts steps progress).2) := by
  induction steps generalizing progress with
  | nil => rfl
  | cons step rest ih =>
      have first :=
        Processor.run_setIntervals (keep step List.mem_cons_self) origin alerts chosen
          progress
      rw [runSteps, runSteps, first]
      rcases step.processor.run origin alerts progress with ⟨next, _ | cause⟩
      · exact ih (fun other member => keep other (List.mem_cons_of_mem step member)) next
      · rfl

/--
A step that sets the intervals, put among others, acts as if it stood behind them: either all
of them pass and leave the intervals set, or the run fails as it does without the step.
-/
theorem runSteps_insert_intervals
    {back : List NamedProcessor}
    (keep : ∀ step ∈ back, step.processor.KeepsIntervals)
    (front : List NamedProcessor)
    (id : String)
    (chosen : Intervals)
    (start : Progress) :
    (∃ stop,
      runSteps origin alerts (front ++ back) start = (stop, none) ∧
        runSteps origin alerts (front ++ ⟨id, .intervals chosen⟩ :: back) start =
          (stop.setIntervals chosen, none)) ∨
      ∃ stop otherStop cause,
        runSteps origin alerts (front ++ back) start = (stop, some cause) ∧
          runSteps origin alerts (front ++ ⟨id, .intervals chosen⟩ :: back) start =
            (otherStop, some cause) ∧
          otherStop.slo = stop.slo := by
  induction front generalizing start with
  | nil =>
      have set :
          runSteps origin alerts (⟨id, .intervals chosen⟩ :: back) start =
            runSteps origin alerts back (start.setIntervals chosen) := rfl
      rw [List.nil_append, List.nil_append, set, runSteps_setIntervals origin alerts keep]
      rcases runSteps origin alerts back start with ⟨stop, _ | cause⟩
      · exact Or.inl ⟨stop, rfl, rfl⟩
      · exact Or.inr ⟨stop, _, cause, rfl, rfl, rfl⟩
  | cons step rest ih =>
      rw [List.cons_append, List.cons_append, runSteps, runSteps]
      rcases step.processor.run origin alerts start with ⟨next, _ | cause⟩
      · exact ih next
      · exact Or.inr ⟨next, next, _, rfl, rfl, rfl⟩

end Runs

end ServiceLevel
