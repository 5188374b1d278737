import ServiceLevel.Proofs.Generation.Refusals
import ServiceLevel.Proofs.Rules.Intervals

/-!
# An entry more

Taking the one entry that sets the intervals out of the sorted entries of a chain leaves the
others as they are sorted among themselves, so the steps of the chain are those of the others
with one more step put in.  Since this step can be exchanged with every other one, it changes
the intervals of what is generated and nothing else, wherever it stands.
-/

namespace ServiceLevel

/-! ## Lists with one more item -/

/-- A list with one more item, put in at some place. -/
def Inserts {α : Type} (item : α) (items more : List α) : Prop :=
  ∃ front back, items = front ++ back ∧ more = front ++ item :: back

namespace Inserts

variable {α β ε : Type} {item : α} {items more : List α}

theorem append_left (inserts : Inserts item items more) (before : List α) :
    Inserts item (before ++ items) (before ++ more) := by
  rcases inserts with ⟨front, back, rfl, rfl⟩
  exact ⟨before ++ front, back, (List.append_assoc ..).symm, (List.append_assoc ..).symm⟩

theorem append_right (inserts : Inserts item items more) (after : List α) :
    Inserts item (items ++ after) (more ++ after) := by
  rcases inserts with ⟨front, back, rfl, rfl⟩
  exact ⟨front, back ++ after, List.append_assoc .., List.append_assoc ..⟩

theorem filter_of_pos
    {keep : α → Bool}
    (inserts : Inserts item items more)
    (isKept : keep item = true) :
    Inserts item (items.filter keep) (more.filter keep) := by
  rcases inserts with ⟨front, back, rfl, rfl⟩
  refine ⟨front.filter keep, back.filter keep, List.filter_append .., ?_⟩
  rw [List.filter_append, List.filter_cons_of_pos isKept]

theorem filter_of_neg
    {keep : α → Bool}
    (inserts : Inserts item items more)
    (isDropped : ¬ keep item = true) :
    more.filter keep = items.filter keep := by
  rcases inserts with ⟨front, back, rfl, rfl⟩
  rw [List.filter_append, List.filter_cons_of_neg isDropped, List.filter_append]

/-- The only item with a property is put in among those without it. -/
theorem of_filter_eq_singleton
    {test : α → Bool}
    (single : items.filter test = [item]) :
    Inserts item (items.filter fun other => !test other) items := by
  rcases List.filter_eq_cons_iff.mp single with
    ⟨front, back, split, notInFront, isOne, notInBack⟩
  have frontKept : front.filter (fun other => !test other) = front :=
    List.filter_eq_self.mpr fun other member => by simp [notInFront other member]
  have backKept : back.filter (fun other => !test other) = back :=
    List.filter_eq_self.mpr fun other member => by
      simp [List.filter_eq_nil_iff.mp notInBack other member]
  refine ⟨front, back, ?_, split⟩
  rw [split, List.filter_append, List.filter_cons_of_neg (by simp [isOne]), frontKept,
    backKept]

/-- An item whose attempt succeeds puts one more value in. -/
theorem mapM
    {attempt : α → Except ε β}
    {value : β}
    (inserts : Inserts item items more)
    (succeeds : attempt item = .ok value) :
    Attempt.Alike (Inserts value) (items.mapM attempt) (more.mapM attempt) := by
  rcases inserts with ⟨front, back, rfl, rfl⟩
  rw [List.mapM_append, List.mapM_append, List.mapM_cons, succeeds]
  cases front.mapM attempt with
  | error failure => exact .failed failure
  | ok firsts =>
      cases back.mapM attempt with
      | error failure => exact .failed failure
      | ok lasts => exact .done ⟨firsts, lasts, rfl, rfl⟩

end Inserts

/-! ## Entries that set intervals -/

/-- Whether an entry names the plugin that sets the intervals. -/
def ChainEntry.setsIntervals (entry : ChainEntry) : Bool :=
  entry.id = .text Shipped.intervals.id

namespace Chain

/-- The entries that set intervals. -/
def intervalEntries (entries : List ChainEntry) : List ChainEntry :=
  entries.filter ChainEntry.setsIntervals

/-- All other entries. -/
def otherEntries (entries : List ChainEntry) : List ChainEntry :=
  entries.filter fun entry => !entry.setsIntervals

theorem otherEntries_append (entries others : List ChainEntry) :
    otherEntries (entries ++ others) = otherEntries entries ++ otherEntries others :=
  List.filter_append ..

theorem otherEntries_eq_self
    {entries : List ChainEntry}
    (none : intervalEntries entries = []) :
    otherEntries entries = entries :=
  List.filter_eq_self.mpr fun entry member => by
    simp [List.filter_eq_nil_iff.mp none entry member]

theorem eq_nil_iff {entries : List ChainEntry} :
    entries = [] ↔ otherEntries entries = [] ∧ intervalEntries entries = [] := by
  constructor
  · rintro rfl
    exact ⟨rfl, rfl⟩
  · rintro ⟨noOthers, none⟩
    rw [← otherEntries_eq_self none]
    exact noOthers

/-- An entry that sets intervals has an identifier. -/
theorem all_isGiven_otherEntries (entries : List ChainEntry) :
    ((otherEntries entries).all fun entry => entry.id.isGiven) =
      entries.all fun entry => entry.id.isGiven := by
  rw [Bool.eq_iff_iff, List.all_eq_true, List.all_eq_true]
  constructor
  · intro each entry member
    by_cases sets : entry.setsIntervals = true
    · rw [of_decide_eq_true sets]
      decide
    · exact each entry (List.mem_filter.mpr ⟨member, by simp [sets]⟩)
  · intro each entry member
    exact each entry (List.mem_filter.mp member).1

/-- A chain is copied like its other entries, if those that set intervals can be copied. -/
theorem copyFailure?_eq_otherEntries
    {entries : List ChainEntry}
    (copied : ∀ entry ∈ intervalEntries entries, entry.config.copyFailure? = none)
    (overrides : Bool) :
    (⟨entries, overrides⟩ : Chain).copyFailure? =
      (⟨otherEntries entries, overrides⟩ : Chain).copyFailure? := by
  simp only [copyFailure?, otherEntries]
  rw [intervalEntries] at copied
  induction entries with
  | nil => rfl
  | cons entry rest ih =>
      cases sets : entry.setsIntervals with
      | true =>
          rw [List.filter_cons_of_pos sets, List.forall_mem_cons] at copied
          rw [List.filter_cons_of_neg (by simp [sets]), List.findSome?_cons, copied.1]
          exact ih copied.2
      | false =>
          have isDropped : ¬ entry.setsIntervals = true := by simp [sets]
          rw [List.filter_cons_of_neg isDropped] at copied
          rw [List.filter_cons_of_pos (by simp [sets]), List.findSome?_cons,
            List.findSome?_cons, ih copied]

/-- The one entry that sets intervals is put in among the sorted others. -/
theorem inserts_sortEntries
    {declared : List ChainEntry}
    {entry : ChainEntry}
    (single : intervalEntries declared = [entry]) :
    Inserts entry (sortEntries (otherEntries declared)) (sortEntries declared) := by
  have singleSorted : (sortEntries declared).filter ChainEntry.setsIntervals = [entry] := by
    rw [filter_sortEntries]
    show sortEntries (intervalEntries declared) = [entry]
    rw [single]
    exact List.mergeSort_singleton entry
  have inserts := Inserts.of_filter_eq_singleton singleSorted
  rw [filter_sortEntries] at inserts
  exact inserts

end Chain

/-! ## The step of such an entry -/

namespace Shipped

theorem id_injective
    {shipped other : Shipped}
    (same : shipped.id = other.id) :
    shipped = other := by
  cases shipped <;> cases other <;> first | rfl | exact absurd same (by decide)

theorem id_ne_builtin (shipped : Shipped) (builtin : Builtin) :
    builtin.id ≠ shipped.id := by
  cases shipped <;> cases builtin <;> decide

end Shipped

namespace Generator

/-- The step of an accepted entry sets the intervals that the config of the entry chooses. -/
structure SetsIntervals
    (generator : Generator)
    (entry : ChainEntry)
    (chosen : Intervals) : Prop where
  made : ∃ id, generator.processorOf entry = .ok ⟨id, .intervals chosen⟩
  config : ∃ written, entry.config.write = .ok written ∧ Shipped.Chooses written chosen

theorem exists_setsIntervals
    {generator : Generator}
    (finds : generator.FindsByName)
    {entry : ChainEntry}
    (supplied : ∀ plugin, generator.resolve entry.id = .ok plugin → plugin.Supplied)
    (sets : entry.setsIntervals = true)
    (accepts : generator.Accepts entry) :
    ∃ chosen, generator.SetsIntervals entry chosen := by
  rcases accepts with ⟨step, accepted⟩
  rcases Attempt.bind_eq_ok_iff.mp accepted with ⟨plugin, resolved, isMade⟩
  have named : plugin.id = Shipped.intervals.id := by
    have same := id_of_resolve finds resolved
    rw [of_decide_eq_true sets] at same
    exact (Json.text.inj same).symm
  have isIntervals : plugin = .shipped .intervals := by
    cases supplied plugin resolved with
    | builtin standard => exact absurd named (Shipped.id_ne_builtin _ standard)
    | shipped extra => rw [Shipped.id_injective named]
  rw [isIntervals] at isMade
  rcases NamedProcessor.create_of_make isMade with ⟨written, isWritten, created⟩
  rcases Attempt.map_eq_ok_iff.mp created with ⟨processor, isRead, same⟩
  rcases Shipped.exists_chooses_of_readIntervals isRead with ⟨chosen, chooses, rfl⟩
  rcases step with ⟨id, made⟩
  cases same
  exact ⟨chosen, ⟨id, accepted⟩, written, isWritten, chooses⟩

/-- The steps that sorted entries are made into. -/
def stepsOf
    (generator : Generator)
    (overrides : Bool)
    (sorted : List ChainEntry) : Except Failure (List NamedProcessor) := do
  let before ← generator.processorsOf (Chain.before sorted)
  let after ← generator.processorsOf (Chain.after sorted)
  return before ++ (if overrides then [] else generator.standard) ++ after

theorem jobFor_eq_stepsOf
    {slo : Slo}
    (copied : slo.chain.copyFailure? = none)
    (generator : Generator)
    (request : GenerationRequest) :
    generator.jobFor request slo =
      (generator.stepsOf slo.chain.overrides
          (Chain.sortEntries (generator.declaredFor request slo))).map fun steps =>
        ⟨request.labelled slo, steps⟩ := by
  rw [jobFor, Slo.copy, copied]
  rfl

/-- An accepted entry puts its step in, on the side of the standard steps that it runs on. -/
theorem alike_stepsOf_of_inserts
    {generator : Generator}
    {sorted more : List ChainEntry}
    {entry : ChainEntry}
    {step : NamedProcessor}
    (inserts : Inserts entry sorted more)
    (made : generator.processorOf entry = .ok step)
    (overrides : Bool) :
    Attempt.Alike (Inserts step)
      (generator.stepsOf overrides sorted)
      (generator.stepsOf overrides more) := by
  simp only [stepsOf, processorsOf_eq_mapM]
  by_cases isEarly : entry.priority < 0
  · have sameLasts : Chain.after more = Chain.after sorted :=
      inserts.filter_of_neg (by simpa using isEarly)
    rw [sameLasts]
    have early : Inserts entry (Chain.before sorted) (Chain.before more) :=
      inserts.filter_of_pos (decide_eq_true isEarly)
    refine (early.mapM made).bind fun before moreBefore inserted => ?_
    cases (Chain.after sorted).mapM generator.processorOf with
    | error failure => exact .failed failure
    | ok after => exact .done ((inserted.append_right _).append_right _)
  · have sameFirsts : Chain.before more = Chain.before sorted :=
      inserts.filter_of_neg (by simpa using isEarly)
    rw [sameFirsts]
    have late : Inserts entry (Chain.after sorted) (Chain.after more) :=
      inserts.filter_of_pos (decide_eq_true (Int.not_lt.mp isEarly))
    cases (Chain.before sorted).mapM generator.processorOf with
    | error failure => exact .failed failure
    | ok before =>
        exact (late.mapM made).bind fun after moreAfter inserted => .done (inserted.append_left _)

/-- Entries of other plugins of the library are made into steps that set no intervals. -/
theorem keepsIntervals_of_stepsOf
    {generator : Generator}
    {overrides : Bool}
    {declared : List ChainEntry}
    {steps : List NamedProcessor}
    (finds : generator.FindsByName)
    (standard : ∀ step ∈ generator.standard, step.processor.KeepsIntervals)
    (supplied :
      ∀ entry ∈ declared,
        ∀ plugin, generator.resolve entry.id = .ok plugin → plugin.Supplied)
    (made :
      generator.stepsOf overrides (Chain.sortEntries (Chain.otherEntries declared)) =
        .ok steps) :
    ∀ step ∈ steps, step.processor.KeepsIntervals := by
  have each :
      ∀ part ⊆ Chain.sortEntries (Chain.otherEntries declared),
        ∀ made, part.mapM generator.processorOf = .ok made →
          ∀ step ∈ made, step.processor.KeepsIntervals := by
    intro part isPart made areMade step isStep
    rcases Attempt.exists_left_of_forall₂ (Attempt.mapM_eq_ok_iff.mp areMade) isStep with
      ⟨entry, isEntry, isMade⟩
    rcases Attempt.bind_eq_ok_iff.mp isMade with ⟨plugin, resolved, created⟩
    have ⟨isDeclared, isOther⟩ :=
      List.mem_filter.mp (List.mem_mergeSort.mp (isPart isEntry))
    refine (supplied entry isDeclared plugin resolved).keepsIntervals_of_make ?_ created
    intro named
    have sets : entry.setsIntervals = true := by
      rw [ChainEntry.setsIntervals, id_of_resolve finds resolved, named]
      exact decide_eq_true rfl
    rw [sets] at isOther
    cases isOther
  simp only [stepsOf, processorsOf_eq_mapM] at made
  rcases Attempt.bind_eq_ok_iff.mp made with ⟨before, areBefore, afterBefore⟩
  rcases Attempt.bind_eq_ok_iff.mp afterBefore with ⟨after, areAfter, same⟩
  cases same
  intro step member
  rcases List.mem_append.mp member with inFront | isLast
  · rcases List.mem_append.mp inFront with isFirst | isStandard
    · exact each _ List.filter_sublist.subset before areBefore step isFirst
    · cases overrides with
      | true => cases isStandard
      | false => exact standard step isStandard
  · exact each _ List.filter_sublist.subset after areAfter step isLast

theorem standard_keepsIntervals
    {optimized : Bool}
    {appEntries : List ChainEntry}
    {plugins : Option (String → Option Plugin)}
    {accepts : String → Bool}
    {generator : Generator}
    (made : make optimized appEntries plugins accepts = .ok generator) :
    ∀ step ∈ generator.standard, step.processor.KeepsIntervals := by
  rcases Attempt.bind_eq_ok_iff.mp made with ⟨standard, walked, same⟩
  cases same
  intro step member
  rcases Attempt.exists_left_of_forall₂ (Attempt.mapM_eq_ok_iff.mp walked) member with
    ⟨builtin, _, isMade⟩
  exact
    (Plugin.Supplied.builtin builtin).keepsIntervals_of_make
      (Shipped.id_ne_builtin .intervals builtin) isMade

end Generator

/-! ## What the step changes -/

/-- Set the intervals of generated rules. -/
def Generated.setIntervals (chosen : Intervals) (result : Generated) : Generated :=
  { result with rules := Processor.withIntervals chosen result.rules }

theorem RuleSet.nameGroup_interval
    (name : String)
    (group : RuleGroup)
    (interval : Option Duration) :
    nameGroup name { group with interval } = { nameGroup name group with interval } := by
  simp only [nameGroup]
  split <;> rfl

theorem RuleSet.withNames_withIntervals
    (chosen : Intervals)
    (rules : RuleSet)
    (sloId : String) :
    (Processor.withIntervals chosen rules).withNames sloId =
      Processor.withIntervals chosen (rules.withNames sloId) := by
  simp only [withNames, Processor.withIntervals, nameGroup_interval]

/-- A step that sets the intervals, put among those of a job, changes the intervals only. -/
theorem Job.outcome_of_inserts
    {origin : Origin}
    {calculate : AlertCalculation}
    {slo : Slo}
    {steps more : List NamedProcessor}
    {id : String}
    {chosen : Intervals}
    (keep : ∀ step ∈ steps, step.processor.KeepsIntervals)
    (inserts : Inserts ⟨id, .intervals chosen⟩ steps more) :
    outcome origin calculate ⟨slo, more⟩ =
      (outcome origin calculate ⟨slo, steps⟩).map (Generated.setIntervals chosen) := by
  rcases inserts with ⟨front, back, rfl, rfl⟩
  have keepBack : ∀ step ∈ back, step.processor.KeepsIntervals :=
    fun step member => keep step (List.mem_append_right front member)
  rcases calculated : calculate slo.id slo.objective slo.period with cause | alerts
  · rw [outcome_of_uncalculated calculated, outcome_of_uncalculated calculated]
    rfl
  · rw [outcome_of_calculated calculated, outcome_of_calculated calculated]
    rcases runSteps_insert_intervals origin alerts keepBack front id chosen (begun slo) with
      ⟨stop, plain, set⟩ | ⟨stop, otherStop, cause, plain, set, sameSlo⟩
    · rw [plain, set]
      simp only [ended, Except.map, Generated.setIntervals, Progress.setIntervals,
        RuleSet.withNames_withIntervals]
    · rw [plain, set]
      simp only [ended, Except.map, sameSlo]

/-- Where the rules of an objective are made, its groups have the intervals of its entry. -/
theorem Generator.intervals_of_generateOne
    {generator : Generator}
    {request : GenerationRequest}
    {calculate : AlertCalculation}
    {slo : Slo}
    {result : Generated}
    (finds : generator.FindsByName)
    (standard : ∀ step ∈ generator.standard, step.processor.KeepsIntervals)
    (supplied :
      ∀ entry ∈ generator.declaredFor request slo,
        ∀ plugin, generator.resolve entry.id = .ok plugin → plugin.Supplied)
    {entry : ChainEntry}
    (single : Chain.intervalEntries (generator.declaredFor request slo) = [entry])
    {chosen : Intervals}
    (sets : generator.SetsIntervals entry chosen)
    (made : generator.generateOne calculate request slo = .ok result)
    (choice : GroupChoice) :
    (result.rules.main choice).interval = some (chosen.of choice) := by
  rcases Attempt.bind_eq_ok_iff.mp made with ⟨job, isJob, isDone⟩
  rw [jobFor_eq_stepsOf (jobFor_eq_ok_iff.mp isJob).1] at isJob
  rcases Attempt.map_eq_ok_iff.mp isJob with ⟨steps, areSteps, rfl⟩
  rcases sets.made with ⟨id, isStep⟩
  have alike :=
    alike_stepsOf_of_inserts (Chain.inserts_sortEntries single) isStep slo.chain.overrides
  rw [areSteps] at alike
  rcases alike.exists_ok with ⟨plain, arePlain, inserts⟩
  have keep := keepsIntervals_of_stepsOf finds standard supplied arePlain
  rw [Job.outcome_of_inserts keep inserts] at isDone
  rcases Attempt.map_eq_ok_iff.mp isDone with ⟨unset, _, rfl⟩
  exact Processor.interval_main_withIntervals chosen unset.rules choice

end ServiceLevel
