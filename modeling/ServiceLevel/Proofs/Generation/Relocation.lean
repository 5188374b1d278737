import ServiceLevel.Proofs.Generation.Insertion
import ServiceLevel.Proofs.Generation.OtherChains

/-!
# The place of the intervals

The entry that sets the intervals may stand anywhere in a chain and may have any priority: two
chains that differ in its place alone are the same steps with one more step put in at two
places.  Moving it between the levels changes the chain of the objective as well, which passes
the same check.  Both generations fail alike or leave the same rules.
-/

namespace ServiceLevel

/-! ## Chains that differ in the place of an entry -/

/-- The same rules of an objective that is the same but for its chain. -/
structure Generated.SameButChain (result moved : Generated) : Prop where
  slo : moved.slo = { result.slo with chain := moved.slo.chain }
  rules : moved.rules = result.rules

/--
Jobs of one objective in which the step of the intervals stands at any two places, or in none of
them: the chain of the objective may have changed with it.
-/
structure Job.Relocates (job moved : Job) : Prop where
  same : moved.slo = { job.slo with chain := moved.slo.chain }
  check : Slo.checkChain moved.slo.chain = Slo.checkChain job.slo.chain
  steps :
    ∃ steps : List NamedProcessor,
      (∀ step ∈ steps, step.processor.KeepsIntervals) ∧
        (job.steps = steps ∧ moved.steps = steps ∨
          ∃ id chosen,
            Inserts ⟨id, .intervals chosen⟩ steps job.steps ∧
              Inserts ⟨id, .intervals chosen⟩ steps moved.steps)

/-- Neither job has a step of the host, so that neither reads the context. -/
theorem Job.Relocates.ignoresContext
    {job moved : Job}
    (relocates : job.Relocates moved) :
    job.IgnoresContext ∧ moved.IgnoresContext := by
  obtain ⟨steps, keep, places⟩ := relocates.steps
  have keeps {step : NamedProcessor} (isOne : step ∈ steps) : step.processor.IgnoresContext :=
    Processor.respects_of_isHost_eq_false (keep step isOne).isHost_eq_false
  rcases places with ⟨same, movedSame⟩ | ⟨id, chosen, here, there⟩
  · rw [IgnoresContext, IgnoresContext, same, movedSame]
    exact ⟨fun _ => keeps, fun _ => keeps⟩
  · have ofMore {more : List NamedProcessor}
        (inserts : Inserts ⟨id, .intervals chosen⟩ steps more) :
        ∀ step ∈ more, step.processor.IgnoresContext := by
      obtain ⟨front, back, rfl, rfl⟩ := inserts
      intro step isOne
      rcases List.mem_append.mp isOne with inFront | others
      · exact keeps (List.mem_append_left _ inFront)
      · rcases List.mem_cons.mp others with rfl | behind
        · exact Processor.respects_of_isHost_eq_false rfl
        · exact keeps (List.mem_append_right _ behind)
    exact ⟨ofMore here, ofMore there⟩

theorem Job.Relocates.alike_outcome
    {origin : Origin}
    {calculate : AlertCalculation}
    {job moved : Job}
    (relocates : job.Relocates moved) :
    Attempt.Alike Generated.SameButChain
      (job.outcome origin calculate)
      (moved.outcome origin calculate) := by
  rcases job with ⟨slo, jobSteps⟩
  rcases moved with ⟨movedSlo, movedSteps⟩
  rcases relocates with ⟨sameSlo, sameCheck, steps, keep, places⟩
  simp only at sameSlo sameCheck places
  have noHosts : ∀ step ∈ steps, step.processor.isHost = false :=
    fun step member => (keep step member).isHost_eq_false
  have plain :
      outcome origin calculate ⟨movedSlo, steps⟩ =
        (outcome origin calculate ⟨slo, steps⟩).map
          (Generated.withChain movedSlo.chain) := by
    rw [sameSlo]
    exact outcome_withChain noHosts sameCheck
  rcases places with ⟨same, movedSame⟩ | ⟨id, chosen, here, there⟩
  · rw [same, movedSame, plain]
    cases outcome origin calculate ⟨slo, steps⟩ with
    | error failure => exact .failed failure
    | ok result => exact .done ⟨rfl, rfl⟩
  · rw [outcome_of_inserts keep here, outcome_of_inserts keep there, plain]
    cases outcome origin calculate ⟨slo, steps⟩ with
    | error failure => exact .failed failure
    | ok result => exact .done ⟨rfl, rfl⟩

namespace Generator

/-- An objective in two requests, for which one interval entry at most is declared. -/
structure RelocatesSlo
    (generator : Generator)
    (request : GenerationRequest)
    (other : Generator)
    (moved : GenerationRequest)
    (slo movedSlo : Slo) : Prop where
  same :
    movedSlo =
      { slo with chain := { slo.chain with entries := movedSlo.chain.entries } }
  others : Chain.otherEntries movedSlo.chain.entries = Chain.otherEntries slo.chain.entries
  single : (Chain.intervalEntries (generator.declaredFor request slo)).length ≤ 1
  configs :
    (Chain.intervalEntries (other.declaredFor moved movedSlo)).map ChainEntry.config =
      (Chain.intervalEntries (generator.declaredFor request slo)).map ChainEntry.config
  accepted :
    ∀ entry ∈ Chain.intervalEntries (generator.declaredFor request slo),
      generator.Accepts entry

/--
Generators and requests with the same entries but for those of the intervals: of these, each
objective has one at most, with the same config, and that may have any priority and may stand at
any place of any level.
-/
structure Relocates
    (generator : Generator)
    (request : GenerationRequest)
    (other : Generator)
    (moved : GenerationRequest) : Prop where
  standard : other.standard = generator.standard
  plugins : other.plugins = generator.plugins
  accepts : other.accepts = generator.accepts
  origin : moved.origin = request.origin
  extraLabels : moved.extraLabels = request.extraLabels
  app : Chain.otherEntries other.appEntries = Chain.otherEntries generator.appEntries
  group :
    Chain.otherEntries moved.group.chain.entries =
      Chain.otherEntries request.group.chain.entries
  slos :
    List.Forall₂ (generator.RelocatesSlo request other moved) request.group.slos
      moved.group.slos

section Relocated

variable {generator other : Generator} {request moved : GenerationRequest}

theorem Relocates.resolve
    (relocates : generator.Relocates request other moved) :
    other.resolve = generator.resolve := by
  funext id
  simp only [Generator.resolve, relocates.plugins]

theorem Relocates.processorOf
    (relocates : generator.Relocates request other moved) :
    other.processorOf = generator.processorOf := by
  funext entry
  simp only [Generator.processorOf, relocates.resolve, relocates.accepts]

theorem Relocates.stepsOf
    (relocates : generator.Relocates request other moved) :
    other.stepsOf = generator.stepsOf := by
  funext overrides sorted
  simp only [Generator.stepsOf, processorsOf_eq_mapM, relocates.processorOf,
    relocates.standard]

theorem RelocatesSlo.declaresNone_iff
    {slo movedSlo : Slo}
    (relocates : generator.RelocatesSlo request other moved slo movedSlo) :
    Chain.intervalEntries (other.declaredFor moved movedSlo) = [] ↔
      Chain.intervalEntries (generator.declaredFor request slo) = [] := by
  rw [← List.map_eq_nil_iff, relocates.configs, List.map_eq_nil_iff]

/-- Chains that differ in the place of the intervals alone are accepted alike. -/
theorem RelocatesSlo.checkChain_eq
    {slo movedSlo : Slo}
    (relocates : generator.RelocatesSlo request other moved slo movedSlo) :
    Slo.checkChain movedSlo.chain = Slo.checkChain slo.chain := by
  have sameOverrides : movedSlo.chain.overrides = slo.chain.overrides := by
    rw [relocates.same]
  have sameEmpty :
      (movedSlo.chain.overrides && movedSlo.chain.entries.isEmpty) =
        (slo.chain.overrides && slo.chain.entries.isEmpty) := by
    cases overrides : slo.chain.overrides with
    | false => rw [sameOverrides, overrides, Bool.false_and, Bool.false_and]
    | true =>
        -- an overriding chain declares all entries of its objective
        have none := relocates.declaresNone_iff
        simp only [declaredFor, sameOverrides, overrides, if_true] at none
        rw [sameOverrides, overrides, Bool.true_and, Bool.true_and, Bool.eq_iff_iff,
          List.isEmpty_iff, List.isEmpty_iff, Chain.eq_nil_iff, none, relocates.others,
          ← Chain.eq_nil_iff]
  rw [Slo.checkChain, Slo.checkChain, sameEmpty,
    ← Chain.all_isGiven_otherEntries movedSlo.chain.entries, relocates.others,
    Chain.all_isGiven_otherEntries]

theorem Relocates.otherEntries_declaredFor
    (relocates : generator.Relocates request other moved)
    {slo movedSlo : Slo}
    (ofSlo : generator.RelocatesSlo request other moved slo movedSlo) :
    Chain.otherEntries (other.declaredFor moved movedSlo) =
      Chain.otherEntries (generator.declaredFor request slo) := by
  have sameOverrides : movedSlo.chain.overrides = slo.chain.overrides := by
    rw [ofSlo.same]
  simp only [declaredFor, sameOverrides]
  split
  · exact ofSlo.others
  · simp only [Chain.otherEntries_append, relocates.app, relocates.group, ofSlo.others]

/-- What is declared for an objective is among all entries. -/
theorem mem_entries_of_mem_declaredFor
    {slo : Slo}
    (isOne : slo ∈ request.group.slos)
    {entry : ChainEntry}
    (member : entry ∈ generator.declaredFor request slo) :
    entry ∈ generator.entries request := by
  apply mem_entries_of_mem_merge isOne
  exact List.mem_mergeSort.mpr member

theorem RelocatesSlo.eq_singleton
    {slo movedSlo : Slo}
    (relocates : generator.RelocatesSlo request other moved slo movedSlo)
    {entry : ChainEntry}
    (member : entry ∈ Chain.intervalEntries (generator.declaredFor request slo)) :
    Chain.intervalEntries (generator.declaredFor request slo) = [entry] := by
  have single := relocates.single
  generalize Chain.intervalEntries (generator.declaredFor request slo) = entries
    at member single
  match entries, single with
  | [first], _ => rw [List.mem_singleton.mp member]

/-- The entries of the intervals, as they are declared in both requests. -/
theorem RelocatesSlo.cases
    {slo movedSlo : Slo}
    (relocates : generator.RelocatesSlo request other moved slo movedSlo) :
    Chain.intervalEntries (generator.declaredFor request slo) = [] ∧
        Chain.intervalEntries (other.declaredFor moved movedSlo) = [] ∨
      ∃ entry movedEntry,
        Chain.intervalEntries (generator.declaredFor request slo) = [entry] ∧
          Chain.intervalEntries (other.declaredFor moved movedSlo) = [movedEntry] ∧
          entry.setsIntervals = true ∧
          movedEntry.id = entry.id ∧
          movedEntry.config = entry.config := by
  have configs := relocates.configs
  by_cases none : Chain.intervalEntries (generator.declaredFor request slo) = []
  · exact Or.inl ⟨none, relocates.declaresNone_iff.mpr none⟩
  · rcases List.exists_mem_of_ne_nil _ none with ⟨entry, isDeclared⟩
    have declared := relocates.eq_singleton isDeclared
    rw [declared] at configs
    rcases List.map_eq_singleton_iff.mp configs with ⟨movedEntry, movedDeclared, sameConfig⟩
    have sets : entry.setsIntervals = true := (List.mem_filter.mp isDeclared).2
    have movedSets : movedEntry.setsIntervals = true :=
      (List.mem_filter.mp (movedDeclared ▸ List.mem_singleton_self movedEntry)).2
    refine Or.inr ⟨entry, movedEntry, declared, movedDeclared, sets, ?_, sameConfig⟩
    rw [of_decide_eq_true sets, of_decide_eq_true movedSets]

/-- Accepted entries can be copied wherever they stand, and the others are the same. -/
theorem RelocatesSlo.copyFailure?_eq
    {slo movedSlo : Slo}
    (relocates : generator.RelocatesSlo request other moved slo movedSlo) :
    movedSlo.chain.copyFailure? = slo.chain.copyFailure? := by
  have copied :
      ∀ entry ∈ Chain.intervalEntries slo.chain.entries,
        entry.config.copyFailure? = none := by
    intro entry member
    have ⟨isOwn, sets⟩ := List.mem_filter.mp member
    exact
      (relocates.accepted entry
        (List.mem_filter.mpr ⟨mem_declaredFor isOwn, sets⟩)).copyFailure?_eq_none
  have movedCopied :
      ∀ entry ∈ Chain.intervalEntries movedSlo.chain.entries,
        entry.config.copyFailure? = none := by
    intro entry member
    have ⟨isOwn, sets⟩ := List.mem_filter.mp member
    have isConfig :
        entry.config ∈
          (Chain.intervalEntries (generator.declaredFor request slo)).map
            ChainEntry.config := by
      rw [← relocates.configs]
      exact
        List.mem_map.mpr ⟨entry, List.mem_filter.mpr ⟨mem_declaredFor isOwn, sets⟩, rfl⟩
    obtain ⟨declared, isDeclared, same⟩ := List.mem_map.mp isConfig
    rw [← same]
    exact (relocates.accepted declared isDeclared).copyFailure?_eq_none
  have sameOverrides : movedSlo.chain.overrides = slo.chain.overrides := by
    rw [relocates.same]
  calc
    movedSlo.chain.copyFailure? =
        (⟨Chain.otherEntries movedSlo.chain.entries, movedSlo.chain.overrides⟩ :
          Chain).copyFailure? := Chain.copyFailure?_eq_otherEntries movedCopied _
    _ =
        (⟨Chain.otherEntries slo.chain.entries, slo.chain.overrides⟩ :
          Chain).copyFailure? := by rw [relocates.others, sameOverrides]
    _ = slo.chain.copyFailure? := (Chain.copyFailure?_eq_otherEntries copied _).symm

/-- Both requests have the same failure for an objective, or jobs that end alike. -/
theorem Relocates.alike_jobFor
    {slo movedSlo : Slo}
    (relocates : generator.Relocates request other moved)
    (ofSlo : generator.RelocatesSlo request other moved slo movedSlo)
    (finds : generator.FindsByName)
    (standard : ∀ step ∈ generator.standard, step.processor.KeepsIntervals)
    (supplied :
      ∀ entry ∈ generator.declaredFor request slo,
        ∀ plugin, generator.resolve entry.id = .ok plugin → plugin.Supplied) :
    Attempt.Alike Job.Relocates
      (generator.jobFor request slo)
      (other.jobFor moved movedSlo) := by
  have sameOverrides : movedSlo.chain.overrides = slo.chain.overrides := by
    rw [ofSlo.same]
  have sameOthers := relocates.otherEntries_declaredFor ofSlo
  have sameLabelled :
      moved.labelled movedSlo =
        { request.labelled slo with chain := (moved.labelled movedSlo).chain } := by
    simp only [GenerationRequest.labelled, relocates.extraLabels]
    rw [ofSlo.same]
  have sameChecked :
      Slo.checkChain (moved.labelled movedSlo).chain =
        Slo.checkChain (request.labelled slo).chain := ofSlo.checkChain_eq
  rcases copied : slo.chain.copyFailure? with _ | failure
  swap
  · have movedUncopied := ofSlo.copyFailure?_eq.trans copied
    rw [jobFor_eq_error_iff.mpr (Or.inl copied), jobFor_eq_error_iff.mpr (Or.inl movedUncopied)]
    exact .failed failure
  rw [jobFor_eq_stepsOf copied, jobFor_eq_stepsOf (ofSlo.copyFailure?_eq.trans copied),
    relocates.stepsOf, sameOverrides]
  rcases ofSlo.cases with
    ⟨none, movedNone⟩ | ⟨entry, movedEntry, single, movedSingle, sets, sameId, sameConfig⟩
  · -- without such an entry both lists of entries are the same
    have sameDeclared :
        other.declaredFor moved movedSlo = generator.declaredFor request slo := by
      rw [← Chain.otherEntries_eq_self movedNone, sameOthers, Chain.otherEntries_eq_self none]
    rw [sameDeclared]
    rcases made :
        generator.stepsOf slo.chain.overrides
          (Chain.sortEntries (generator.declaredFor request slo)) with failure | steps
    · exact .failed failure
    · rw [← Chain.otherEntries_eq_self none] at made
      have keep := keepsIntervals_of_stepsOf finds standard supplied made
      exact .done ⟨sameLabelled, sameChecked, steps, keep, Or.inl ⟨rfl, rfl⟩⟩
  · have isDeclared :
        entry ∈ Chain.intervalEntries (generator.declaredFor request slo) :=
      single ▸ List.mem_singleton_self entry
    rcases exists_setsIntervals finds
        (supplied entry (List.mem_filter.mp isDeclared).1) sets
        (ofSlo.accepted entry isDeclared) with
      ⟨chosen, ⟨id, made⟩, _⟩
    have movedMade : generator.processorOf movedEntry = .ok ⟨id, .intervals chosen⟩ := by
      rw [← made, Generator.processorOf, Generator.processorOf, sameId, sameConfig]
    have here :=
      alike_stepsOf_of_inserts (Chain.inserts_sortEntries single) made slo.chain.overrides
    have there :=
      alike_stepsOf_of_inserts (Chain.inserts_sortEntries movedSingle) movedMade
        slo.chain.overrides
    rw [sameOthers] at there
    refine (here.join there).map ?_
    rintro steps movedSteps ⟨plain, areOthers, inserts, movedInserts⟩
    have keep := keepsIntervals_of_stepsOf finds standard supplied areOthers
    exact
      ⟨sameLabelled, sameChecked, plain, keep, Or.inr ⟨id, chosen, inserts, movedInserts⟩⟩

end Relocated

/-! ## A moved entry of one objective -/

section Timed

variable {generator : Generator}

theorem findsByName_of_shippedOnly
    (shippedOnly : generator.plugins = some shippedPlugin) :
    generator.FindsByName := by
  rw [FindsByName, shippedOnly]
  rintro find isFind name plugin found
  cases isFind
  rcases Option.map_eq_some_iff.mp found with ⟨shipped, isFound, rfl⟩
  have named : shipped.id = name := by
    simpa using List.find?_some isFound
  exact named

theorem namesSupplied_of_shippedOnly
    (shippedOnly : generator.plugins = some shippedPlugin)
    (request : GenerationRequest) :
    generator.NamesSupplied request := by
  intro entry member plugin resolved
  apply supplied_of_resolve _ resolved
  rw [shippedOnly]
  rintro find isFind name other found
  cases isFind
  exact supplied_of_shippedPlugin found

/-- An entry of the intervals: half a minute for the alerts, and a minute for the rest. -/
def timedEntry (priority : Int) : ChainEntry :=
  ⟨.text Shipped.intervals.id,
    .map
      [(.text "interval", .map [(.text "default", .text "1m"), (.text "alert", .text "30s")])],
    priority⟩

/-- An entry of another plugin. -/
def totalEntry : ChainEntry :=
  ⟨.text Shipped.totalAmount.id, .null, 0⟩

/-- An objective with entries of its own. -/
def timedSlo (entries : List ChainEntry) : Slo :=
  { Processor.countedSlo (Processor.errorQuery "" "") with chain := ⟨entries, false⟩ }

/-- A request for this objective, in a group with other entries. -/
def timedRequest (groupEntries entries : List ChainEntry) : GenerationRequest where
  group := { slos := [timedSlo entries], chain := ⟨groupEntries, false⟩ }

theorem declaredFor_timedRequest
    (noEntries : generator.appEntries = [])
    (groupEntries own : List ChainEntry) :
    generator.declaredFor (timedRequest groupEntries own) (timedSlo own) =
      groupEntries ++ own := by
  show generator.appEntries ++ groupEntries ++ own = _
  rw [noEntries, List.nil_append]

/-- The entry moves from the objective to the group, and from in front to the end. -/
theorem relocates_timed
    (noEntries : generator.appEntries = [])
    (accepted : generator.Accepts (timedEntry (-1))) :
    generator.Relocates (timedRequest [] [timedEntry (-1), totalEntry]) generator
      (timedRequest [timedEntry 5] [totalEntry]) := by
  have timedSets (priority : Int) : (timedEntry priority).setsIntervals = true :=
    decide_eq_true rfl
  have totalOther : totalEntry.setsIntervals = false := by decide
  have single :
      Chain.intervalEntries
          (generator.declaredFor (timedRequest [] [timedEntry (-1), totalEntry])
            (timedSlo [timedEntry (-1), totalEntry])) =
        [timedEntry (-1)] := by
    simp [declaredFor_timedRequest noEntries, Chain.intervalEntries, timedSets, totalOther]
  have movedSingle :
      Chain.intervalEntries
          (generator.declaredFor (timedRequest [timedEntry 5] [totalEntry])
            (timedSlo [totalEntry])) =
        [timedEntry 5] := by
    simp [declaredFor_timedRequest noEntries, Chain.intervalEntries, timedSets, totalOther]
  refine ⟨rfl, rfl, rfl, rfl, rfl, rfl, ?_, .cons ⟨rfl, ?_, ?_, ?_, ?_⟩ .nil⟩
  · simp [timedRequest, Chain.otherEntries, timedSets]
  · simp [timedSlo, Chain.otherEntries, timedSets]
  · rw [single]
    exact Nat.le_refl 1
  · rw [single, movedSingle]
    rfl
  · rw [single]
    intro entry member
    rw [List.mem_singleton.mp member]
    exact accepted

end Timed

end Generator

/-! ## Whole requests -/

theorem SloGroup.firstRepeated_congr
    {slos others : List Slo}
    (sameIds : List.Forall₂ (fun slo other => other.id = slo.id) slos others)
    (seen : List String) :
    validate.firstRepeated seen others = validate.firstRepeated seen slos := by
  induction sameIds generalizing seen with
  | nil => rfl
  | cons first _ ih => rw [validate.firstRepeated, validate.firstRepeated, first, ih]

theorem SloGroup.validate_congr
    {group other : SloGroup}
    (sameIds : List.Forall₂ (fun slo other => other.id = slo.id) group.slos other.slos) :
    other.validate = group.validate := by
  rcases group with ⟨slos, chain⟩
  rcases other with ⟨others, otherChain⟩
  rw [validate, validate, firstRepeated_congr sameIds]
  cases sameIds <;> rfl

namespace Generator

section Requests

variable {generator other : Generator} {request moved : GenerationRequest}

theorem Relocates.validate
    (relocates : generator.Relocates request other moved) :
    moved.group.validate = request.group.validate := by
  apply SloGroup.validate_congr
  refine relocates.slos.imp ?_
  intro slo movedSlo ofSlo
  rw [ofSlo.same]

/--
The place of the entry that sets the intervals does not matter.  If all entries of chains name
plugins of the library, and for each objective at most one entry, which has an accepted config,
sets the intervals, then a generation fails with the same failure or generates the same rules
for each objective, whatever priority these entries have and wherever among the others they
stand.  The three groups of an objective with such an entry have the intervals that its config
chooses, which are longer than nothing.
-/
theorem generate_relocated_intervals
    {optimized : Bool}
    {appEntries : List ChainEntry}
    {plugins : Option (String → Option Plugin)}
    {accepts : String → Bool}
    (made : make optimized appEntries plugins accepts = .ok generator)
    (finds : generator.FindsByName)
    (supplied : generator.NamesSupplied request)
    (relocates : generator.Relocates request other moved)
    (calculate : AlertCalculation) :
    Attempt.Alike (List.Forall₂ Generated.SameButChain)
        (generator.generate calculate request).result
        (other.generate calculate moved).result ∧
      ∀ results,
        (generator.generate calculate request).result = .ok results →
          List.Forall₂
            (fun slo result =>
              ∀ entry ∈ Chain.intervalEntries (generator.declaredFor request slo),
                ∃ chosen,
                  generator.SetsIntervals entry chosen ∧
                    ∀ choice,
                      (result.rules.main choice).interval = some (chosen.of choice))
            request.group.slos results := by
  have standard := standard_keepsIntervals made
  have suppliedFor :
      ∀ slo ∈ request.group.slos,
        ∀ entry ∈ generator.declaredFor request slo,
          ∀ plugin, generator.resolve entry.id = .ok plugin → plugin.Supplied :=
    fun slo isOne entry member => supplied entry (mem_entries_of_mem_declaredFor isOne member)
  have each :=
    (List.forall₂_and_left request.group.slos moved.group.slos).mpr
      ⟨fun _ member => member, relocates.slos⟩
  have alikeEach :
      List.Forall₂
        (fun slo movedSlo =>
          Attempt.Alike Job.Relocates
            (generator.jobFor request slo)
            (other.jobFor moved movedSlo))
        request.group.slos moved.group.slos := by
    refine each.imp ?_
    rintro slo movedSlo ⟨isOne, ofSlo⟩
    exact relocates.alike_jobFor ofSlo finds standard (suppliedFor slo isOne)
  constructor
  · rw [generate_result, generate_result, relocates.validate, relocates.origin]
    cases request.group.validate with
    | error failure => exact .failed failure
    | ok valid =>
        have alikeJobs :
            Attempt.Alike (List.Forall₂ Job.Relocates)
              (request.group.slos.mapM (generator.jobFor request))
              (moved.group.slos.mapM (other.jobFor moved)) :=
          Attempt.Alike.mapM alikeEach
        refine alikeJobs.bind fun jobs movedJobs areRelocated => ?_
        have ignore : ∀ job ∈ jobs, job.IgnoresContext := by
          intro job isJob
          obtain ⟨movedJob, _, isRelocated⟩ := Attempt.exists_right_of_forall₂ areRelocated isJob
          exact isRelocated.ignoresContext.1
        have movedIgnore : ∀ job ∈ movedJobs, job.IgnoresContext := by
          intro movedJob isJob
          obtain ⟨job, _, isRelocated⟩ := Attempt.exists_left_of_forall₂ areRelocated isJob
          exact isRelocated.ignoresContext.2
        rw [Job.runAll_snd ignore, Job.runAll_snd movedIgnore]
        apply Attempt.Alike.mapM
        exact areRelocated.imp fun _ _ isRelocated => isRelocated.alike_outcome
  · intro results generated
    have ignores : generator.IgnoresContext request := by
      intro slo isOne job isJob
      obtain ⟨movedSlo, _, alike⟩ := Attempt.exists_right_of_forall₂ alikeEach isOne
      rw [isJob] at alike
      generalize other.jobFor moved movedSlo = movedJob at alike
      cases alike with
      | done isRelocated => exact isRelocated.ignoresContext.1
    have madeEach :=
      (List.forall₂_and_left request.group.slos results).mpr
        ⟨fun _ member => member, ((generate_eq_ok_iff ignores).mp generated).2⟩
    refine madeEach.imp ?_
    rintro slo result ⟨isOne, isGenerated⟩ entry isDeclared
    rcases Attempt.exists_right_of_forall₂ relocates.slos isOne with ⟨movedSlo, _, ofSlo⟩
    have ⟨member, sets⟩ := List.mem_filter.mp isDeclared
    rcases exists_setsIntervals finds (suppliedFor slo isOne entry member) sets
        (ofSlo.accepted entry isDeclared) with ⟨chosen, isSet⟩
    refine ⟨chosen, isSet, ?_⟩
    exact
      intervals_of_generateOne finds standard (suppliedFor slo isOne)
        (ofSlo.eq_singleton isDeclared) isSet isGenerated

end Requests

theorem generate_relocated_intervals_of_timed :
    ∃ (generator : Generator) (result moved : Generated),
      (generator.generate (fun _ _ _ => .ok Alerting.sameAlerts)
          (timedRequest [] [timedEntry (-1), totalEntry])).result = .ok [result] ∧
        (generator.generate (fun _ _ _ => .ok Alerting.sameAlerts)
            (timedRequest [timedEntry 5] [totalEntry])).result = .ok [moved] ∧
        moved.rules = result.rules ∧
        [result.rules.errorRatio.interval, result.rules.metadata.interval,
            result.rules.alerts.interval] =
          [some ⟨60000000⟩, some ⟨60000000⟩, some ⟨30000000⟩] ∧
        ∀ choice, ∃ interval,
          (result.rules.main choice).interval = some interval ∧ 0 < interval.microseconds := by
  let calculate : AlertCalculation := fun _ _ _ => .ok Alerting.sameAlerts
  let entries := [timedEntry (-1), totalEntry]
  let outcome : Except Failure Generated :=
    make false [] (some shippedPlugin) >>= fun generator =>
      generator.processorOf (timedEntry (-1)) >>= fun _ =>
        generator.stepsOf false entries >>= fun steps =>
          Job.outcome {} calculate ⟨(timedRequest [] entries).labelled (timedSlo entries), steps⟩
  have timed :
      outcome.toOption.map
          (fun result =>
            [result.rules.errorRatio.interval, result.rules.metadata.interval,
              result.rules.alerts.interval]) =
        some [some ⟨60000000⟩, some ⟨60000000⟩, some ⟨30000000⟩] := by
    decide +kernel
  rcases Option.map_eq_some_iff.mp timed with ⟨result, isResult, areTimed⟩
  have isDone : outcome = .ok result := Attempt.toOption_eq_some_iff.mp isResult
  rcases Attempt.bind_eq_ok_iff.mp isDone with ⟨generator, made, afterMade⟩
  rcases Attempt.bind_eq_ok_iff.mp afterMade with ⟨step, accepted, afterAccepted⟩
  rcases Attempt.bind_eq_ok_iff.mp afterAccepted with ⟨steps, areSteps, jobDone⟩
  rcases fields_of_make made with ⟨noEntries, shippedOnly⟩
  have sorted :
      Chain.sortEntries (generator.declaredFor (timedRequest [] entries) (timedSlo entries)) =
        entries := by
    rw [declaredFor_timedRequest noEntries]
    exact List.mergeSort_of_pairwise (by simp [entries, timedEntry, totalEntry])
  have generatedOne :
      generator.generateOne calculate (timedRequest [] entries) (timedSlo entries) =
        .ok result := by
    refine Attempt.bind_eq_ok_iff.mpr ⟨_, ?_, jobDone⟩
    rw [jobFor_eq_stepsOf rfl, sorted]
    exact Attempt.map_eq_ok_iff.mpr ⟨steps, areSteps, rfl⟩
  have isOnly : (timedRequest [] entries).only (timedSlo entries) = timedRequest [] entries :=
    rfl
  have generated :
      (generator.generate calculate (timedRequest [] entries)).result = .ok [result] := by
    rw [← isOnly]
    exact generate_only_eq_ok_iff.mpr ⟨result, generatedOne, rfl⟩
  have isDeclared :
      timedEntry (-1) ∈
        Chain.intervalEntries
          (generator.declaredFor (timedRequest [] entries) (timedSlo entries)) := by
    rw [declaredFor_timedRequest noEntries]
    exact List.mem_filter.mpr ⟨List.mem_cons_self, decide_eq_true rfl⟩
  have ⟨alike, timedEach⟩ :=
    generate_relocated_intervals made (findsByName_of_shippedOnly shippedOnly)
      (namesSupplied_of_shippedOnly shippedOnly (timedRequest [] entries))
      (relocates_timed noEntries ⟨step, accepted⟩) calculate
  rw [generated] at alike
  rcases moves : (generator.generate calculate (timedRequest [timedEntry 5] [totalEntry])).result
    with failure | others
  · rw [moves] at alike
    cases alike
  · rw [moves] at alike
    cases alike with
    | done related =>
        rcases List.forall₂_cons_left_iff.mp related with ⟨moved, rest, same, noMore, rfl⟩
        cases noMore
        refine
          ⟨generator, result, moved, generated, moves, same.rules, areTimed, fun choice => ?_⟩
        have ofEntry := (List.forall₂_cons.mp (timedEach [result] generated)).1
        rcases ofEntry _ isDeclared with ⟨chosen, sets, each⟩
        rcases sets.config with ⟨written, _, chooses⟩
        exact ⟨_, each choice, chooses.positive choice⟩

end Generator

end ServiceLevel
