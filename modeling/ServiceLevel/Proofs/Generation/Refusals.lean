import ServiceLevel.Proofs.Generation.Attribution

/-!
# Entries that make no processor

An entry of a chain makes no processor if its identifier is that of no plugin, if its
config cannot be written, if the plugin refuses the config, or if the plugin makes something
else.  The failure is one of the identifier or of the config, and it names the plugin.  An
identifier that is a list or a map cannot even be looked up.

The main statement says that such an entry is found before anything else happens: the
generation fails with the first of them, in the order of the objectives and of the
processors of each, and leaves nothing behind.  An objective is copied before its processors
are made, so that of its own entries one with a config that cannot be copied comes first,
and the failure is that of copying it.
-/

namespace ServiceLevel

/-! ## One entry -/

/-- A configuration failure that names a plugin and has the given cause, if one is given. -/
structure Failure.BlamesConfig
    (failure : Failure)
    (plugin : Plugin)
    (cause : Option Failure) : Prop where
  kind : failure.kind = .configuration
  details : failure.report.details = [("plugin_id", .text plugin.id)]
  cause : failure.cause? = cause

namespace Generator

/-- No plugin has an identifier: neither a built-in one nor one that is looked up. -/
def Lacks (generator : Generator) (id : Json) : Prop :=
  ∀ name,
    id = .text name →
      (∀ builtin ∈ Builtin.all, builtin.id ≠ name) ∧
        ∀ find ∈ generator.plugins, find name = none

/-- The ways in which an entry makes no processor, and the failure of each. -/
inductive Refuses
    (generator : Generator)
    (entry : ChainEntry)
    (failure : Failure) : Prop where
  | unknown
      (isKey : entry.id.IsKey)
      (lacks : generator.Lacks entry.id)
      (isFailure : failure = .notFound entry.id)
  | unwritten
      {plugin : Plugin}
      {cause : Failure}
      (resolved : generator.resolve entry.id = .ok plugin)
      (fails : entry.config.write = .error cause)
      (blames : failure.BlamesConfig plugin (some cause))
  | refused
      {plugin : Plugin}
      {written : String}
      {cause : Failure}
      (resolved : generator.resolve entry.id = .ok plugin)
      (writes : entry.config.write = .ok written)
      (fails : plugin.create generator.accepts written = .error cause)
      (blames : failure.BlamesConfig plugin (some cause))
  | withoutProcessor
      {plugin : Plugin}
      {written : String}
      (resolved : generator.resolve entry.id = .ok plugin)
      (writes : entry.config.write = .ok written)
      (creates : plugin.create generator.accepts written = .ok none)
      (blames : failure.BlamesConfig plugin none)
  | noKey
      (notKey : ¬ entry.id.IsKey)
      (isFailure : failure = Shipped.unhashable entry.id)

theorem lacks_of_resolve
    {generator : Generator}
    {name : String}
    {failure : Failure}
    (failed : generator.resolve (.text name) = .error failure) :
    generator.Lacks (.text name) := by
  simp only [resolve] at failed
  split at failed
  · cases failed
  · rename_i notBuiltin
    split at failed
    · cases failed
    · rename_i notFound
      rintro _ ⟨rfl⟩
      constructor
      · intro builtin member same
        exact List.find?_eq_none.mp notBuiltin builtin member (decide_eq_true same)
      · exact Option.bind_eq_none_iff.mp notFound

/-- An identifier that is not resolved is that of no plugin, or it is no key. -/
theorem resolve_eq_error_cases
    {generator : Generator}
    {id : Json}
    {failure : Failure}
    (failed : generator.resolve id = .error failure) :
    id.IsKey ∧ generator.Lacks id ∧ failure = .notFound id ∨
      ¬ id.IsKey ∧ failure = Shipped.unhashable id := by
  rcases resolve_eq_error failed with ⟨isKey, isFailure⟩ | noKey
  · refine Or.inl ⟨isKey, ?_, isFailure⟩
    rintro name rfl
    exact lacks_of_resolve failed name rfl
  · exact Or.inr noKey

theorem refuses_of_processorOf
    {generator : Generator}
    {entry : ChainEntry}
    {failure : Failure}
    (failed : generator.processorOf entry = .error failure) :
    generator.Refuses entry failure := by
  rcases Attempt.bind_eq_error_iff.mp failed with unresolved | ⟨plugin, resolved, unmade⟩
  · rcases resolve_eq_error_cases unresolved with
      ⟨isKey, lacks, isFailure⟩ | ⟨notKey, isFailure⟩
    · exact .unknown isKey lacks isFailure
    · exact .noKey notKey isFailure
  · rw [NamedProcessor.make] at unmade
    rcases written : entry.config.write with cause | config
    · rw [written] at unmade
      cases unmade
      exact .unwritten resolved written ⟨rfl, rfl, rfl⟩
    · rcases created : plugin.create generator.accepts config with cause | (_ | processor)
      · simp only [written, created] at unmade
        cases unmade
        exact .refused resolved written created ⟨rfl, rfl, rfl⟩
      · simp only [written, created] at unmade
        cases unmade
        exact .withoutProcessor resolved written created ⟨rfl, rfl, rfl⟩
      · simp only [written, created] at unmade
        cases unmade

/-- An entry with a key for its identifier refuses for want of its plugin or for its config. -/
theorem Refuses.kind
    {generator : Generator}
    {entry : ChainEntry}
    {failure : Failure}
    (refuses : generator.Refuses entry failure)
    (isKey : entry.id.IsKey) :
    failure = .notFound entry.id ∨ failure.kind = .configuration := by
  cases refuses with
  | unknown _ _ isFailure => exact Or.inl isFailure
  | unwritten _ _ blames => exact Or.inr blames.kind
  | refused _ _ _ blames => exact Or.inr blames.kind
  | withoutProcessor _ _ _ blames => exact Or.inr blames.kind
  | noKey notKey => exact absurd isKey notKey

/-- The failure of an entry names its identifier where plugins are found by theirs. -/
theorem Refuses.details
    {generator : Generator}
    {entry : ChainEntry}
    {failure : Failure}
    (refuses : generator.Refuses entry failure)
    (isKey : entry.id.IsKey)
    (findsByName : generator.FindsByName) :
    failure.report.details = [("plugin_id", entry.id)] := by
  have named :
      ∀ {plugin cause},
        generator.resolve entry.id = .ok plugin →
          failure.BlamesConfig plugin cause →
            failure.report.details = [("plugin_id", entry.id)] := by
    intro plugin cause resolved blames
    rw [blames.details, id_of_resolve findsByName resolved]
  cases refuses with
  | unknown _ _ isFailure =>
      rw [isFailure]
      rfl
  | unwritten resolved _ blames => exact named resolved blames
  | refused resolved _ _ blames => exact named resolved blames
  | withoutProcessor resolved _ _ blames => exact named resolved blames
  | noKey notKey => exact absurd isKey notKey

end Generator

/-! ## The entries of an objective -/

/-- What runs before the built-in processors and what runs after them is all that is sorted. -/
theorem Chain.before_append_after (declared : List ChainEntry) :
    before (sortEntries declared) ++ after (sortEntries declared) =
      sortEntries declared := by
  rcases exists_arranged_sortEntries declared with ⟨order, arranged, sorted⟩
  rw [← sorted, ← map_placedBefore, ← map_placedAfter, ← List.map_append,
    placedBefore_append_placedAfter arranged.ascending]

namespace Generator

/-- The entries declared for an objective: its own, or those of all levels. -/
def declaredFor
    (generator : Generator)
    (request : GenerationRequest)
    (slo : Slo) : List ChainEntry :=
  if slo.chain.overrides then slo.chain.entries
  else generator.appEntries ++ request.group.chain.entries ++ slo.chain.entries

/-- A processor can be made of an entry. -/
def Accepts (generator : Generator) (entry : ChainEntry) : Prop :=
  ∃ step, generator.processorOf entry = .ok step

theorem accepts_iff_isOk {generator : Generator} {entry : ChainEntry} :
    generator.Accepts entry ↔ (generator.processorOf entry).isOk := by
  constructor
  · rintro ⟨step, made⟩
    rw [made]
    rfl
  · exact Attempt.exists_of_isOk

instance (generator : Generator) (entry : ChainEntry) : Decidable (generator.Accepts entry) :=
  decidable_of_iff _ accepts_iff_isOk.symm

theorem exists_error_of_not_accepts
    {generator : Generator}
    {entry : ChainEntry}
    (notAccepts : ¬ generator.Accepts entry) :
    ∃ failure, generator.processorOf entry = .error failure := by
  rcases made : generator.processorOf entry with failure | step
  · exact ⟨failure, rfl⟩
  · exact absurd ⟨step, made⟩ notAccepts

/-- An entry with a processor has a config that can be copied. -/
theorem Accepts.copyFailure?_eq_none
    {generator : Generator}
    {entry : ChainEntry}
    (accepts : generator.Accepts entry) :
    entry.config.copyFailure? = none := by
  obtain ⟨step, made⟩ := accepts
  obtain ⟨plugin, _, isMade⟩ := Attempt.bind_eq_ok_iff.mp made
  rw [NamedProcessor.make] at isMade
  rcases written : entry.config.write with cause | config
  · rw [written] at isMade
    cases isMade
  · exact Setting.copyFailure?_of_write entry.config written

theorem mem_declaredFor
    {generator : Generator}
    {request : GenerationRequest}
    {slo : Slo}
    {entry : ChainEntry}
    (isOwn : entry ∈ slo.chain.entries) :
    entry ∈ generator.declaredFor request slo := by
  rw [declaredFor]
  split
  · exact isOwn
  · exact List.mem_append_right _ isOwn

/-- An objective has its processors if each of its entries has one. -/
theorem exists_jobFor
    {generator : Generator}
    {request : GenerationRequest}
    {slo : Slo}
    (each : ∀ entry ∈ generator.declaredFor request slo, generator.Accepts entry) :
    ∃ job, generator.jobFor request slo = .ok job := by
  have sorted :
      ∀ entry ∈ Chain.sortEntries (generator.declaredFor request slo),
        generator.Accepts entry := by
    intro entry member
    exact each entry (List.mem_mergeSort.mp member)
  rcases Attempt.exists_mapM_eq_ok fun entry member =>
      sorted entry (List.mem_filter.mp member).1 with
    ⟨firsts, madeFirsts⟩
  rcases Attempt.exists_mapM_eq_ok fun entry member =>
      sorted entry (List.mem_filter.mp member).1 with
    ⟨lasts, madeLasts⟩
  rw [← processorsOf_eq_mapM] at madeFirsts madeLasts
  have made := processorsFor_eq_ok_iff.mpr ⟨firsts, lasts, madeFirsts, madeLasts, rfl⟩
  have copied : slo.chain.copyFailure? = none := by
    rw [Chain.copyFailure?, List.findSome?_eq_none_iff]
    intro entry isOwn
    exact (each entry (mem_declaredFor isOwn)).copyFailure?_eq_none
  exact ⟨_, jobFor_eq_ok_iff.mpr ⟨copied, _, made, rfl⟩⟩

/-- An objective that can be copied has the failure of the first of its entries that has no
processor. -/
theorem jobFor_eq_error_of_split
    {generator : Generator}
    {request : GenerationRequest}
    {slo : Slo}
    {front back : List ChainEntry}
    {entry : ChainEntry}
    {failure : Failure}
    (copied : slo.chain.copyFailure? = none)
    (split :
      Chain.sortEntries (generator.declaredFor request slo) = front ++ entry :: back)
    (inFront : ∀ earlier ∈ front, generator.Accepts earlier)
    (failed : generator.processorOf entry = .error failure) :
    generator.jobFor request slo = .error failure := by
  have walked :
      (Chain.sortEntries (generator.declaredFor request slo)).mapM generator.processorOf =
        .error failure := by
    rw [split]
    exact Attempt.mapM_eq_error_of_split inFront failed
  have unmade :
      generator.processorsFor request.group (request.labelled slo) = .error failure := by
    rw [← Chain.before_append_after, List.mapM_append] at walked
    apply Attempt.bind_eq_error_iff.mpr
    simp only [processorsOf_eq_mapM]
    rcases Attempt.bind_eq_error_iff.mp walked with early | ⟨firsts, made, continued⟩
    · exact Or.inl early
    · refine Or.inr ⟨firsts, made, Attempt.bind_eq_error_iff.mpr ?_⟩
      rcases Attempt.bind_eq_error_iff.mp continued with late | ⟨_, _, impossible⟩
      · exact Or.inl late
      · cases impossible
  exact jobFor_eq_error_iff.mpr (Or.inr ⟨copied, unmade⟩)

/-- A well formed group has the failure of its first objective without a job. -/
theorem prepare_eq_error_of_split
    {generator : Generator}
    {request : GenerationRequest}
    {before after : List Slo}
    {slo : Slo}
    {failure : Failure}
    (wellFormed : request.group.slos ≠ [] ∧ (request.group.slos.map Slo.id).Nodup)
    (order : request.group.slos = before ++ slo :: after)
    (earlier : ∀ other ∈ before, ∃ job, generator.jobFor request other = .ok job)
    (withoutJob : generator.jobFor request slo = .error failure) :
    generator.prepare request = .error failure := by
  refine Attempt.bind_eq_error_iff.mpr (Or.inr ⟨(), ?_, ?_⟩)
  · exact SloGroup.validate_eq_ok_iff.mpr wellFormed
  · rw [jobs_eq_mapM, order]
    exact Attempt.mapM_eq_error_of_split earlier withoutJob

/-! ## The first refusal -/

/--
Why an entry stands in the way of an objective.  It is the first of those declared for the
objective itself whose config cannot be copied; or there is none, and it is the first that
makes no processor, in the order in which they run.
-/
inductive Obstacle
    (generator : Generator)
    (request : GenerationRequest)
    (slo : Slo)
    (entry : ChainEntry)
    (failure : Failure) : Prop where
  | uncopied
      {front back : List ChainEntry}
      (declared : slo.chain.entries = front ++ entry :: back)
      (inFront : ∀ earlier ∈ front, earlier.config.copyFailure? = none)
      (fails : entry.config.copyFailure? = some failure)
  | refused
      {front back : List Chain.Placed}
      {index : Nat}
      (copied : slo.chain.copyFailure? = none)
      (arranged :
        Chain.Arranged
          (generator.declaredFor request slo)
          (front ++ (entry, index) :: back))
      (inFront : ∀ placed ∈ front, generator.Accepts placed.1)
      (failed : generator.processorOf entry = .error failure)
      (refuses : generator.Refuses entry failure)

theorem Obstacle.refuses_of_copied
    {generator : Generator}
    {request : GenerationRequest}
    {slo : Slo}
    {entry : ChainEntry}
    {failure : Failure}
    (obstacle : generator.Obstacle request slo entry failure)
    (copied : slo.chain.copyFailure? = none) :
    generator.Refuses entry failure := by
  cases obstacle with
  | @uncopied front back declared inFront fails =>
      rw [Chain.copyFailure?, List.findSome?_eq_none_iff] at copied
      have isOwn : entry ∈ slo.chain.entries := by
        rw [declared]
        exact List.mem_append_right _ List.mem_cons_self
      rw [copied entry isOwn] at fails
      cases fails
  | refused _ _ _ _ refuses => exact refuses

theorem Obstacle.entry_mem
    {generator : Generator}
    {request : GenerationRequest}
    {slo : Slo}
    {entry : ChainEntry}
    {failure : Failure}
    (obstacle : generator.Obstacle request slo entry failure) :
    entry ∈ generator.declaredFor request slo := by
  cases obstacle with
  | @uncopied front back declared inFront fails =>
      apply mem_declaredFor
      rw [declared]
      exact List.mem_append_right _ List.mem_cons_self
  | @refused front back index copied arranged inFront failed refuses =>
      have placed : (entry, index) ∈ (generator.declaredFor request slo).zipIdx :=
        arranged.complete.mem_iff.mp (List.mem_append_right _ List.mem_cons_self)
      exact List.mem_of_getElem? (List.mem_zipIdx_iff_getElem?.mp placed)

/-- An objective with an entry that makes no processor has a first such obstacle. -/
theorem exists_obstacle
    {generator : Generator}
    {request : GenerationRequest}
    {slo : Slo}
    (bad : ¬ ∀ entry ∈ generator.declaredFor request slo, generator.Accepts entry) :
    ∃ entry failure,
      generator.Obstacle request slo entry failure ∧
        generator.jobFor request slo = .error failure := by
  rcases copied : slo.chain.copyFailure? with _ | failure
  · obtain ⟨placed, arranged, sorted⟩ :=
      Chain.exists_arranged_sortEntries (generator.declaredFor request slo)
    rcases Attempt.forall_or_first (fun placed => generator.Accepts placed.1) placed with
      all | ⟨front, place, back, split, inFront, refused⟩
    · refine absurd ?_ bad
      intro other member
      obtain ⟨index, isThere⟩ := List.mem_iff_getElem?.mp member
      have isPlaced : (other, index) ∈ placed :=
        arranged.complete.mem_iff.mpr (List.mem_zipIdx_iff_getElem?.mpr isThere)
      exact all (other, index) isPlaced
    · obtain ⟨failure, failed⟩ := exists_error_of_not_accepts refused
      rw [split] at arranged sorted
      rw [List.map_append, List.map_cons] at sorted
      refine
        ⟨place.1, failure,
          .refused copied arranged inFront failed (refuses_of_processorOf failed),
          jobFor_eq_error_of_split copied sorted.symm ?_ failed⟩
      exact List.forall_mem_map.mpr inFront
  · obtain ⟨front, entry, back, declared, fails, inFront⟩ :=
      List.findSome?_eq_some_iff.mp copied
    exact
      ⟨entry, failure, .uncopied declared inFront fails,
        jobFor_eq_error_iff.mpr (Or.inl copied)⟩

/--
The first entry that makes no processor: every entry of the objectives in front has one,
and it is the first obstacle of its own objective.
-/
structure FirstRefusal
    (generator : Generator)
    (request : GenerationRequest) where
  before : List Slo
  slo : Slo
  after : List Slo
  order : request.group.slos = before ++ slo :: after
  earlier :
    ∀ other ∈ before, ∀ entry ∈ generator.declaredFor request other, generator.Accepts entry
  entry : ChainEntry
  failure : Failure
  obstacle : generator.Obstacle request slo entry failure

theorem FirstRefusal.slo_mem
    {generator : Generator}
    {request : GenerationRequest}
    (first : generator.FirstRefusal request) :
    first.slo ∈ request.group.slos := by
  rw [first.order]
  exact List.mem_append_right _ List.mem_cons_self

/-- Where some entry has no processor, there is a first one, and its objective has no job. -/
theorem exists_firstRefusal
    {generator : Generator}
    {request : GenerationRequest}
    (unmade :
      ∃ slo ∈ request.group.slos,
        ∃ entry ∈ generator.declaredFor request slo, ¬ generator.Accepts entry) :
    ∃ first : generator.FirstRefusal request,
      generator.jobFor request first.slo = .error first.failure := by
  obtain ⟨slo, isOne, entry, isDeclared, notAccepts⟩ := unmade
  rcases
      Attempt.forall_or_first
        (fun slo => ∀ entry ∈ generator.declaredFor request slo, generator.Accepts entry)
        request.group.slos with
    all | ⟨before, first, after, order, earlier, bad⟩
  · exact absurd (all slo isOne entry isDeclared) notAccepts
  · obtain ⟨entry, failure, obstacle, withoutJob⟩ := exists_obstacle bad
    exact
      ⟨{ before, slo := first, after, order, earlier, entry, failure, obstacle },
        withoutJob⟩

/--
Entries are refused before anything happens.  In a group that is well formed, if some
entry of some objective makes no processor, then the preparation fails at the first such
entry, in the order of the objectives and in the order in which the processors of each
would run.  No alerts are calculated and no processor runs: what is left is what a
generation starts with.

If its objective can be copied, the failure says that there is no such plugin or that the
config is at fault, unless the identifier is a list or a map; and it names the identifier
where plugins are found by theirs.  If not, the failure is that of copying the first config
of the objective that cannot be copied, whatever it is.
-/
theorem generate_refuses_first
    {generator : Generator}
    {request : GenerationRequest}
    (wellFormed : request.group.slos ≠ [] ∧ (request.group.slos.map Slo.id).Nodup)
    (unmade :
      ∃ slo ∈ request.group.slos,
        ∃ entry ∈ generator.declaredFor request slo, ¬ generator.Accepts entry) :
    ∃ first : generator.FirstRefusal request,
      generator.prepare request = .error first.failure ∧
        (∀ calculate,
          generator.generate calculate request =
            { proceedings := {}, result := .error first.failure }) ∧
        (first.slo.chain.copyFailure? = none →
          first.entry.id.IsKey →
            (first.failure = .notFound first.entry.id ∨
                first.failure.kind = .configuration) ∧
              (generator.FindsByName →
                first.failure.report.details = [("plugin_id", first.entry.id)])) ∧
        ∀ failure,
          first.slo.chain.copyFailure? = some failure → first.failure = failure := by
  obtain ⟨first, withoutJob⟩ := exists_firstRefusal unmade
  have unprepared : generator.prepare request = .error first.failure :=
    prepare_eq_error_of_split wellFormed first.order
      (fun _ member => exists_jobFor (first.earlier _ member)) withoutJob
  refine ⟨first, unprepared, ?_, ?_, ?_⟩
  · intro calculate
    exact generate_of_unprepared unprepared
  · intro copied isKey
    have refuses := first.obstacle.refuses_of_copied copied
    exact ⟨refuses.kind isKey, refuses.details isKey⟩
  · intro failure uncopied
    rw [jobFor_eq_error_iff.mpr (Or.inl uncopied)] at withoutJob
    exact (Except.error.inj withoutJob).symm

theorem findsByName_ofPlugins (plugins : List Plugin) : (ofPlugins plugins).FindsByName := by
  rintro find ⟨⟩ name plugin found
  have listed : plugins.find? (fun plugin => plugin.id = name) = some plugin := found
  simpa using List.find?_some listed

/-- A plugin that refuses every config. -/
def strict : Script where
  id := "strict"
  refusal := some "no such field"

/-- A generator with a plugin that runs and one that refuses every config. -/
def strictGenerator : Generator :=
  ofPlugins [.scripted meddler, .scripted strict]

/-- An objective with the given entries for a chain. -/
def basketSlo (entries : List ChainEntry) : Slo :=
  { meddledSlo "basket" with chain := ⟨entries, true⟩ }

/-- A request for an objective that is processed and one behind it with the given entries. -/
def requestBehind (entries : List ChainEntry) : GenerationRequest where
  group := ⟨[meddledSlo "orders", basketSlo entries], {}⟩

/-- An unknown plugin that is declared first, and one of lower priority that refuses its config. -/
def misconfigured : List ChainEntry :=
  [⟨.text "missing", .null, 5⟩, ⟨.text "strict", .null, 1⟩, ⟨.text "meddler", .null, 0⟩]

theorem wellFormed_requestBehind (entries : List ChainEntry) :
    (requestBehind entries).group.slos ≠ [] ∧
      ((requestBehind entries).group.slos.map Slo.id).Nodup := by
  have distinct : ["orders", "basket"].Nodup := by decide
  exact ⟨List.cons_ne_nil _ _, distinct⟩

/-- The entry that runs first is the one that the preparation fails for. -/
theorem prepare_misconfigured :
    ∃ failure,
      strictGenerator.prepare (requestBehind misconfigured) = .error failure ∧
        failure.kind = .configuration ∧
        failure.report.details = [("plugin_id", .text "strict")] := by
  have order :
      (requestBehind misconfigured).group.slos =
        [meddledSlo "orders"] ++ basketSlo misconfigured :: [] :=
    rfl
  have sorted :
      Chain.sortEntries misconfigured =
        [⟨.text "meddler", .null, 0⟩] ++ ⟨.text "strict", .null, 1⟩ ::
          [⟨.text "missing", .null, 5⟩] := by
    cbv
  have accepted :
      ∀ entry ∈ [⟨.text "meddler", .null, 0⟩], strictGenerator.Accepts entry := by
    decide +kernel
  have acceptedInFront :
      ∀ entry ∈ strictGenerator.declaredFor (requestBehind misconfigured) (meddledSlo "orders"),
        strictGenerator.Accepts entry := by
    decide +kernel
  have blamed :
      ((strictGenerator.processorOf ⟨.text "strict", .null, 1⟩).map fun _ => ()).mapError
          (fun failure => (failure.kind, failure.report.details)) =
        .error (.configuration, [("plugin_id", .text "strict")]) := by
    decide +kernel
  rcases failed : strictGenerator.processorOf ⟨.text "strict", .null, 1⟩ with failure | step
  · rw [failed] at blamed
    obtain ⟨isConfiguration, details⟩ := Prod.mk.inj (Except.error.inj blamed)
    refine ⟨failure, ?_, isConfiguration, details⟩
    apply prepare_eq_error_of_split (wellFormed_requestBehind misconfigured) order
    · intro other isInFront
      rw [List.mem_singleton.mp isInFront]
      exact exists_jobFor acceptedInFront
    · exact jobFor_eq_error_of_split rfl sorted accepted failed
  · rw [failed] at blamed
    cases blamed

/--
Of two entries without a processor the first to run is the one that is reported.  A config that
cannot be copied and an identifier that is a list are found at the same time, and are reported
with neither of the two failures that are made for entries.
-/
theorem generate_refuses_first_of_later_objective :
    (∃ first : strictGenerator.FirstRefusal (requestBehind misconfigured),
      first.entry.id = .text "strict" ∧
        (∀ calculate,
          strictGenerator.generate calculate (requestBehind misconfigured) =
            { proceedings := {}, result := .error first.failure }) ∧
        first.failure.kind = .configuration) ∧
      (∀ calculate,
        strictGenerator.generate calculate
            (requestBehind [⟨.text "meddler", .foreign "lock" (some uncopiedLock), 0⟩]) =
          { proceedings := {}, result := .error uncopiedLock }) ∧
      ∀ calculate,
        strictGenerator.generate calculate
            (requestBehind [⟨.array [.text "meddler"], .null, 0⟩]) =
          { proceedings := {}
            result := .error (.fault .type "unhashable type: 'list'") } := by
  have reported {entries : List ChainEntry} {failure : Failure}
      (unprepared :
        (strictGenerator.prepare (requestBehind entries)).map (fun _ => ()) = .error failure)
      (unmade :
        ∃ slo ∈ (requestBehind entries).group.slos,
          ∃ entry ∈ strictGenerator.declaredFor (requestBehind entries) slo,
            ¬ strictGenerator.Accepts entry) :
      ∀ calculate,
        strictGenerator.generate calculate (requestBehind entries) =
          { proceedings := {}, result := .error failure } := by
    obtain ⟨first, prepared, generated, _⟩ :=
      generate_refuses_first (wellFormed_requestBehind entries) unmade
    rw [Attempt.map_eq_error_iff.mp unprepared] at prepared
    cases prepared
    exact generated
  refine ⟨?_, ?_, ?_⟩
  · have unmade :
        ∃ slo ∈ (requestBehind misconfigured).group.slos,
          ∃ entry ∈ strictGenerator.declaredFor (requestBehind misconfigured) slo,
            ¬ strictGenerator.Accepts entry := by
      decide +kernel
    have copied :
        ∀ slo ∈ (requestBehind misconfigured).group.slos,
          slo.chain.copyFailure? = none := by
      decide +kernel
    have areKeys :
        ∀ slo ∈ (requestBehind misconfigured).group.slos,
          ∀ entry ∈ strictGenerator.declaredFor (requestBehind misconfigured) slo,
            entry.id.IsKey := by
      decide +kernel
    obtain ⟨first, unprepared, generated, named, _⟩ :=
      generate_refuses_first (wellFormed_requestBehind misconfigured) unmade
    obtain ⟨failure, failed, isConfiguration, details⟩ := prepare_misconfigured
    rw [unprepared] at failed
    cases failed
    have isKey := areKeys _ first.slo_mem _ first.obstacle.entry_mem
    rw [(named (copied _ first.slo_mem) isKey).2 (findsByName_ofPlugins _)] at details
    refine ⟨first, ?_, generated, isConfiguration⟩
    injection details with pair
    exact (Prod.mk.inj pair).2
  · exact reported (by decide +kernel) (by decide +kernel)
  · exact reported (by decide +kernel) (by decide +kernel)

end Generator

end ServiceLevel
