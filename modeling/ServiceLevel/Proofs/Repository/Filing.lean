import ServiceLevel.App.Setup
import ServiceLevel.Proofs.Attempt
import ServiceLevel.Proofs.Entries
import ServiceLevel.Proofs.Generation.Processors

/-!
# Plugins under their identifiers

A scan files each plugin under its own identifier, and what a repository serves is
the outcome of a scan.  So the generator of an application finds plugins by name,
which is what ties the identifiers of processors to those of chain entries.
-/

namespace ServiceLevel

/-! ## Snapshots -/

namespace Snapshot

/-- Every plugin is kept under its own identifier. -/
structure Filed (snapshot : Snapshot) : Prop where
  indicators :
    ∀ name plugin,
      snapshot.indicators.get? name = some plugin → plugin.id = name
  processors :
    ∀ name plugin,
      snapshot.processors.get? name = some plugin → plugin.id = name

theorem filed_empty : Filed {} where
  indicators := by
    intro name plugin impossible
    cases impossible
  processors := by
    intro name plugin impossible
    cases impossible

theorem Filed.put
    {snapshot : Snapshot}
    (filed : snapshot.Filed)
    (plugin : AnyPlugin) :
    (snapshot.put plugin).Filed := by
  cases plugin with
  | indicator plugin =>
      refine ⟨?_, filed.processors⟩
      intro name other found
      rw [Snapshot.put, Entries.get?_put] at found
      split at found
      · rename_i same
        cases found
        exact same.symm
      · exact filed.indicators name other found
  | processor plugin =>
      refine ⟨filed.indicators, ?_⟩
      intro name other found
      rw [Snapshot.put, Entries.get?_put] at found
      split at found
      · rename_i same
        cases found
        exact same.symm
      · exact filed.processors name other found

theorem Filed.add
    {snapshot next : Snapshot}
    (filed : snapshot.Filed)
    {plugin : AnyPlugin}
    (added : snapshot.add plugin = .ok next) :
    next.Filed := by
  rw [Snapshot.add] at added
  split at added
  · cases added
  · cases added
    exact filed.put plugin

end Snapshot

/-! ## Scans -/

namespace Repository

variable {library : Source.Library} {strict : Bool} {snapshot next : Snapshot}
  {events : List LogEvent}

theorem filed_scanFile
    (filed : snapshot.Filed)
    {path : String}
    {content : FileContent}
    (scanned : scanFile library strict snapshot path content = (.ok next, events)) :
    next.Filed := by
  rw [scanFile] at scanned
  split at scanned
  · cases scanned
  · split at scanned
    · split at scanned
      · cases scanned
      · cases scanned
        exact filed
    · split at scanned
      · cases scanned
      · rename_i added
        cases scanned
        exact filed.add added

theorem filed_scanFiles
    (filed : snapshot.Filed)
    {files : List (FilePath × FileContent)}
    (scanned : scanFiles library strict snapshot files = (.ok next, events)) :
    next.Filed := by
  induction files generalizing snapshot events with
  | nil =>
      cases scanned
      exact filed
  | cons file rest ih =>
      obtain ⟨path, content⟩ := file
      rw [scanFiles] at scanned
      split at scanned
      · cases scanned
      · rename_i middle earlier first
        rcases later : scanFiles library strict middle rest with ⟨result, others⟩
        rw [later] at scanned
        cases scanned
        exact ih (filed_scanFile filed first) later

theorem filed_scanRoots
    {place : Workplace}
    (filed : snapshot.Filed)
    {roots : List FilePath}
    (scanned : scanRoots place strict snapshot roots = (.ok next, events)) :
    next.Filed := by
  induction roots generalizing snapshot events with
  | nil =>
      cases scanned
      exact filed
  | cons root rest ih =>
      rw [scanRoots] at scanned
      split at scanned
      · cases scanned
      · split at scanned
        · cases scanned
        · rename_i middle earlier files
          rcases later : scanRoots place strict middle rest with ⟨result, others⟩
          rw [later] at scanned
          cases scanned
          exact ih (filed_scanFiles filed files) later

/-- Reloading, whether it succeeds or not, leaves plugins under their identifiers. -/
theorem filed_reload
    {repository : Repository}
    (filed : repository.snapshot.Filed)
    (place : Workplace) :
    (repository.reload place).2.1.snapshot.Filed := by
  rw [reload]
  split
  · exact filed
  · rename_i scanned
    exact filed_scanRoots Snapshot.filed_empty scanned

theorem filed_make
    {place : Workplace}
    {roots : List FilePath}
    {repository : Repository}
    (made : make place roots strict = (.ok repository, events)) :
    repository.snapshot.Filed := by
  rw [make] at made
  split at made
  · cases made
  · rename_i reloaded
    cases made
    have filed : (reload { roots, strict } place).2.1.snapshot.Filed :=
      filed_reload Snapshot.filed_empty place
    rw [reloaded] at filed
    exact filed

end Repository

/-! ## Generators -/

namespace App

variable {place : Workplace} {shipped : FilePath} {settings : Settings}
  {accepts : String → Bool} {events : List LogEvent}

theorem findsByName_generatorOf
    {config : AppConfig}
    {repository : Repository}
    (filed : repository.snapshot.Filed)
    {generator : Generator}
    (made : generatorOf accepts settings config repository = .ok generator) :
    generator.FindsByName := by
  obtain ⟨standard, _, same⟩ := Attempt.bind_eq_ok_iff.mp made
  cases same
  rintro find isFind name plugin found
  cases isFind
  exact filed.processors name plugin found

theorem filed_makeRepository
    {config : Option AppConfig}
    {repository : Repository}
    (made :
      makeRepository place shipped settings config = (.ok repository, events)) :
    repository.snapshot.Filed := by
  rw [makeRepository] at made
  split at made
  · cases made
  · rename_i config earlier _
    rcases scanned :
        Repository.make place (pluginPaths shipped settings config)
          settings.strict with ⟨result, later⟩
    rw [scanned] at made
    cases made
    exact Repository.filed_make scanned

/-- The generator of an application finds plugins under their identifiers. -/
theorem findsByName_makeGenerator
    {config : Option AppConfig}
    {given : Option Repository}
    (filed : ∀ repository ∈ given, repository.snapshot.Filed)
    {generator : Generator}
    (made :
      makeGenerator place shipped settings config given accepts =
        (.ok generator, events)) :
    generator.FindsByName := by
  rw [makeGenerator] at made
  rcases configured : configOr place settings config with
    ⟨failure | chosen, earlier⟩
  · rw [configured] at made
    cases made
  · rw [configured] at made
    rcases provided : repositoryOr place shipped settings chosen given with
      ⟨failure | repository, later⟩
    · simp only [provided] at made
      cases made
    · simp only [provided] at made
      have generated : generatorOf accepts settings chosen repository = .ok generator :=
        congrArg Prod.fst made
      refine findsByName_generatorOf ?_ generated
      cases given with
      | some known =>
          cases provided
          exact filed repository rfl
      | none =>
          have fresh :
              makeRepository place shipped settings (some chosen) =
                (.ok repository, later) := provided
          exact filed_makeRepository fresh

end App

end ServiceLevel
