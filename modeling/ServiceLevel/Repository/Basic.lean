import ServiceLevel.Repository.Scan

/-!
# Plugin repositories

A repository serves the plugins of the last scan that succeeded.  Reloading makes
a new scan; only if it succeeds does its snapshot replace the old one, as a whole.
-/

namespace ServiceLevel

/-- The plugins below some roots. -/
structure Repository where
  roots : List FilePath
  strict : Bool := false
  snapshot : Snapshot := {}

namespace Repository

/-- The event of a scan that succeeded. -/
def scannedEvent (roots : List FilePath) (snapshot : Snapshot) : LogEvent :=
  ⟨.info, LogEvent.repositoryLogger, "plugins_loaded",
    [("sli_plugins", .ofInt snapshot.indicators.pairs.length),
      ("slo_plugins", .ofInt snapshot.processors.pairs.length),
      ("paths", .array (roots.map fun root => .text root.text))]⟩

/-- Make a new scan.  A failed one keeps the repository as it is. -/
def reload (repository : Repository) (place : Workplace) :
    Except Failure Unit × Repository × List LogEvent :=
  match scan place repository.strict repository.roots with
  | (.error failure, events) => (.error failure, repository, events)
  | (.ok snapshot, events) =>
    (.ok (), { repository with snapshot },
      events ++ [scannedEvent repository.roots snapshot])

/-- The repository of some roots after its first scan. -/
def make (place : Workplace) (roots : List FilePath) (strict : Bool) :
    Except Failure Repository × List LogEvent :=
  match reload { roots, strict } place with
  | (.error failure, _, events) => (.error failure, events)
  | (.ok (), repository, events) => (.ok repository, events)

/-- The identifiers of the plugins of a kind, in ascending order. -/
def ids (repository : Repository) : PluginKind → List String
  | .indicator => Source.Surface.sorted repository.snapshot.indicators.keys
  | .processor => Source.Surface.sorted repository.snapshot.processors.keys

theorem snapshot_reload_of_error {repository : Repository} {place : Workplace}
    {failure : Failure} (failed : (repository.reload place).1 = .error failure) :
    (repository.reload place).2.1 = repository := by
  unfold reload at failed ⊢
  split <;> simp_all

end Repository

end ServiceLevel
