import ServiceLevel.Repository.Basic
import ServiceLevel.Proofs.Repository.Scanning

/-!
# What a repository serves

A session is a repository in a file tree that changes.  Between its requests, which load the
plugins anew or look one of them up, the tree and the roots of the repository may become any
others.  The main statement is that all of this has no effect but one: the repository serves
what a single scan has found, that of the last load that succeeded.  A load that fails leaves
the session as it is, however many plugins it had accepted before.
-/

namespace ServiceLevel

/-! ## Look-up -/

namespace Snapshot

/-- The plugin of a kind with an identifier. -/
def find (snapshot : Snapshot) (kind : PluginKind) (id : String) : Except Failure AnyPlugin :=
  match kind with
  | .indicator => (snapshot.indicator id).map .indicator
  | .processor => (snapshot.processor id).map .processor

/-- A look-up of either kind finds what is listed, and fails in one way only. -/
theorem find_eq (snapshot : Snapshot) (kind : PluginKind) (id : String) :
    snapshot.find kind id =
      ((snapshot.listed kind).get? id).elim (.error (.notFound (.text id))) .ok := by
  cases kind with
  | indicator =>
      rw [find, listed, Entries.get?_map, indicator]
      cases snapshot.indicators.get? id with
      | none => rfl
      | some plugin => rfl
  | processor =>
      rw [find, listed, Entries.get?_map, processor]
      cases snapshot.processors.get? id with
      | none => rfl
      | some plugin => rfl

variable {snapshot : Snapshot} {kind : PluginKind} {id : String}

theorem find_eq_ok_iff
    {plugin : AnyPlugin} :
    snapshot.find kind id = .ok plugin ↔ (snapshot.listed kind).get? id = some plugin := by
  rw [find_eq]
  cases (snapshot.listed kind).get? id <;> simp

theorem find_eq_error_iff :
    snapshot.find kind id = .error (.notFound (.text id)) ↔
      id ∉ (snapshot.listed kind).keys := by
  rw [find_eq, ← Entries.isSome_get?_iff]
  cases (snapshot.listed kind).get? id <;> simp

end Snapshot

/-! ## Sessions -/

namespace Repository

/-- What happens to a repository or around it. -/
inductive Request where
  /-- The file tree becomes another one. -/
  | change (place : Workplace)
  /-- The repository gets other roots. -/
  | retarget (roots : List FilePath)
  | reload
  | ask (kind : PluginKind) (id : String)

/-- A repository in a file tree. -/
structure Session where
  place : Workplace
  repository : Repository

namespace Session

/-- The session after a request, and the answer to it, with the plugin that was asked for. -/
def step (session : Session) : Request → Session × Except Failure (Option AnyPlugin)
  | .change place => ({ session with place }, .ok none)
  | .retarget roots =>
    ({ session with repository := { session.repository with roots } }, .ok none)
  | .reload =>
    let (result, repository, _) := session.repository.reload session.place
    ({ session with repository }, result.map fun _ => none)
  | .ask kind id => (session, (session.repository.snapshot.find kind id).map some)

/-- The session after a sequence of requests. -/
def run (session : Session) (requests : List Request) : Session :=
  requests.foldl (fun session request => (session.step request).1) session

end Session

/-- An attempt to load plugins: the file tree and the roots at that time. -/
structure Load where
  place : Workplace
  roots : List FilePath

/-- What the scan of a load gives. -/
def Load.scanned (load : Load) (strict : Bool) : Except Failure Snapshot :=
  (scan load.place strict load.roots).1

/-- The stops of that scan. -/
def Load.stops (load : Load) : List Stop :=
  Repository.stops load.place load.roots

/-- The loads that a sequence of requests attempts, whatever comes of them. -/
def loads (place : Workplace) (roots : List FilePath) : List Request → List Load
  | [] => []
  | .change place :: rest => loads place roots rest
  | .retarget roots :: rest => loads place roots rest
  | .reload :: rest => ⟨place, roots⟩ :: loads place roots rest
  | .ask _ _ :: rest => loads place roots rest

/-- A snapshot is what the last one of some loads has found, not counting those that failed. -/
def LastLoaded (strict : Bool) (attempts : List Load) (snapshot : Snapshot) : Prop :=
  ∃ before load after,
    attempts = before ++ load :: after ∧
      load.scanned strict = .ok snapshot ∧
      ∀ later ∈ after, ∃ failure, later.scanned strict = .error failure

variable {strict : Bool} {attempts : List Load} {snapshot : Snapshot} {load : Load}

theorem LastLoaded.append_ok
    (scanned : load.scanned strict = .ok snapshot) :
    LastLoaded strict (attempts ++ [load]) snapshot := by
  refine ⟨attempts, load, [], rfl, scanned, ?_⟩
  intro later impossible
  cases impossible

theorem LastLoaded.append_error
    (last : LastLoaded strict attempts snapshot)
    {failure : Failure}
    (failed : load.scanned strict = .error failure) :
    LastLoaded strict (attempts ++ [load]) snapshot := by
  obtain ⟨before, success, after, split, scanned, failures⟩ := last
  refine ⟨before, success, after ++ [load], ?_, scanned, ?_⟩
  · rw [split, List.append_assoc, List.cons_append]
  · intro later member
    rcases List.mem_append.mp member with isAfter | isLast
    · exact failures later isAfter
    · cases List.mem_singleton.mp isLast
      exact ⟨failure, failed⟩

/-! ## One reload -/

namespace Session

variable {session : Session}

/-- The load that a reload attempts. -/
def nextLoad (session : Session) : Load :=
  ⟨session.place, session.repository.roots⟩

theorem step_reload_of_error
    {failure : Failure}
    (failed : session.nextLoad.scanned session.repository.strict = .error failure) :
    session.step .reload = (session, .error failure) := by
  rw [Load.scanned, nextLoad] at failed
  rw [step, Repository.reload]
  rcases scanned : scan session.place session.repository.strict session.repository.roots
    with ⟨result, events⟩
  rw [scanned] at failed
  cases failed
  rfl

theorem step_reload_of_ok
    (found : session.nextLoad.scanned session.repository.strict = .ok snapshot) :
    session.step .reload =
      ({ session with repository := { session.repository with snapshot } }, .ok none) := by
  rw [Load.scanned, nextLoad] at found
  rw [step, Repository.reload]
  rcases scanned : scan session.place session.repository.strict session.repository.roots
    with ⟨result, events⟩
  rw [scanned] at found
  cases found
  rfl

/-- A reload gives the session the snapshot of its scan as a whole, or fails with the first
offence of that scan and gives it nothing. -/
theorem step_reload_cases (session : Session) :
    (∃ next,
        session.nextLoad.scanned session.repository.strict = .ok next ∧
          Faultless session.repository.strict session.nextLoad.stops ∧
          session.step .reload =
            ({ session with repository := { session.repository with snapshot := next } },
              .ok none)) ∨
      ∃ failure,
        session.nextLoad.scanned session.repository.strict = .error failure ∧
          FirstOffence session.repository.strict session.nextLoad.stops failure ∧
          session.step .reload = (session, .error failure) := by
  have walk :
      session.nextLoad.scanned session.repository.strict =
        session.nextLoad.stops.foldlM (visit session.repository.strict) {} :=
    scanRoots_fst session.place session.repository.strict {} session.repository.roots
  rcases walk_cases session.repository.strict session.nextLoad.stops with
    ⟨next, walked, faultless, _⟩ | ⟨failure, stopped, first⟩
  · have found := walk.trans walked
    exact Or.inl ⟨next, found, faultless, step_reload_of_ok found⟩
  · have failed := walk.trans stopped
    exact Or.inr ⟨failure, failed, first, step_reload_of_error failed⟩

theorem strict_step (session : Session) (request : Request) :
    (session.step request).1.repository.strict = session.repository.strict := by
  cases request with
  | change place => rfl
  | retarget roots => rfl
  | reload =>
      rcases session.step_reload_cases with
        ⟨next, _, _, stepped⟩ | ⟨failure, _, _, stepped⟩
      · rw [stepped]
      · rw [stepped]
  | ask kind id => rfl

/-! ## Any number of requests -/

theorem strict_run (session : Session) (requests : List Request) :
    (session.run requests).repository.strict = session.repository.strict := by
  induction requests generalizing session with
  | nil => rfl
  | cons request rest ih =>
      rw [run, List.foldl_cons, ← run, ih]
      exact strict_step session request

/-- Requests keep a session at the last load that succeeded. -/
theorem lastLoaded_run
    {session : Session}
    {attempts : List Load}
    (last : LastLoaded session.repository.strict attempts session.repository.snapshot)
    (requests : List Request) :
    LastLoaded session.repository.strict
      (attempts ++ loads session.place session.repository.roots requests)
      (session.run requests).repository.snapshot := by
  induction requests generalizing session attempts with
  | nil =>
      rw [loads, List.append_nil]
      exact last
  | cons request rest ih =>
      rw [run, List.foldl_cons, ← run]
      cases request with
      | change place => exact @ih { session with place } attempts last
      | retarget roots =>
          exact @ih { session with repository := { session.repository with roots } } attempts last
      | ask kind id => exact ih last
      | reload =>
          rw [loads, ← List.singleton_append, ← List.append_assoc]
          rcases session.step_reload_cases with
            ⟨next, scanned, _, stepped⟩ | ⟨failure, failed, _, stepped⟩
          · rw [stepped]
            exact
              @ih { session with repository := { session.repository with snapshot := next } } _
                (.append_ok scanned)
          · rw [stepped]
            exact ih (last.append_error failed)

end Session

theorem lastLoaded_of_make
    {place : Workplace}
    {roots : List FilePath}
    {repository : Repository}
    {events : List LogEvent}
    (made : make place roots strict = (.ok repository, events)) :
    repository.roots = roots ∧
      repository.strict = strict ∧
      LastLoaded strict [⟨place, roots⟩] repository.snapshot := by
  rw [make, reload] at made
  rcases scanned : scan place strict roots with ⟨failure | snapshot, scanEvents⟩
  · rw [scanned] at made
    cases made
  · rw [scanned] at made
    cases made
    have found : Load.scanned ⟨place, roots⟩ strict = .ok snapshot := congrArg Prod.fst scanned
    exact ⟨rfl, rfl, @LastLoaded.append_ok strict [] snapshot ⟨place, roots⟩ found⟩

theorem make_of_scanned
    {place : Workplace}
    {roots : List FilePath}
    (found : Load.scanned ⟨place, roots⟩ strict = .ok snapshot) :
    ∃ events, make place roots strict = (.ok { roots, strict, snapshot }, events) := by
  rw [Load.scanned] at found
  rw [make, reload]
  rcases scanned : scan place strict roots with ⟨result, events⟩
  rw [scanned] at found
  cases found
  exact ⟨_, rfl⟩

/--
Whatever is requested of a repository, and however the file tree and its roots change in
between, it serves what a single scan has found: that of the last load that succeeded, the first
load being the one that made it.  A reload of stops without a fault replaces the snapshot as a
whole.  Any other one fails with the first offence, at whichever stop that is, and leaves the
session as it is.  So does a look-up, which finds exactly the plugins that the snapshot lists for
the kind and reports any other identifier as not found.
-/
theorem serves_last_load
    {place : Workplace}
    {roots : List FilePath}
    {strict : Bool}
    {repository : Repository}
    {events : List LogEvent}
    (made : make place roots strict = (.ok repository, events))
    (requests : List Request)
    {session : Session}
    (reached : Session.run ⟨place, repository⟩ requests = session) :
    LastLoaded strict (⟨place, roots⟩ :: loads place roots requests)
        session.repository.snapshot ∧
      (Faultless strict session.nextLoad.stops →
        ∃ next,
          session.nextLoad.scanned strict = .ok next ∧
            session.step .reload =
              ({ session with repository := { session.repository with snapshot := next } },
                .ok none)) ∧
      (¬ Faultless strict session.nextLoad.stops →
        ∃ failure,
          FirstOffence strict session.nextLoad.stops failure ∧
            session.step .reload = (session, .error failure)) ∧
      ∀ kind id,
        (session.step (.ask kind id)).1 = session ∧
          (∀ plugin,
            (session.step (.ask kind id)).2 = .ok (some plugin) ↔
              (session.repository.snapshot.listed kind).get? id = some plugin) ∧
          ((session.step (.ask kind id)).2 = .error (.notFound (.text id)) ↔
            id ∉ (session.repository.snapshot.listed kind).keys) := by
  obtain ⟨rfl, rfl, first⟩ := lastLoaded_of_make made
  have sameStrict : session.repository.strict = repository.strict := by
    rw [← reached]
    exact Session.strict_run ⟨place, repository⟩ requests
  have last := @Session.lastLoaded_run ⟨place, repository⟩ _ first requests
  rw [reached] at last
  refine ⟨last, ?_, ?_, ?_⟩
  · rw [← sameStrict]
    intro faultless
    rcases session.step_reload_cases with
      ⟨next, scanned, _, stepped⟩ | ⟨failure, _, offence, _⟩
    · exact ⟨next, scanned, stepped⟩
    · exact absurd faultless offence.not_faultless
  · rw [← sameStrict]
    intro faulty
    rcases session.step_reload_cases with
      ⟨next, _, faultless, _⟩ | ⟨failure, _, offence, stepped⟩
    · exact absurd faultless faulty
    · exact ⟨failure, offence, stepped⟩
  · intro kind id
    refine ⟨rfl, ?_, ?_⟩
    · intro plugin
      rw [← Snapshot.find_eq_ok_iff]
      show (session.repository.snapshot.find kind id).map some = .ok (some plugin) ↔ _
      rw [Attempt.map_eq_ok_iff]
      simp
    · rw [← Snapshot.find_eq_error_iff]
      exact Attempt.map_eq_error_iff

/-- A directory of plugins. -/
def pluginPlace (files : List (String × FileContent)) : Workplace where
  tree := .directory [("plugins", .directory (files.map fun file => (file.1, .file file.2)))]
  current := []
  home := { own := ⟨.top, []⟩ }

/-- A directory with one indicator plugin. -/
def earlierPlace : Workplace :=
  pluginPlace [("plugin.py", .source (plainSource .indicator "kept"))]

/-- A directory with another plugin, and behind it a file that is no text. -/
def laterPlace : Workplace :=
  pluginPlace
    [("plugin.py", .source (plainSource .indicator "new")), ("the_plugin.py", .bytes [255])]

/-- The stops below these directories. -/
def earlierStops : List Stop :=
  [.file .standard (.ofText "/plugins/plugin.py") (.source (plainSource .indicator "kept"))]

@[inherit_doc earlierStops]
def laterStops : List Stop :=
  [.file .standard (.ofText "/plugins/plugin.py") (.source (plainSource .indicator "new")),
    .file .standard (.ofText "/plugins/the_plugin.py") (.bytes [255])]

/-- A reload that fails behind a new plugin leaves no trace of it. -/
theorem serves_last_load_of_failed :
    ∃ repository events session,
      make earlierPlace [.ofText "/plugins"] false = (.ok repository, events) ∧
        Session.run ⟨earlierPlace, repository⟩ [.change laterPlace, .reload] = session ∧
        (∃ plugin, (session.step (.ask .indicator "kept")).2 = .ok (some plugin)) ∧
        (session.step (.ask .indicator "new")).2 = .error (.notFound (.text "new")) := by
  have earlierAhead : stops earlierPlace [.ofText "/plugins"] = earlierStops := by
    rw [stops_of_directory rfl]
    cbv
  have laterAhead : stops laterPlace [.ofText "/plugins"] = laterStops := by
    rw [stops_of_directory rfl]
    cbv
  have earlierKeys :
      (((earlierStops.foldlM (visit false) {}).map fun found => found.indicators.keys).toOption =
        some ["kept"]) := by
    decide +kernel
  have laterFails : (laterStops.foldlM (visit false) {}).toOption.isNone := by decide +kernel
  obtain ⟨snapshot, found, keys⟩ :=
    Attempt.map_eq_ok_iff.mp (Attempt.toOption_eq_some_iff.mp earlierKeys)
  have scanned : Load.scanned ⟨earlierPlace, [.ofText "/plugins"]⟩ false = .ok snapshot := by
    rw [← found, ← earlierAhead]
    exact scanRoots_fst earlierPlace false {} [.ofText "/plugins"]
  have notScanned :
      ∀ other, Load.scanned ⟨laterPlace, [.ofText "/plugins"]⟩ false ≠ .ok other := by
    intro other isOk
    rw [← laterAhead, ← scanRoots_fst laterPlace false {} [.ofText "/plugins"], ← scan]
      at laterFails
    rw [Load.scanned] at isOk
    rw [isOk] at laterFails
    cases laterFails
  obtain ⟨events, made⟩ := make_of_scanned scanned
  obtain ⟨⟨before, load, after, split, isLoad, _⟩, _, _, lookUp⟩ :=
    serves_last_load made [.change laterPlace, .reload] rfl
  have served :
      (Session.run ⟨earlierPlace, ⟨[.ofText "/plugins"], false, snapshot⟩⟩
        [.change laterPlace, .reload]).repository.snapshot = snapshot := by
    rcases before with _ | ⟨first, _ | ⟨second, others⟩⟩
    · cases split
      exact Except.ok.inj (isLoad.symm.trans scanned)
    · cases split
      exact absurd isLoad (notScanned _)
    · simp [loads] at split
  have listedKeys : (snapshot.listed .indicator).keys = ["kept"] := by
    rw [Snapshot.listed, Entries.keys_map, keys]
  refine ⟨_, events, _, made, rfl, ?_, (lookUp .indicator _).2.2.mpr ?_⟩
  · have isKept : ((snapshot.listed .indicator).get? "kept").isSome := by
      rw [Entries.isSome_get?_iff, listedKeys]
      exact List.mem_cons_self
    obtain ⟨plugin, isPlugin⟩ := Option.isSome_iff_exists.mp isKept
    rw [← served] at isPlugin
    exact ⟨plugin, ((lookUp .indicator _).2.1 plugin).mpr isPlugin⟩
  · rw [served, listedKeys]
    decide

end Repository

end ServiceLevel
