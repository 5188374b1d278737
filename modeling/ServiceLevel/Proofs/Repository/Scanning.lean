import Mathlib.Data.List.Basic
import Mathlib.Data.List.Induction
import Mathlib.Data.List.Permutation
import ServiceLevel.Repository.Scan
import ServiceLevel.Proofs.Attempt
import ServiceLevel.Proofs.Entries
import ServiceLevel.Proofs.Source.Loading

/-!
# What a scan finds

A scan walks through roots and files, which are its stops.  A stop may offend: a root that is
no directory, a file that cannot be read, in a strict scan a file that neither loader accepts,
and a plugin whose identifier a plugin of its kind further up has.  The main statement is that
nothing else decides what a scan gives.  Without an offence it succeeds, and for each kind the
snapshot lists the plugins of the files of that kind, each once and under its own identifier.
Otherwise the failure is that of the first stop that offends.
-/

namespace ServiceLevel

/-! ## Loaders -/

namespace AnyPlugin

/-- A loaded plugin of a kind. -/
def ofLoaded : PluginKind → LoadedPlugin → AnyPlugin
  | .indicator, plugin => .indicator (.loaded plugin)
  | .processor, plugin => .processor (.loaded plugin)

end AnyPlugin

namespace Repository

/-- The plugin that the loader of a kind makes of a text, if it accepts it. -/
def loadAs? (library : Source.Library) (kind : PluginKind) : PluginText → Option AnyPlugin
  | .source source =>
    (LoadedPlugin.ofSource library kind source).1.toOption.map (AnyPlugin.ofLoaded kind)
  | .shipped file => if (shippedPlugin file).kind = kind then some (shippedPlugin file) else none

/-- A text is loaded by the loader of indicators if it accepts it, and else by the other one. -/
theorem loadText_eq_ok_iff
    {library : Source.Library}
    {text : PluginText}
    {plugin : AnyPlugin} :
    (loadText library text).1 = .ok plugin ↔
      (loadAs? library .indicator text).or (loadAs? library .processor text) = some plugin := by
  cases text with
  | shipped file =>
      show Except.ok (shippedPlugin file) = Except.ok plugin ↔ _
      rw [loadAs?, loadAs?]
      cases file with
      | indicator => simp [shippedPlugin, AnyPlugin.kind]
      | processor shipped => simp [shippedPlugin, AnyPlugin.kind]
  | source source =>
      rw [loadText, loadSource, loadAs?, loadAs?]
      rcases LoadedPlugin.ofSource library .indicator source with ⟨first | loaded, events⟩
      · rcases LoadedPlugin.ofSource library .processor source with ⟨second | loaded, later⟩
        · simp [Except.toOption]
        · simp [Except.toOption, AnyPlugin.ofLoaded]
      · simp [Except.toOption, AnyPlugin.ofLoaded]

/-- A source is bad if both loaders refuse it. -/
theorem loadSource_eq_error_iff
    {library : Source.Library}
    {source : Source}
    {first second : Failure} :
    (loadSource library source).1 = .error (first, second) ↔
      (LoadedPlugin.ofSource library .indicator source).1 = .error first ∧
        (LoadedPlugin.ofSource library .processor source).1 = .error second := by
  rw [loadSource]
  rcases LoadedPlugin.ofSource library .indicator source with ⟨refused | loaded, events⟩
  · rcases LoadedPlugin.ofSource library .processor source with ⟨refusedToo | loaded, later⟩
    · simp
    · simp
  · simp

/-! ## Stops -/

/-- A stop of a scan: a root that is no directory, or a plugin file with what its code is given. -/
inductive Stop where
  | lost (root : FilePath)
  | file (library : Source.Library) (path : FilePath) (content : FileContent)

/-- The stops of a scan through roots, in its order. -/
def stops (place : Workplace) (roots : List FilePath) : List Stop :=
  roots.flatMap fun root =>
    match place.find? root with
    | some (.directory entries) =>
      (FileTree.directory entries).pluginFiles.map fun file =>
        .file place.library (root.below file.1) file.2
    | _ => [.lost root]

theorem stops_of_directory
    {place : Workplace}
    {root : FilePath}
    {entries : List (String × FileTree)}
    (found : place.find? root = some (.directory entries)) :
    stops place [root] =
      (FileTree.directory entries).pluginFiles.map fun file =>
        .file place.library (root.below file.1) file.2 := by
  rw [stops, List.flatMap_singleton, found]

namespace Stop

/-- The plugin of a stop, if it is a file that one of the loaders accepts. -/
def plugin? : Stop → Option AnyPlugin
  | .lost _ => none
  | .file library _ content =>
    (readText? content).bind fun text =>
      (loadAs? library .indicator text).or (loadAs? library .processor text)

end Stop

/-- The plugins of the files among some stops. -/
def plugins (stops : List Stop) : List AnyPlugin :=
  stops.filterMap Stop.plugin?

/-- No stop is in the way of a scan. -/
structure Faultless (strict : Bool) (stops : List Stop) : Prop where
  /-- Every root is a directory. -/
  rooted : ∀ root, .lost root ∉ stops
  /-- Every file can be read. -/
  readable : ∀ library path content, .file library path content ∈ stops → (readText? content).isSome
  /-- In a strict scan no file is bad. -/
  loadable :
    strict = true →
      ∀ library path content,
        .file library path content ∈ stops → (Stop.file library path content).plugin?.isSome
  /-- No two plugins of a kind share an identifier. -/
  apart :
    (plugins stops).Pairwise fun earlier later =>
      earlier.kind = later.kind → earlier.id ≠ later.id

/-- What a stop does wrong behind other stops, as the failure that reports it. -/
inductive Offends (strict : Bool) (before : List Stop) : Stop → Failure → Prop
  | lost (root : FilePath) :
      Offends strict before (.lost root) (notDirectory root.text)
  | unreadable {library : Source.Library} {path : FilePath} {content : FileContent}
      (unread : readText? content = none) :
      Offends strict before (.file library path content) (unreadable path.text)
  | bad {library : Source.Library} {path : FilePath} {content : FileContent} {source : Source}
      {first second : Failure}
      (isStrict : strict = true)
      (read : readText? content = some (.source source))
      (noIndicator : (LoadedPlugin.ofSource library .indicator source).1 = .error first)
      (noProcessor : (LoadedPlugin.ofSource library .processor source).1 = .error second)
      (unloadable : first.kind = .pluginLoad ∧ second.kind = .pluginLoad) :
      Offends strict before (.file library path content) (bad path.text first second)
  | taken {stop : Stop} {plugin holder : AnyPlugin}
      (own : stop.plugin? = some plugin)
      (isBefore : holder ∈ plugins before)
      (sameKind : holder.kind = plugin.kind)
      (sameId : holder.id = plugin.id) :
      Offends strict before stop (.collision (.text plugin.id) (.text plugin.kind.name))

theorem Offends.kind
    {strict : Bool}
    {before : List Stop}
    {stop : Stop}
    {failure : Failure}
    (offends : Offends strict before stop failure) :
    failure.kind = .pluginLoad ∨ failure.kind = .pluginCollision := by
  cases offends with
  | lost root => exact Or.inl rfl
  | unreadable unread => exact Or.inl rfl
  | bad isStrict read noIndicator noProcessor unloadable => exact Or.inl rfl
  | taken own isBefore sameKind sameId => exact Or.inr rfl

/-- The failure of the first stop that offends. -/
def FirstOffence (strict : Bool) (stops : List Stop) (failure : Failure) : Prop :=
  ∃ before stop after,
    stops = before ++ stop :: after ∧
      Faultless strict before ∧
      Offends strict before stop failure

/-! ## Snapshots of plugins -/

end Repository

namespace Snapshot

/-- The plugins of a kind under their identifiers. -/
def listed (snapshot : Snapshot) : PluginKind → Entries AnyPlugin
  | .indicator => snapshot.indicators.map .indicator
  | .processor => snapshot.processors.map .processor

theorem isSome_get?_listed (snapshot : Snapshot) (kind : PluginKind) (id : String) :
    ((snapshot.listed kind).get? id).isSome = snapshot.holds kind id := by
  cases kind with
  | indicator => rw [listed, Entries.get?_map, Option.isSome_map, holds]
  | processor => rw [listed, Entries.get?_map, Option.isSome_map, holds]

theorem listed_put (snapshot : Snapshot) (plugin : AnyPlugin) (kind : PluginKind) :
    (snapshot.put plugin).listed kind =
      if plugin.kind = kind then (snapshot.listed kind).put plugin.id plugin
      else snapshot.listed kind := by
  cases plugin with
  | indicator plugin =>
      cases kind with
      | indicator => exact Entries.map_put _ _ _ _
      | processor => rfl
  | processor plugin =>
      cases kind with
      | indicator => rfl
      | processor => exact Entries.map_put _ _ _ _

/-- A snapshot lists exactly some plugins, by kind and in their order, each under its own
identifier. -/
def Serves (snapshot : Snapshot) (plugins : List AnyPlugin) : Prop :=
  ∀ kind,
    (snapshot.listed kind).pairs =
      (plugins.filter fun plugin => plugin.kind = kind).map fun plugin => (plugin.id, plugin)

theorem serves_empty : Serves {} [] := by
  intro kind
  cases kind with
  | indicator => rfl
  | processor => rfl

variable {snapshot : Snapshot} {plugins : List AnyPlugin}

/-- An identifier is taken exactly if one of the plugins of its kind has it. -/
theorem Serves.holds_iff
    (serves : snapshot.Serves plugins)
    {kind : PluginKind}
    {id : String} :
    snapshot.holds kind id ↔
      ∃ plugin ∈ plugins, plugin.kind = kind ∧ plugin.id = id := by
  rw [← isSome_get?_listed, Entries.isSome_get?_iff, Entries.keys, serves kind, List.map_map,
    List.mem_map]
  constructor
  · rintro ⟨plugin, member, sameId⟩
    obtain ⟨isPlugin, sameKind⟩ := List.mem_filter.mp member
    exact ⟨plugin, isPlugin, of_decide_eq_true sameKind, sameId⟩
  · rintro ⟨plugin, isPlugin, sameKind, sameId⟩
    exact ⟨plugin, List.mem_filter.mpr ⟨isPlugin, decide_eq_true sameKind⟩, sameId⟩

theorem Serves.put
    (serves : snapshot.Serves plugins)
    {plugin : AnyPlugin}
    (isFree : ¬ snapshot.holds plugin.kind plugin.id) :
    (snapshot.put plugin).Serves (plugins ++ [plugin]) := by
  intro kind
  rw [listed_put, List.filter_append, List.map_append, ← serves kind]
  by_cases sameKind : plugin.kind = kind
  · have isNew : plugin.id ∉ (snapshot.listed kind).keys := by
      rw [← Entries.isSome_get?_iff, isSome_get?_listed, ← sameKind]
      exact isFree
    have kept : [plugin].filter (fun plugin => decide (plugin.kind = kind)) = [plugin] := by
      simp [sameKind]
    rw [if_pos sameKind, Entries.pairs_put_of_notMem isNew, kept, List.map_singleton]
  · have dropped : [plugin].filter (fun plugin => decide (plugin.kind = kind)) = [] := by
      simp [sameKind]
    rw [if_neg sameKind, dropped, List.map_nil, List.append_nil]

end Snapshot

namespace Repository

/-! ## One stop -/

/-- What a scan does at a stop. -/
def visit (strict : Bool) (snapshot : Snapshot) : Stop → Except Failure Snapshot
  | .lost root => .error (notDirectory root.text)
  | .file library path content => (scanFile library strict snapshot path.text content).1

variable {strict : Bool} {before : List Stop}

theorem plugins_append (earlier later : List Stop) :
    plugins (earlier ++ later) = plugins earlier ++ plugins later :=
  List.filterMap_append

theorem plugins_singleton (stop : Stop) : plugins [stop] = stop.plugin?.toList := by
  rw [plugins, List.filterMap_cons]
  cases stop.plugin? <;> rfl

/-- A file that can be read, is not bad in a strict scan and has no identifier that is taken
is in nobody's way. -/
theorem Faultless.append_file
    (faultless : Faultless strict before)
    {library : Source.Library}
    {path : FilePath}
    {content : FileContent}
    (read : (readText? content).isSome)
    (loads : strict = true → (Stop.file library path content).plugin?.isSome)
    (isFree :
      ∀ plugin ∈ (Stop.file library path content).plugin?,
        ∀ holder ∈ plugins before, holder.kind = plugin.kind → holder.id ≠ plugin.id) :
    Faultless strict (before ++ [.file library path content]) where
  rooted := by
    intro root member
    rcases List.mem_append.mp member with inBefore | isLast
    · exact faultless.rooted root inBefore
    · cases List.mem_singleton.mp isLast
  readable := by
    intro given other held member
    rcases List.mem_append.mp member with inBefore | isLast
    · exact faultless.readable given other held inBefore
    · cases List.mem_singleton.mp isLast
      exact read
  loadable := by
    intro isStrict given other held member
    rcases List.mem_append.mp member with inBefore | isLast
    · exact faultless.loadable isStrict given other held inBefore
    · cases List.mem_singleton.mp isLast
      exact loads isStrict
  apart := by
    rw [plugins_append, plugins_singleton]
    refine List.pairwise_append.mpr ⟨faultless.apart, ?_, ?_⟩
    · cases (Stop.file library path content).plugin? with
      | none => exact .nil
      | some plugin => exact List.pairwise_singleton _ _
    · intro holder isBefore plugin isLast sameKind
      exact isFree plugin (Option.mem_toList.mp isLast) holder isBefore sameKind

/-- Where a stop offends, the stops are not without a fault. -/
theorem Offends.not_faultless
    {stop : Stop}
    {failure : Failure}
    (offends : Offends strict before stop failure)
    (after : List Stop) :
    ¬ Faultless strict (before ++ stop :: after) := by
  intro faultless
  have isStop : stop ∈ before ++ stop :: after :=
    List.mem_append_right before List.mem_cons_self
  cases offends with
  | lost root => exact faultless.rooted root isStop
  | unreadable unread =>
      have read := faultless.readable _ _ _ isStop
      rw [unread] at read
      cases read
  | @bad library path content source first second isStrict read noIndicator noProcessor _ =>
      have loads := faultless.loadable isStrict _ _ _ isStop
      rw [Stop.plugin?, read, Option.bind_some, loadAs?, loadAs?, noIndicator, noProcessor] at loads
      cases loads
  | @taken _ plugin holder own isBefore sameKind sameId =>
      have apart := faultless.apart
      rw [plugins_append] at apart
      have isLater : plugin ∈ plugins (stop :: after) :=
        List.mem_filterMap.mpr ⟨stop, List.mem_cons_self, own⟩
      exact (List.pairwise_append.mp apart).2.2 holder isBefore plugin isLater sameKind sameId

theorem FirstOffence.not_faultless
    {stops : List Stop}
    {failure : Failure}
    (first : FirstOffence strict stops failure) :
    ¬ Faultless strict stops := by
  obtain ⟨before, stop, after, split, _, offends⟩ := first
  rw [split]
  exact offends.not_faultless after

theorem FirstOffence.kind
    {stops : List Stop}
    {failure : Failure}
    (first : FirstOffence strict stops failure) :
    failure.kind = .pluginLoad ∨ failure.kind = .pluginCollision := by
  obtain ⟨_, _, _, _, _, offends⟩ := first
  exact offends.kind

/-- A file whose text is known has the plugin that its text is loaded as. -/
theorem Stop.plugin?_of_read
    {library : Source.Library}
    {path : FilePath}
    {content : FileContent}
    {text : PluginText}
    (read : readText? content = some text) :
    (Stop.file library path content).plugin? =
      (loadAs? library .indicator text).or (loadAs? library .processor text) := by
  rw [Stop.plugin?, read, Option.bind_some]

theorem visit_of_unread
    {library : Source.Library}
    (snapshot : Snapshot)
    (path : FilePath)
    {content : FileContent}
    (unread : readText? content = none) :
    visit strict snapshot (.file library path content) = .error (unreadable path.text) := by
  rw [visit, scanFile, unread]

theorem visit_of_refused
    {library : Source.Library}
    (snapshot : Snapshot)
    (path : FilePath)
    {content : FileContent}
    {text : PluginText}
    (read : readText? content = some text)
    {first second : Failure}
    (refused : (loadText library text).1 = .error (first, second)) :
    visit strict snapshot (.file library path content) =
      if strict then .error (bad path.text first second) else .ok snapshot := by
  rw [visit, scanFile, read]
  rcases loaded : loadText library text with ⟨result, events⟩
  rw [loaded] at refused
  cases refused
  cases strict with
  | true => simp only [loaded, if_true]
  | false => simp only [loaded, Bool.false_eq_true, if_false]

theorem visit_of_loaded
    {library : Source.Library}
    (snapshot : Snapshot)
    (path : FilePath)
    {content : FileContent}
    {text : PluginText}
    (read : readText? content = some text)
    {plugin : AnyPlugin}
    (accepted : (loadText library text).1 = .ok plugin) :
    visit strict snapshot (.file library path content) = snapshot.add plugin := by
  rw [visit, scanFile, read]
  rcases loaded : loadText library text with ⟨result, events⟩
  rw [loaded] at accepted
  cases accepted
  simp only [loaded]
  cases snapshot.add plugin with
  | error taken => rfl
  | ok next => rfl

/-- What a scan makes of a stop: it reports an offence, or goes on with the plugin. -/
def Judges (strict : Bool) (before : List Stop) (stop : Stop) : Except Failure Snapshot → Prop
  | .error failure => Offends strict before stop failure
  | .ok next =>
    next.Serves (plugins (before ++ [stop])) ∧
      (Faultless strict before → Faultless strict (before ++ [stop]))

theorem judges_refused
    {library : Source.Library}
    {snapshot : Snapshot}
    (serves : snapshot.Serves (plugins before))
    {path : FilePath}
    {content : FileContent}
    {text : PluginText}
    (read : readText? content = some text)
    {first second : Failure}
    (refused : (loadText library text).1 = .error (first, second)) :
    Judges strict before (.file library path content)
      (if strict then .error (bad path.text first second) else .ok snapshot) := by
  cases strict with
  | true =>
      cases text with
      | shipped file => cases refused
      | source source =>
          obtain ⟨noIndicator, noProcessor⟩ := loadSource_eq_error_iff.mp refused
          exact
            .bad rfl read noIndicator noProcessor
              ⟨LoadedPlugin.kind_of_ofSource noIndicator,
                LoadedPlugin.kind_of_ofSource noProcessor⟩
  | false =>
      have noPlugin : (Stop.file library path content).plugin? = none := by
        rw [Stop.plugin?_of_read read, Option.eq_none_iff_forall_ne_some]
        intro plugin isPlugin
        rw [← loadText_eq_ok_iff, refused] at isPlugin
        cases isPlugin
      constructor
      · rw [plugins_append, plugins_singleton, noPlugin, Option.toList_none, List.append_nil]
        exact serves
      · intro faultless
        refine faultless.append_file ?_ ?_ ?_
        · rw [read]
          rfl
        · intro impossible
          cases impossible
        · intro plugin isPlugin
          rw [noPlugin] at isPlugin
          cases isPlugin

theorem judges_add
    {library : Source.Library}
    {snapshot : Snapshot}
    (serves : snapshot.Serves (plugins before))
    {path : FilePath}
    {content : FileContent}
    {text : PluginText}
    (read : readText? content = some text)
    {plugin : AnyPlugin}
    (accepted : (loadText library text).1 = .ok plugin) :
    Judges strict before (.file library path content) (snapshot.add plugin) := by
  have own : (Stop.file library path content).plugin? = some plugin := by
    rw [Stop.plugin?_of_read read, ← loadText_eq_ok_iff]
    exact accepted
  rw [Snapshot.add]
  split
  · rename_i isTaken
    obtain ⟨holder, isBefore, sameKind, sameId⟩ := serves.holds_iff.mp isTaken
    exact .taken own isBefore sameKind sameId
  · rename_i isFree
    constructor
    · rw [plugins_append, plugins_singleton, own]
      exact serves.put isFree
    · intro faultless
      refine faultless.append_file ?_ ?_ ?_
      · rw [read]
        rfl
      · intro _
        rw [own]
        rfl
      · intro other isOther holder isBefore sameKind sameId
        cases own.symm.trans isOther
        exact isFree (serves.holds_iff.mpr ⟨holder, isBefore, sameKind, sameId⟩)

/-- One stop: a scan that has kept count of the plugins so far judges it rightly. -/
theorem judges_visit
    (strict : Bool)
    {snapshot : Snapshot}
    (serves : snapshot.Serves (plugins before))
    (stop : Stop) :
    Judges strict before stop (visit strict snapshot stop) := by
  cases stop with
  | lost root => exact .lost root
  | file library path content =>
      cases read : readText? content with
      | none =>
          rw [visit_of_unread snapshot path read]
          exact .unreadable read
      | some text =>
          cases loaded : (loadText library text).1 with
          | error refusals =>
              rw [visit_of_refused snapshot path read loaded]
              exact judges_refused serves read loaded
          | ok plugin =>
              rw [visit_of_loaded snapshot path read loaded]
              exact judges_add serves read loaded

/-! ## All stops -/

theorem scanFiles_fst
    (library : Source.Library)
    (snapshot : Snapshot)
    (files : List (FilePath × FileContent)) :
    (scanFiles library strict snapshot files).1 =
      (files.map fun file => Stop.file library file.1 file.2).foldlM (visit strict) snapshot := by
  induction files generalizing snapshot with
  | nil => rfl
  | cons file rest ih =>
      rw [List.map_cons, List.foldlM_cons, visit, scanFiles]
      rcases scanFile library strict snapshot file.1.text file.2 with ⟨failure | next, events⟩
      · rfl
      · exact ih next

/-- A scan through roots is a walk through its stops. -/
theorem scanRoots_fst
    (place : Workplace)
    (strict : Bool)
    (snapshot : Snapshot)
    (roots : List FilePath) :
    (scanRoots place strict snapshot roots).1 =
      (stops place roots).foldlM (visit strict) snapshot := by
  induction roots generalizing snapshot with
  | nil => rfl
  | cons root rest ih =>
      rw [stops, List.flatMap_cons, List.foldlM_append, ← stops, scanRoots, filesBelow]
      cases place.find? root with
      | none => rfl
      | some tree =>
          cases tree with
          | file content => rfl
          | special => rfl
          | directory entries =>
              let files : List (FilePath × FileContent) :=
                (FileTree.directory entries).pluginFiles.map fun file =>
                  (root.below file.1, file.2)
              have sameStops :
                  ((FileTree.directory entries).pluginFiles.map fun file =>
                      Stop.file place.library (root.below file.1) file.2) =
                    files.map fun file => Stop.file place.library file.1 file.2 := by
                rw [List.map_map]
                rfl
              simp only [sameStops]
              rw [← scanFiles_fst]
              rcases scanFiles place.library strict snapshot files with ⟨failure | next, events⟩
              · rfl
              · exact ih next

/-- A walk through stops ends behind the last one, or with the first offence. -/
theorem walk_cases (strict : Bool) (stops : List Stop) :
    (∃ snapshot,
        stops.foldlM (visit strict) {} = .ok snapshot ∧
          Faultless strict stops ∧
          snapshot.Serves (plugins stops)) ∨
      ∃ failure,
        stops.foldlM (visit strict) {} = .error failure ∧
          FirstOffence strict stops failure := by
  induction stops using List.reverseRecOn with
  | nil =>
      refine Or.inl ⟨{}, rfl, ?_, Snapshot.serves_empty⟩
      constructor
      · intro root impossible
        cases impossible
      · intro library path content impossible
        cases impossible
      · intro _ library path content impossible
        cases impossible
      · exact .nil
  | append_singleton before stop ih =>
      rcases ih with
        ⟨snapshot, walked, faultless, serves⟩ | ⟨failure, stopped, first⟩
      · have lastStop :
            (before ++ [stop]).foldlM (visit strict) {} = visit strict snapshot stop := by
          rw [List.foldlM_append, walked]
          exact bind_pure (visit strict snapshot stop)
        have judged := judges_visit strict serves stop
        rw [lastStop]
        cases visited : visit strict snapshot stop with
        | error failure =>
            rw [visited] at judged
            exact Or.inr ⟨failure, rfl, before, stop, [], rfl, faultless, judged⟩
        | ok next =>
            rw [visited] at judged
            exact Or.inl ⟨next, rfl, judged.2 faultless, judged.1⟩
      · obtain ⟨front, offender, back, split, faultless, offends⟩ := first
        refine
          Or.inr ⟨failure, ?_, front, offender, back ++ [stop], ?_, faultless, offends⟩
        · rw [List.foldlM_append, stopped]
          rfl
        · rw [split, List.append_assoc, List.cons_append]

/--
A scan gives what its stops say and nothing else.  If every root is a directory, every file can
be read, no two plugins of a kind share an identifier and, in a strict scan, no file is bad, it
succeeds, and the snapshot lists for each kind the plugins of the files of that kind, in their
order, each under its own identifier.  Otherwise it fails with what the first stop that offends
does wrong: a plugin that cannot be loaded, or an identifier that is taken.
-/
theorem scan_exact (place : Workplace) (strict : Bool) (roots : List FilePath) :
    (Faultless strict (stops place roots) →
        ∃ snapshot events,
          scan place strict roots = (.ok snapshot, events) ∧
            snapshot.Serves (plugins (stops place roots))) ∧
      (¬ Faultless strict (stops place roots) →
        ∃ failure events,
          scan place strict roots = (.error failure, events) ∧
            FirstOffence strict (stops place roots) failure ∧
            (failure.kind = .pluginLoad ∨ failure.kind = .pluginCollision)) := by
  have walk := scanRoots_fst place strict {} roots
  rcases scanned : scan place strict roots with ⟨result, events⟩
  rw [← scan, scanned] at walk
  rcases walk_cases strict (stops place roots) with
    ⟨snapshot, walked, faultless, serves⟩ | ⟨failure, stopped, first⟩
  · refine ⟨?_, fun faulty => absurd faultless faulty⟩
    intro _
    exact ⟨snapshot, events, congrArg (·, events) (walk.trans walked), serves⟩
  · refine ⟨fun faultless => absurd faultless first.not_faultless, ?_⟩
    intro _
    exact ⟨failure, events, congrArg (·, events) (walk.trans stopped), first, first.kind⟩

/-- A source of a plugin of a kind. -/
def plainSource (kind : PluginKind) (id : String) : Source where
  statements :=
    [.comment "# plugin-module: plain",
      .assign (.name kind.versionSymbol) (.constant (.text kind.version)),
      .assign (.name kind.idSymbol) (.constant (.text id)),
      .function kind.entrySymbol
        ((["first", "second", "third"].take kind.entryArity).map fun name => { name })
        (.returns (.constant .null))]

/-- A directory with a file that is no plugin and plugins of both kinds that share an
identifier. -/
def sharedPlace : Workplace where
  tree :=
    .directory
      [("plugins",
        .directory
          [("slo", .directory [("plugin.py", .file (.source (plainSource .processor "shared")))]),
            ("plugin.py", .file (.text "import os")),
            ("sli",
              .directory [("my_plugin.py", .file (.source (plainSource .indicator "shared")))])])]
  current := []
  home := { own := ⟨.top, []⟩ }

/-- The stops below that directory. -/
def sharedStops : List Stop :=
  [.file .standard (.ofText "/plugins/plugin.py") (.text "import os"),
    .file .standard (.ofText "/plugins/sli/my_plugin.py")
      (.source (plainSource .indicator "shared")),
    .file .standard (.ofText "/plugins/slo/plugin.py")
      (.source (plainSource .processor "shared"))]

/-- Scanned once the directory has a plugin of each kind; scanned twice it is in its own way. -/
theorem scan_exact_of_shared :
    (∃ snapshot events,
      scan sharedPlace false [.ofText "/plugins"] = (.ok snapshot, events) ∧
        snapshot.Serves (plugins sharedStops) ∧
        (plugins sharedStops).map (fun plugin => (plugin.kind, plugin.id)) =
          [(.indicator, "shared"), (.processor, "shared")]) ∧
      ∃ failure events,
        scan sharedPlace false [.ofText "/plugins", .ofText "/plugins"] =
          (.error failure, events) ∧
        FirstOffence false (sharedStops ++ sharedStops) failure := by
  have once : stops sharedPlace [.ofText "/plugins"] = sharedStops := by
    rw [stops_of_directory rfl]
    cbv
  have twice :
      stops sharedPlace [.ofText "/plugins", .ofText "/plugins"] =
        sharedStops ++ sharedStops := by
    show stops sharedPlace ([.ofText "/plugins"] ++ [.ofText "/plugins"]) = _
    rw [stops, List.flatMap_append, ← stops, once]
  have found :
      (plugins sharedStops).map (fun plugin => (plugin.kind, plugin.id)) =
        [(.indicator, "shared"), (.processor, "shared")] := by
    decide +kernel
  have faultless : Faultless false sharedStops := by
    constructor
    · intro root member
      simp [sharedStops] at member
    · have read :
          ∀ stop ∈ sharedStops, ∃ library path content,
            stop = .file library path content ∧ (readText? content).isSome := by
        intro stop member
        simp only [sharedStops, List.mem_cons, List.not_mem_nil, or_false] at member
        rcases member with rfl | rfl | rfl <;> exact ⟨_, _, _, rfl, rfl⟩
      intro library path content member
      obtain ⟨_, _, _, same, isRead⟩ := read _ member
      cases same
      exact isRead
    · intro impossible
      cases impossible
    · have apart :
          ((plugins sharedStops).map fun plugin => (plugin.kind, plugin.id)).Pairwise
            fun earlier later => earlier.1 = later.1 → earlier.2 ≠ later.2 := by
        rw [found]
        decide
      exact List.pairwise_map.mp apart
  have faulty : ¬ Faultless false (sharedStops ++ sharedStops) := by
    intro again
    have apart := List.pairwise_append.mp (plugins_append _ _ ▸ again.apart)
    cases listed : plugins sharedStops with
    | nil =>
        rw [listed] at found
        cases found
    | cons plugin others =>
        rw [listed] at apart
        exact apart.2.2 plugin List.mem_cons_self plugin List.mem_cons_self rfl rfl
  constructor
  · obtain ⟨snapshot, events, scanned, serves⟩ :=
      (scan_exact sharedPlace false [.ofText "/plugins"]).1 (once ▸ faultless)
    exact ⟨snapshot, events, scanned, once ▸ serves, found⟩
  · obtain ⟨failure, events, scanned, first, _⟩ :=
      (scan_exact sharedPlace false [.ofText "/plugins", .ofText "/plugins"]).2
        (twice ▸ faulty)
    exact ⟨failure, events, scanned, twice ▸ first⟩

end Repository

end ServiceLevel
