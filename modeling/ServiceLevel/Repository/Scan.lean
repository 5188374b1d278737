import ServiceLevel.Repository.Snapshot
import ServiceLevel.Files.PluginFiles
import ServiceLevel.Files.Workplace

/-!
# Scans for plugins

A scan walks through the plugin files below its roots, root by root, and loads
each as a plugin of the first kind that accepts it.  It stops at a root that is no
directory, at a file that cannot be read, and at an identifier that is taken.  A
file that neither kind accepts stops a strict scan and is skipped by any other.
-/

namespace ServiceLevel.Repository

/-- What a plugin file holds: a source, or a plugin shipped with the library. -/
inductive PluginText where
  | source (source : Source)
  | shipped (plugin : ShippedFile)
  deriving Repr

/-- Read a plugin file; every line end counts as a line feed. -/
def readText? : FileContent → Option PluginText
  | .source source => some (.source source.withUnifiedLineEnds)
  | .text content => some (.source (Source.ofText content).withUnifiedLineEnds)
  | .document _ => some (.source (Source.ofText ""))
  | .bytes content =>
    (FileContent.decode content).map fun text => .source (Source.ofText text).withUnifiedLineEnds
  | .shipped plugin => some (.shipped plugin)

/-- Load a source as a plugin of the first kind that accepts it, or tell why neither does. -/
def loadSource (library : Source.Library) (source : Source) :
    Except (Failure × Failure) AnyPlugin × List LogEvent :=
  match LoadedPlugin.ofSource library .indicator source with
  | (.ok plugin, events) => (.ok (.indicator (.loaded plugin)), events)
  | (.error first, earlier) =>
    match LoadedPlugin.ofSource library .processor source with
    | (.ok plugin, events) => (.ok (.processor (.loaded plugin)), earlier ++ events)
    | (.error second, events) => (.error (first, second), earlier ++ events)

/-- The plugin of a file shipped with the library. -/
def shippedPlugin : ShippedFile → AnyPlugin
  | .indicator => .indicator .availability
  | .processor shipped => .processor (.shipped shipped)

/-- The name of the module of a file shipped with the library. -/
def shippedModule : ShippedFile → String
  | .indicator => Availability.id
  | .processor shipped => shipped.moduleName

/-- Load a plugin file. -/
def loadText (library : Source.Library) :
    PluginText → Except (Failure × Failure) AnyPlugin × List LogEvent
  | .source source => loadSource library source
  | .shipped file =>
    let plugin := shippedPlugin file
    (.ok plugin, [LoadedPlugin.evaluatedEvent plugin.kind plugin.id (shippedModule file)])

/-- A plugin file that cannot be read. -/
def unreadable (path : String) : Failure :=
  .pluginLoad ("could not read plugin file " ++ Text.quoted path)

/-- A plugin file that neither kind accepts. -/
def bad (path : String) (first second : Failure) : Failure :=
  .because .pluginLoad
    ("could not load plugin file " ++ Text.quoted path ++ ": as SLI plugin: " ++ first.message ++
      "; as SLO plugin: " ++ second.message)
    second [("path", .text path)]

/-- A root that is no directory. -/
def notDirectory (path : String) : Failure :=
  .pluginLoad ("plugins path " ++ Text.quoted path ++ " is not a directory")

/-- The event of a file that was skipped. -/
def skippedEvent (path : String) (first second : Failure) : LogEvent :=
  ⟨.warning, LogEvent.repositoryLogger, "plugin_load_skipped",
    [("path", .text path), ("sli_error", .text first.message),
      ("slo_error", .text second.message)]⟩

/-- The event of a plugin that was loaded from a file. -/
def loadedEvent (plugin : AnyPlugin) (path : String) : LogEvent :=
  ⟨.debug, LogEvent.repositoryLogger, plugin.kind.name ++ "_plugin_loaded",
    [("plugin_id", .text plugin.id), ("path", .text path)]⟩

/-- Add the plugin of a file to a snapshot. -/
def scanFile (library : Source.Library) (strict : Bool) (snapshot : Snapshot) (path : String)
    (content : FileContent) : Except Failure Snapshot × List LogEvent :=
  match readText? content with
  | none => (.error (unreadable path), [])
  | some text =>
    match loadText library text with
    | (.error (first, second), events) =>
      if strict then (.error (bad path first second), events)
      else (.ok snapshot, events ++ [skippedEvent path first second])
    | (.ok plugin, events) =>
      match snapshot.add plugin with
      | .error taken => (.error taken, events)
      | .ok next => (.ok next, events ++ [loadedEvent plugin path])

/-- Add the plugins of files to a snapshot, up to the first failure. -/
def scanFiles (library : Source.Library) (strict : Bool) (snapshot : Snapshot) :
    List (FilePath × FileContent) → Except Failure Snapshot × List LogEvent
  | [] => (.ok snapshot, [])
  | (path, content) :: rest =>
    match scanFile library strict snapshot path.text content with
    | (.error failure, events) => (.error failure, events)
    | (.ok next, events) =>
      let (result, later) := scanFiles library strict next rest
      (result, events ++ later)

/-- The plugin files below a root, in the order of a scan. -/
def filesBelow (place : Workplace) (root : FilePath) :
    Except Failure (List (FilePath × FileContent)) :=
  match place.find? root with
  | some (.directory entries) =>
    .ok ((FileTree.directory entries).pluginFiles.map fun file => (root.below file.1, file.2))
  | _ => .error (notDirectory root.text)

/-- Add the plugins below roots to a snapshot, up to the first failure. -/
def scanRoots (place : Workplace) (strict : Bool) (snapshot : Snapshot) :
    List FilePath → Except Failure Snapshot × List LogEvent
  | [] => (.ok snapshot, [])
  | root :: rest =>
    match filesBelow place root with
    | .error failure => (.error failure, [])
    | .ok files =>
      match scanFiles place.library strict snapshot files with
      | (.error failure, events) => (.error failure, events)
      | (.ok next, events) =>
        let (result, later) := scanRoots place strict next rest
        (result, events ++ later)

/-- The snapshot of a scan through roots. -/
def scan (place : Workplace) (strict : Bool) (roots : List FilePath) :
    Except Failure Snapshot × List LogEvent :=
  scanRoots place strict {} roots

end ServiceLevel.Repository
