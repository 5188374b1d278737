import ServiceLevel.Source.Execution
import ServiceLevel.Source.Header

/-!
# Loaded plugins

A plugin is loaded by running its source in a sandbox of its own and looking up
three symbols: the version, the identifier, and the entry function, which has to
take a fixed number of positional arguments.  Each kind of plugin has its own
symbols.
-/

namespace ServiceLevel

/-- The kinds of plugins. -/
inductive PluginKind where
  /-- Plugins that give the query of an indicator. -/
  | indicator
  /-- Plugins that make a processor. -/
  | processor
  deriving DecidableEq, Repr

namespace PluginKind

/-- The name of a kind. -/
def name : PluginKind → String
  | .indicator => "sli"
  | .processor => "slo"

/-- The version that plugins of a kind have. -/
def version : PluginKind → String
  | .indicator => Source.Surface.indicatorVersion
  | .processor => Source.Surface.processorVersion

/-- The symbol with the version. -/
def versionSymbol : PluginKind → String
  | .indicator => "SLI_PLUGIN_VERSION"
  | .processor => "PLUGIN_VERSION"

/-- The symbol with the identifier. -/
def idSymbol : PluginKind → String
  | .indicator => "SLI_PLUGIN_ID"
  | .processor => "PLUGIN_ID"

/-- The symbol with the entry function. -/
def entrySymbol : PluginKind → String
  | .indicator => "sli_plugin"
  | .processor => "new_plugin"

/-- How many arguments the entry function takes. -/
def entryArity : PluginKind → Nat
  | .indicator => 3
  | .processor => 2

end PluginKind

/-- A plugin whose source has run. -/
structure LoadedPlugin where
  id : String
  /-- What its code is given. -/
  library : Source.Library
  sandbox : Source.Sandbox
  entry : Source.Value

namespace LoadedPlugin

open Source

/-- A symbol that has to be a text. -/
def textSymbol (sandbox : Sandbox) (label symbol : String) : Except Failure String := do
  match ← sandbox.lookup symbol with
  | .data (.text content) => .ok content
  | _ =>
    .error (.pluginLoad
      ("plugin " ++ label ++ " symbol " ++ Text.quoted symbol ++ " must be a string"))

/-- The plugin that a source has defined in its sandbox. -/
def ofSandbox (library : Library) (kind : PluginKind) (sandbox : Sandbox) :
    Except Failure LoadedPlugin := do
  let version ← textSymbol sandbox "version" kind.versionSymbol
  if version ≠ kind.version then
    .error (.pluginLoad
      ("unsupported plugin version " ++ Text.quoted version ++ ", expected " ++
        Text.quoted kind.version))
  else do
    let id ← textSymbol sandbox "ID" kind.idSymbol
    if id.isEmpty then .error (.pluginLoad "plugin ID is required")
    else do
      let entry ← sandbox.lookup kind.entrySymbol
      if entry.arity? = some kind.entryArity then return ⟨id, library, sandbox, entry⟩
      else
        .error (.pluginLoad
          ("plugin " ++ Text.quoted id ++ ": " ++ Text.quoted kind.entrySymbol ++
            " must be a function taking exactly " ++ Quantity.integerText kind.entryArity ++
            " arguments"))

/-- The event of a plugin that was loaded. -/
def evaluatedEvent (kind : PluginKind) (id moduleName : String) : LogEvent :=
  ⟨.debug, LogEvent.loaderLogger, kind.name ++ "_plugin_evaluated",
    [("plugin_id", .text id), ("module", .text moduleName)]⟩

/-- Load a source as a plugin of a kind; the events tell what it printed. -/
def ofSource (library : Library) (kind : PluginKind) (source : Source) :
    Except Failure LoadedPlugin × List LogEvent :=
  match source.moduleName with
  | .error failure => (.error failure, [])
  | .ok name =>
    match (Sandbox.fresh name).run library source with
    | (.error failure, sandbox) => (.error failure, sandbox.events)
    | (.ok (), sandbox) =>
      match ofSandbox library kind sandbox with
      | .error failure => (.error failure, sandbox.events)
      | .ok plugin => (.ok plugin, sandbox.events ++ [evaluatedEvent kind plugin.id name])

/-- Call the entry function of a plugin, after its source has run. -/
def call (plugin : LoadedPlugin) (arguments : Run (List Value)) :
    Except Failure Value × Memory :=
  plugin.sandbox.call plugin.library plugin.entry arguments

end LoadedPlugin

end ServiceLevel
