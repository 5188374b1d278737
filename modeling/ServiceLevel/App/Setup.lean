import ServiceLevel.App.Config
import ServiceLevel.App.Settings
import ServiceLevel.Generation
import ServiceLevel.Log.Threshold
import ServiceLevel.Repository.Basic

/-!
# Setting up an application

From settings and a config come the directories with plugins, the repository of
their plugins, and the generator.  What is not given is made anew.
-/

namespace ServiceLevel.App

/-- The config that settings point to. -/
def loadConfig (place : Workplace) (settings : Settings) :
    Except Failure AppConfig × List LogEvent :=
  AppConfig.load place (AppConfig.givenPath settings.configPath)

/-- The config that is given, or else the one that settings point to. -/
def configOr (place : Workplace) (settings : Settings) :
    Option AppConfig → Except Failure AppConfig × List LogEvent
  | some config => (.ok config, [])
  | none => loadConfig place settings

/-- The directories with plugins, where `shipped` has those shipped with the library. -/
def pluginPaths (shipped : FilePath) (settings : Settings) (config : AppConfig) :
    List FilePath :=
  (if settings.withShipped then [shipped] else []) ++
    settings.pluginPaths.map FilePath.ofText ++ config.pluginPaths

/-- The repository of the plugins of an application. -/
def makeRepository (place : Workplace) (shipped : FilePath) (settings : Settings)
    (config : Option AppConfig) : Except Failure Repository × List LogEvent :=
  match configOr place settings config with
  | (.error failure, events) => (.error failure, events)
  | (.ok config, events) =>
    let (result, later) :=
      Repository.make place (pluginPaths shipped settings config) settings.strict
    (result, events ++ later)

/-- The threshold of the log that settings ask for. -/
def threshold (settings : Settings) : Except Failure Int :=
  LogThreshold.ofName (String.ofList (settings.logLevel.toList.map Char.toUpper))

/-- The event of a generator that is ready. -/
def configuredEvent (settings : Settings) (config : AppConfig) : LogEvent :=
  ⟨.debug, LogEvent.appLogger, "generator_configured",
    [("app_plugins", .array (config.entries.map ChainEntry.id)),
      ("sli_rules_optimized", .bool settings.optimized)]⟩

/-- The repository that is given, or else a new one. -/
def repositoryOr (place : Workplace) (shipped : FilePath) (settings : Settings)
    (config : AppConfig) : Option Repository → Except Failure Repository × List LogEvent
  | some repository => (.ok repository, [])
  | none => makeRepository place shipped settings (some config)

/-- A generator whose plugins beyond the built-in ones are those of a repository. -/
def generatorOf (accepts : String → Bool) (settings : Settings) (config : AppConfig)
    (repository : Repository) : Except Failure Generator :=
  Generator.make settings.optimized config.entries
    (some fun id => repository.snapshot.processors.get? id) accepts

/-- The generator of an application. -/
def makeGenerator (place : Workplace) (shipped : FilePath) (settings : Settings)
    (config : Option AppConfig) (repository : Option Repository)
    (accepts : String → Bool := Promql.accepts) :
    Except Failure Generator × List LogEvent :=
  match configOr place settings config with
  | (.error failure, events) => (.error failure, events)
  | (.ok config, events) =>
    match repositoryOr place shipped settings config repository with
    | (.error failure, later) => (.error failure, events ++ later)
    | (.ok repository, later) =>
      (generatorOf accepts settings config repository,
        events ++ later ++ [configuredEvent settings config])

end ServiceLevel.App
