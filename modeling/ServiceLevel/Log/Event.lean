import ServiceLevel.Json.Basic

/-!
# Log events

An event has a level, a logger, a name and fields.  The fields that were bound
to the logger come before those of the event.
-/

namespace ServiceLevel

/-- The severity of an event. -/
inductive LogLevel where
  | debug
  | info
  | warning
  | error
  | critical
  deriving DecidableEq, Repr

/-- The name of a level. -/
def LogLevel.name : LogLevel → String
  | .debug => "debug"
  | .info => "info"
  | .warning => "warning"
  | .error => "error"
  | .critical => "critical"

/-- An event of the log. -/
structure LogEvent where
  level : LogLevel
  logger : String
  event : String
  fields : List (String × Json) := []
  deriving DecidableEq, Repr

namespace LogEvent

/-- The loggers of the library. -/
def appLogger : String := "slogen.app"
def configLogger : String := "slogen.config.loader"
def loaderLogger : String := "slogen.plugins.loader"
def repositoryLogger : String := "slogen.plugins.repository"
def sandboxLogger : String := "slogen.plugins.sandbox"
def pluginLogger : String := "slogen.plugins"
def pipelineLogger : String := "slogen.slos.pipeline"
def indicatorLogger : String := "slogen.slos.sli_plugins"

/-- The document of an event, without its logger. -/
def toJson (event : LogEvent) : Json :=
  .object
    ([("event", .text event.event), ("log_level", .text event.level.name)] ++ event.fields)

/-- The document of an event with its level and logger, as a line of the log.  A field with
one of their names gives way. -/
def toLine (event : LogEvent) : Json :=
  let own : List (String × Json) :=
    [("event", .text event.event), ("level", .text event.level.name),
      ("logger", .text event.logger)]
  .object (own ++ event.fields.filter fun field => !(own.map Prod.fst).contains field.1)

end LogEvent

end ServiceLevel
