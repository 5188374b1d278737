import ServiceLevel.Indicator.Availability
import ServiceLevel.Quantity.Text
import ServiceLevel.Source.Loaded

/-!
# Queries from indicator plugins

An indicator plugin is told about the definition, its labels and options, and
answers with the query of a raw indicator.
-/

namespace ServiceLevel

/-- A plugin that gives the query of an indicator. -/
inductive IndicatorPlugin where
  | availability
  | loaded (plugin : LoadedPlugin)

namespace IndicatorPlugin

/-- The identifier of a plugin. -/
def id : IndicatorPlugin → String
  | .availability => Availability.id
  | .loaded plugin => plugin.id

/-- Call the entry function of a plugin. -/
def call (plugin : IndicatorPlugin) (about labels options : Labels) :
    Except Failure Source.Value :=
  match plugin with
  | .availability => (Availability.query labels options).map Source.Value.text
  | .loaded plugin =>
    (plugin.call
      (Source.valuesOf [.object about.pairs, .object labels.pairs, .object options.pairs])).1

/-- A plugin that gave no query. -/
def failed (id message : String) (causes : List Failure.Report) : Failure :=
  ⟨Failure.processingReport (.text id) message, causes⟩

/-- The event of a plugin that gave a query. -/
def executedEvent (id service slo : String) : LogEvent :=
  ⟨.debug, LogEvent.indicatorLogger, "sli_plugin_executed",
    [("plugin_id", .text id), ("service", .text service), ("slo", .text slo)]⟩

/-- The query that a plugin gives for a definition, and the event that tells so. -/
def query (plugin : IndicatorPlugin) (service slo : String) (objective : Quantity)
    (labels options : Labels) : Except Failure (String × LogEvent) := do
  let about := Labels.ofTexts
    [(Source.Surface.serviceEntry, service), (Source.Surface.sloEntry, slo),
      (Source.Surface.objectiveEntry, ← objective.sixPlaces)]
  match plugin.call about labels options with
  | .error cause =>
    .error (failed plugin.id ("plugin execution error: " ++ cause.message)
      (cause.report :: cause.causes))
  | .ok (.data (.text content)) =>
    if content.isEmpty then .error (failed plugin.id "plugin didn't return a query" [])
    else return (content, executedEvent plugin.id service slo)
  | .ok _ => .error (failed plugin.id "plugin didn't return a query" [])

end IndicatorPlugin

end ServiceLevel
