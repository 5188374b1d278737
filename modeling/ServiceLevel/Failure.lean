import ServiceLevel.Json.Display
import ServiceLevel.Json.Reader

/-!
# Failures

A failure is a report together with the reports of what caused it, outermost
first.  A report has a kind, a message and details.  The kinds are those of the
library, which have an exit code, and the faults of the values and plugin
functions it works on, which have none.
-/

namespace ServiceLevel

/-- A fault of a value or of plugin code. -/
inductive Fault where
  | general
  | value
  | type
  | key
  | index
  | lookup
  | attribute
  | unknownName
  | importing
  | overflow
  | zeroDivision
  | arithmetic
  | assertion
  | runtime
  | notImplemented
  | stopIteration
  /-- Calls that are nested too deeply. -/
  | recursion
  /-- Bytes that are no text. -/
  | undecodable
  /-- A text that is no document. -/
  | document
  /-- Fields of a config or of the settings that have a wrong type. -/
  | fields
  /-- An environment variable that is no document. -/
  | environment
  deriving DecidableEq, Repr

/-- The name of a fault, as plugin code and messages give it. -/
def Fault.name : Fault → String
  | .general => "Exception"
  | .value => "ValueError"
  | .type => "TypeError"
  | .key => "KeyError"
  | .index => "IndexError"
  | .lookup => "LookupError"
  | .attribute => "AttributeError"
  | .unknownName => "NameError"
  | .importing => "ImportError"
  | .overflow => "OverflowError"
  | .zeroDivision => "ZeroDivisionError"
  | .arithmetic => "ArithmeticError"
  | .assertion => "AssertionError"
  | .runtime => "RuntimeError"
  | .notImplemented => "NotImplementedError"
  | .stopIteration => "StopIteration"
  | .recursion => "RecursionError"
  | .undecodable => "UnicodeDecodeError"
  | .document => "JSONDecodeError"
  | .fields => "ValidationError"
  | .environment => "SettingsError"

namespace Failure

/-- What a report is about. -/
inductive Kind where
  | fault (fault : Fault)
  | general
  | configuration
  | validation
  | template
  | plugin
  | pluginLoad
  | pluginCollision
  | pluginNotFound
  | processing
  | generation
  deriving DecidableEq, Repr

/-- The name of a kind, as messages give it. -/
def Kind.name : Kind → String
  | .fault raised => raised.name
  | .general => "SlogenError"
  | .configuration => "ConfigurationError"
  | .validation => "ValidationError"
  | .template => "TemplateError"
  | .plugin => "PluginError"
  | .pluginLoad => "PluginLoadError"
  | .pluginCollision => "PluginCollisionError"
  | .pluginNotFound => "PluginNotFoundError"
  | .processing => "ProcessingError"
  | .generation => "SLOGenerationError"

/-- The exit code of the kinds of the library. -/
def Kind.exitCode? : Kind → Option Nat
  | .fault _ => none
  | .general => some 127
  | .configuration => some 10
  | .validation => some 12
  | .template | .processing | .generation => some 21
  | .plugin | .pluginLoad | .pluginCollision | .pluginNotFound => some 20

/-- Whether a kind is one of the library. -/
def Kind.isOwn (kind : Kind) : Bool :=
  kind.exitCode?.isSome

/-- One report. -/
structure Report where
  kind : Kind
  message : String
  details : List (String × Json) := []
  deriving DecidableEq, Repr

end Failure

/-- A report with the reports of its causes, outermost first. -/
structure Failure where
  report : Failure.Report
  causes : List Failure.Report := []
  deriving DecidableEq, Repr

namespace Failure

/-- The kind of a failure. -/
def kind (failure : Failure) : Kind := failure.report.kind

/-- The message of a failure. -/
def message (failure : Failure) : String := failure.report.message

/-- The failure that caused this one. -/
def cause? (failure : Failure) : Option Failure :=
  match failure.causes with
  | [] => none
  | report :: causes => some ⟨report, causes⟩

/-- A failure without a cause. -/
def plain (kind : Kind) (message : String) (details : List (String × Json) := []) : Failure :=
  ⟨⟨kind, message, details⟩, []⟩

/-- A failure caused by another one. -/
def because (kind : Kind) (message : String) (cause : Failure)
    (details : List (String × Json) := []) : Failure :=
  ⟨⟨kind, message, details⟩, cause.report :: cause.causes⟩

/-- A fault of a value or of plugin code. -/
def fault (fault : Fault) (message : String) : Failure :=
  plain (.fault fault) message

/-- A failed validation. -/
def validation (message : String) : Failure :=
  plain .validation message

/-- A failed configuration. -/
def configuration (message : String) (details : List (String × Json) := []) : Failure :=
  plain .configuration message details

/-- A plugin that cannot be loaded. -/
def pluginLoad (message : String) (details : List (String × Json) := []) : Failure :=
  plain .pluginLoad message details

/-- The message about an integer with more digits than are read. -/
def digitLimitMessage (count : Nat) : String :=
  "Exceeds the limit (4300 digits) for integer string conversion: value has " ++
    Quantity.integerText count ++ " digits; use sys.set_int_max_str_digits() to increase the limit"

/-- The message about an integer with more digits than are written. -/
def unwrittenDigitsMessage : String :=
  "Exceeds the limit (4300 digits) for integer string conversion; " ++
    "use sys.set_int_max_str_digits() to increase the limit"

/-- Two plugins of one kind with the same identifier. -/
def collision (pluginId pluginKind : Json) : Failure :=
  plain .pluginCollision
    (pluginKind.display ++ " plugin " ++ pluginId.shown ++ " already loaded")
    [("plugin_id", pluginId), ("kind", pluginKind)]

/-- An identifier that no plugin has. -/
def notFound (pluginId : Json) : Failure :=
  plain .pluginNotFound ("plugin " ++ pluginId.shown ++ " not found")
    [("plugin_id", pluginId)]

/-- The report of a processor that failed with a message. -/
def processingReport (processorId : Json) (message : String) : Report :=
  ⟨.processing, "slo processor " ++ processorId.shown ++ " failed: " ++ message,
    [("processor_id", processorId)]⟩

/-- A processor that failed. -/
def processing (processorId : String) (cause : Failure) : Failure :=
  ⟨processingReport processorId cause.message, cause.report :: cause.causes⟩

/-- The report of a definition whose rules cannot be generated. -/
def generationReport (sloId : Json) (message : String) : Report :=
  ⟨.generation, "could not generate " ++ sloId.shown ++ " slo: " ++ message,
    [("slo_id", sloId)]⟩

/-- A definition whose rules cannot be generated. -/
def generation (sloId : String) (cause : Failure) : Failure :=
  ⟨generationReport sloId cause.message, cause.report :: cause.causes⟩

/-- The failure of reading a document. -/
def ofReadError : Json.ReadError → Failure
  | .malformed => fault .document "<invalid JSON>"
  | .tooManyDigits count => fault .value (digitLimitMessage count)

/-- The kinds of the library's own failures among the causes, outermost first. -/
def ownCauses (failure : Failure) : List Kind :=
  (failure.causes.map Report.kind).filter Kind.isOwn

@[simp]
theorem cause?_processing (processorId : String) (cause : Failure) :
    (processing processorId cause).cause? = some cause := rfl

@[simp]
theorem cause?_generation (sloId : String) (cause : Failure) :
    (generation sloId cause).cause? = some cause := rfl

@[simp]
theorem cause?_because (kind : Kind) (message : String) (cause : Failure)
    (details : List (String × Json)) :
    (because kind message cause details).cause? = some cause := rfl

@[simp]
theorem cause?_plain (kind : Kind) (message : String) (details : List (String × Json)) :
    (plain kind message details).cause? = none := rfl

end Failure

end ServiceLevel
