import ServiceLevel.Log.Event
import ServiceLevel.Entries
import ServiceLevel.Failure

/-!
# The threshold of the log

Only events of a level that is high enough are written.  The threshold is given
as the name of a level or as a number, and zero leaves it to the surroundings,
which write warnings and what is above them.
-/

namespace ServiceLevel

/-- The place of a level among the numbers. -/
def LogLevel.rank : LogLevel → Int
  | .debug => 10
  | .info => 20
  | .warning => 30
  | .error => 40
  | .critical => 50

/-- The level with which a kind of call writes an event. -/
def LogLevel.ofCall? : String → Option LogLevel
  | "debug" => some .debug
  | "info" => some .info
  | "warning" | "warn" => some .warning
  | "error" | "exception" => some .error
  | "critical" | "fatal" => some .critical
  | _ => none

namespace LogThreshold

/-- The names of thresholds. -/
def named : List (String × Int) :=
  [("CRITICAL", 50), ("FATAL", 50), ("ERROR", 40), ("WARN", 30), ("WARNING", 30), ("INFO", 20),
    ("DEBUG", 10), ("NOTSET", 0)]

/-- The threshold with a name. -/
def ofName (name : String) : Except Failure Int :=
  match named.lookup name with
  | some rank => .ok rank
  | none => .error (.fault .value ("Unknown level: " ++ Text.quoted name))

/-- The threshold that a value gives. -/
def ofJson : Json → Except Failure Int
  | .text name => ofName name
  | .number (.whole rank) => .ok rank
  | .bool value => .ok (if value then 1 else 0)
  | other =>
    .error (.fault .type ("Level not an integer or a valid string: " ++ other.shown))

/-- The last of several thresholds, all of which have to be thresholds. -/
def ofList : List Json → Except Failure Int
  | [] => .ok 0
  | [level] => ofJson level
  | level :: rest => do
    let _ ← ofJson level
    ofList rest

/-- The rank from which on events are written. -/
def effective (threshold : Int) : Int :=
  if threshold = 0 then LogLevel.warning.rank else threshold

end LogThreshold

namespace LogEvent

/-- The logger above all loggers of the library. -/
def topLogger : String := "slogen"

/-- Whether the logger of an event is one of the library. -/
def isOwn (event : LogEvent) : Bool :=
  event.logger = topLogger || (topLogger ++ ".").toList.isPrefixOf event.logger.toList

/-- Whether an event is written under a threshold. -/
def isWritten (threshold : Int) (event : LogEvent) : Bool :=
  event.isOwn && decide (LogThreshold.effective threshold ≤ event.level.rank)

/-- The lines of the log for events under a threshold. -/
def lines (threshold : Int) (events : List LogEvent) : List Json :=
  (events.filter (isWritten threshold)).map toLine

end LogEvent

end ServiceLevel
