import ServiceLevel.Duration.Basic
import ServiceLevel.Labels
import ServiceLevel.Setting

/-!
# Service level objectives

The definition of an objective: what is measured, over which period, which share
of good events is aimed at, and what is alerted and processed.  The indicator is
either a query of the error ratio or a pair of queries of bad and of all events.
-/

namespace ServiceLevel

/-- The queries of bad events and of all events. -/
structure EventQueries where
  error : String
  total : String
  deriving DecidableEq, Repr

/-- A service level indicator; exactly one of its forms should be given. -/
structure Indicator where
  /-- A query of the error ratio. -/
  raw : Option String
  events : Option EventQueries
  deriving DecidableEq, Repr

/-- The form of an indicator. -/
inductive IndicatorKind where
  | raw
  | events
  deriving DecidableEq, Repr

/-- The form of an indicator, if exactly one is given. -/
def Indicator.kind? (indicator : Indicator) : Option IndicatorKind :=
  match indicator.raw, indicator.events with
  | some _, none => some .raw
  | none, some _ => some .events
  | _, _ => none

/-- The settings of one class of alerts. -/
structure AlertSettings where
  disabled : Bool := false
  name : String := ""
  labels : Labels := .empty
  annotations : Labels := .empty
  deriving DecidableEq, Repr

/-- A plugin in a chain, with its config and its place. -/
structure ChainEntry where
  id : Json
  config : Setting := .null
  priority : Int := 0
  deriving DecidableEq, Repr

/-- A sequence of plugins; an overriding one runs alone. -/
structure Chain where
  entries : List ChainEntry := []
  overrides : Bool := false
  deriving DecidableEq, Repr

/-- The definition of a service level objective. -/
structure Slo where
  id : String
  name : String
  service : String
  indicator : Indicator
  /-- The period over which the objective holds. -/
  period : Duration
  /-- The aimed share of good events in percent. -/
  objective : Quantity
  description : String := ""
  labels : Labels := .empty
  pageAlert : AlertSettings := {}
  ticketAlert : AlertSettings := {}
  chain : Chain := {}
  deriving DecidableEq, Repr

/-- Where the rules are generated, which the info metric records. -/
structure Origin where
  version : String := ""
  mode : String := "test"
  spec : String := ""
  deriving DecidableEq, Repr

end ServiceLevel
