import ServiceLevel.Duration.Basic
import ServiceLevel.Quantity.Basic

/-!
# Burn rate alerts

An objective is alerted by four conditions, each over a short and a long window:
a quick and a slow one for each of two severities.  The windows of the four are
what error ratios have to be recorded for.
-/

namespace ServiceLevel

/-- How urgent an alert is. -/
inductive Severity where
  | page
  | ticket
  deriving DecidableEq, Repr

/-- The name of a severity. -/
def Severity.name : Severity → String
  | .page => "page"
  | .ticket => "ticket"

/-- One condition: the budget burns too fast in a short and in a long window. -/
structure BurnAlert where
  id : String
  shortWindow : Duration
  longWindow : Duration
  /-- How many times faster than allowed the budget may burn. -/
  factor : Quantity
  /-- The error budget in percent. -/
  budget : Quantity
  severity : Severity
  deriving DecidableEq, Repr

/-- The four conditions of an objective. -/
structure BurnAlerts where
  pageQuick : BurnAlert
  pageSlow : BurnAlert
  ticketQuick : BurnAlert
  ticketSlow : BurnAlert
  deriving DecidableEq, Repr

namespace BurnAlerts

/-- The conditions in their order. -/
def toList (alerts : BurnAlerts) : List BurnAlert :=
  [alerts.pageQuick, alerts.pageSlow, alerts.ticketQuick, alerts.ticketSlow]

/-- Insert a duration into an ascending list, unless it is there. -/
def insertWindow (window : Duration) : List Duration → List Duration
  | [] => [window]
  | first :: rest =>
    if window < first then window :: first :: rest
    else if window = first then first :: rest
    else first :: insertWindow window rest

/-- The different windows of the conditions, in ascending order. -/
def windows (alerts : BurnAlerts) : List Duration :=
  (alerts.toList.flatMap fun alert => [alert.shortWindow, alert.longWindow]).foldr
    insertWindow []

theorem mem_insertWindow {window other : Duration} {windows : List Duration} :
    other ∈ insertWindow window windows ↔ other = window ∨ other ∈ windows := by
  induction windows with
  | nil => simp [insertWindow]
  | cons first rest ih =>
    unfold insertWindow
    split
    · simp
    · split
      · rename_i _ same
        subst same
        simp
      · simp only [List.mem_cons, ih]
        exact or_left_comm

end BurnAlerts

end ServiceLevel
