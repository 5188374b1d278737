import ServiceLevel.Failure

/-!
# Durations

A duration is a whole number of microseconds, negative ones included.  Its
Prometheus text counts whole milliseconds in units from years to milliseconds,
years and weeks only when they divide the duration, so that thirty days stay
`30d`.
-/

namespace ServiceLevel

/-- A span of time in microseconds. -/
structure Duration where
  microseconds : Int
  deriving DecidableEq, Repr, Inhabited

namespace Duration

instance : LT Duration := ⟨fun left right => left.microseconds < right.microseconds⟩

instance : LE Duration := ⟨fun left right => left.microseconds ≤ right.microseconds⟩

instance (left right : Duration) : Decidable (left < right) :=
  inferInstanceAs (Decidable (left.microseconds < right.microseconds))

instance (left right : Duration) : Decidable (left ≤ right) :=
  inferInstanceAs (Decidable (left.microseconds ≤ right.microseconds))

/-- The duration without length. -/
def zero : Duration := ⟨0⟩

/-- A duration of whole milliseconds. -/
def ofMilliseconds (count : Nat) : Duration :=
  ⟨(count : Int) * 1000⟩

/-- The microseconds of a day. -/
def dayLength : Int := 86400000000

/-- The days of a duration, rounded down, must stay below a thousand million. -/
def inRange (duration : Duration) : Bool :=
  let days := duration.microseconds.fdiv dayLength
  days.natAbs < 1000000000

/-- The failure of a duration out of range. -/
def outOfRange : Failure := .fault .overflow "<duration overflow>"

/-- A number of microseconds as a duration, if it is in range. -/
def ofMicroseconds (count : Int) : Except Failure Duration :=
  if inRange ⟨count⟩ then .ok ⟨count⟩ else .error outOfRange

/--
The whole milliseconds of a duration: the quotient is rounded to a binary
floating point number before its fraction is dropped.
-/
def milliseconds (duration : Duration) : Int :=
  let quotient :=
    Binary64.ofRatio (duration.microseconds < 0) duration.microseconds.natAbs 1000
  quotient.truncate?.getD 0

/-- The length of a duration in days, as a floating point number of seconds divided once more. -/
def days (duration : Duration) : Binary64 :=
  (Binary64.ofRatio (duration.microseconds < 0) duration.microseconds.natAbs 1000000).divNat 86400

/-- Whether a duration has no length. -/
def isZero (duration : Duration) : Bool :=
  duration.microseconds = 0

/-- A unit of the Prometheus notation. -/
structure DurationUnit where
  symbol : String
  milliseconds : Nat
  /-- Whether the unit is only used for durations it divides. -/
  exact : Bool
  deriving DecidableEq, Repr

/-- The units, longest first. -/
def units : List DurationUnit :=
  [⟨"y", 31536000000, true⟩, ⟨"w", 604800000, true⟩, ⟨"d", 86400000, false⟩,
   ⟨"h", 3600000, false⟩, ⟨"m", 60000, false⟩, ⟨"s", 1000, false⟩, ⟨"ms", 1, false⟩]

/-- The counts of the given units that add up to a number of milliseconds. -/
def parts : List DurationUnit → Nat → List (Nat × DurationUnit)
  | [], _ => []
  | unit :: rest, total =>
    if unit.exact && total % unit.milliseconds ≠ 0 then parts rest total
    else if total / unit.milliseconds = 0 then parts rest total
    else (total / unit.milliseconds, unit) :: parts rest (total % unit.milliseconds)

/-- A count with its unit. -/
def partText (part : Nat × DurationUnit) : String :=
  Quantity.integerText part.1 ++ part.2.symbol

/-- The text of a number of milliseconds. -/
def millisecondsText (total : Nat) : String :=
  if total = 0 then "0s" else String.join ((parts units total).map partText)

/-- The days, hours, minutes and seconds of a duration in messages. -/
def clockText (duration : Duration) : String :=
  let days := duration.microseconds.fdiv dayLength
  let rest := (duration.microseconds.fmod dayLength).toNat
  let seconds := rest / 1000000
  let fraction := rest % 1000000
  let twoDigits (value : Nat) : String :=
    String.ofList (List.replicate (2 - (Nat.toDigits 10 value).length) '0' ++
      Nat.toDigits 10 value)
  let sixDigits (value : Nat) : String :=
    String.ofList (List.replicate (6 - (Nat.toDigits 10 value).length) '0' ++
      Nat.toDigits 10 value)
  let dayText :=
    if days = 0 then ""
    else Quantity.integerText days ++ (if days.natAbs = 1 then " day, " else " days, ")
  dayText ++ Quantity.integerText (seconds / 3600 : Nat) ++ ":" ++
    twoDigits (seconds / 60 % 60) ++ ":" ++ twoDigits (seconds % 60) ++
    (if fraction = 0 then "" else "." ++ sixDigits fraction)

/-- The Prometheus text of a duration; a negative one has none. -/
def prometheus (duration : Duration) : Except Failure String :=
  let total := duration.milliseconds
  if total < 0 then
    .error (.fault .value
      ("negative duration " ++ duration.clockText ++ " can't be a Prometheus duration"))
  else .ok (millisecondsText total.toNat)

@[simp]
theorem milliseconds_zero : zero.milliseconds = 0 := rfl

end Duration

end ServiceLevel
