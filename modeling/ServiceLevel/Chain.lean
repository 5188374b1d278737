import ServiceLevel.Slo.Basic
import ServiceLevel.Text.Blank
import ServiceLevel.Text.Digit

/-!
# Plugin chains

Plugins are named on three levels: for the application, for a group of
objectives and for one objective.  The three are merged and sorted by priority,
equal ones keeping their order; an overriding chain of an objective runs alone.
Entries with a negative priority run before the built-in processors, the others
after them.
-/

namespace ServiceLevel

namespace ChainEntry

/-- Digits with single underscores between them, without the underscores. -/
def plainDigits : List Char → Option (List Char)
  | [] => none
  | [c] => if Text.isDigit c then some [c] else none
  | c :: '_' :: rest =>
    if Text.isDigit c then (plainDigits rest).map (c :: ·) else none
  | c :: rest => if Text.isDigit c then (plainDigits rest).map (c :: ·) else none

/-- Whether a character may stand around an integer: a blank that is none of the four ASCII
separators. -/
def isMargin (c : Char) : Bool :=
  Text.isBlank c && !(28 ≤ c.toNat && c.toNat ≤ 31)

/-- The text between the margins. -/
def withoutMargins (text : List Char) : List Char :=
  ((text.dropWhile isMargin).reverse.dropWhile isMargin).reverse

/--
A text as an integer: blanks around, a sign, digits with single underscores.  A
message shows at most two hundred characters of another text.
-/
def integerOfText (text : String) : Except Failure Int :=
  let unreadable : Failure :=
    .fault .value
      ("invalid literal for int() with base 10: " ++
        String.ofList ((Text.quoted text).toList.take 200))
  let chars := withoutMargins text.toList
  let (negative, digits) :=
    match chars with
    | '-' :: rest => (true, rest)
    | '+' :: rest => (false, rest)
    | _ => (false, chars)
  match plainDigits digits with
  | none => .error unreadable
  | some digits =>
    if Text.digitLimit < digits.length then
      .error (.fault .value (Failure.digitLimitMessage digits.length))
    else
      let size := (Text.digitsValue 0 digits : Int)
      .ok (if negative then -size else size)

/-- A value as an integer; a fraction is dropped. -/
def integerOf : Json → Except Failure Int
  | .bool value => .ok (if value then 1 else 0)
  | .number (.whole value) => .ok value
  | .number (.float .nan) => .error (.fault .value "cannot convert float NaN to integer")
  | .number (.float (.infinity _)) =>
    .error (.fault .overflow "cannot convert float infinity to integer")
  | .number (.float value) => .ok (value.truncate?.getD 0)
  | .text value => integerOfText value
  | other =>
    .error (.fault .type
      ("int() argument must be a string, a bytes-like object or a real number, not '" ++
        other.typeName ++ "'"))

/-- A field of an object, or what stands for it when it is missing. -/
def fieldOr (data : Json) (name : String) (fallback : Json) : Json :=
  (data.field? name).getD fallback

/-- The failure of a value that should be an object. -/
def notObject (data : Json) : Failure :=
  .fault .attribute ("'" ++ data.typeName ++ "' object has no attribute 'get'")

/-- The entry that a document describes. -/
def ofJson (data : Json) : Except Failure ChainEntry :=
  match data with
  | .object _ => do
    let priority ← integerOf (fieldOr data "priority" (.ofInt 0))
    return ⟨fieldOr data "id" (.text ""), .ofJson (fieldOr data "config" .null), priority⟩
  | _ => .error (notObject data)

end ChainEntry

namespace Chain

/-- The entries of a list of documents, or the first failure. -/
def entriesOf : List Json → Except Failure (List ChainEntry)
  | [] => .ok []
  | data :: rest => do
    let entry ← ChainEntry.ofJson data
    let entries ← entriesOf rest
    return entry :: entries

/-- What a value holds when it is walked through item by item. -/
def itemsOf : Json → Except Failure (List Json)
  | .array items => .ok items
  | .object fields => .ok (fields.map fun field => .text field.1)
  | .text value => .ok (value.toList.map fun c => .text (String.ofList [c]))
  | other => .error (.fault .type ("'" ++ other.typeName ++ "' object is not iterable"))

/-- The chain that a document describes; nothing given is an empty chain. -/
def ofJson (data : Json) : Except Failure Chain :=
  let data := if data.isGiven then data else .object []
  match data with
  | .object _ => do
    let items ← itemsOf (ChainEntry.fieldOr data "chain" (.array []))
    let entries ← entriesOf items
    let overrides :=
      ChainEntry.fieldOr data "overridePrevious" (ChainEntry.fieldOr data "override" (.bool false))
    return ⟨entries, overrides.isGiven⟩
  | _ => .error (ChainEntry.notObject data)

/-- The failure of copying a chain: that of the first config in it that cannot be copied. -/
def copyFailure? (chain : Chain) : Option Failure :=
  chain.entries.findSome? fun entry => entry.config.copyFailure?

/-- Entries in ascending order of priority, equal ones in their order. -/
def sortEntries (entries : List ChainEntry) : List ChainEntry :=
  entries.mergeSort fun left right => decide (left.priority ≤ right.priority)

/-- The ordered entries of the three levels; an overriding chain runs alone. -/
def merge (group own : Chain) (app : List ChainEntry) : List ChainEntry :=
  sortEntries (if own.overrides then own.entries else app ++ group.entries ++ own.entries)

/-- The entries that run before the built-in processors. -/
def before (entries : List ChainEntry) : List ChainEntry :=
  entries.filter fun entry => entry.priority < 0

/-- The entries that run after the built-in processors. -/
def after (entries : List ChainEntry) : List ChainEntry :=
  entries.filter fun entry => 0 ≤ entry.priority

end Chain

end ServiceLevel
