import ServiceLevel.Entries
import ServiceLevel.Failure
import ServiceLevel.Text.Blank
import ServiceLevel.Text.Word

/-!
# Expression templates

A template is a text with actions between double braces.  It is split from the
left: an action opens at the leftmost pair of opening braces that has a later
pair of closing ones, and ends at the first such pair.  The only action is a
dot and a word, with optional white space around; it stands for the value of
that name.  Values are inserted as they are and never rendered again.
-/

namespace ServiceLevel

/-- A text split into literal pieces and the actions between them. -/
structure Template where
  /-- The literal piece in front of the first action. -/
  lead : List Char
  /-- The actions, each with the literal piece behind it. -/
  actions : List (List Char × List Char)
  deriving DecidableEq, Repr

namespace Template

/-- The text in front of the first pair of closing braces, and the text behind it. -/
def closing? : List Char → Option (List Char × List Char)
  | [] => none
  | c :: rest =>
    match c, rest with
    | '\x7d', '\x7d' :: behind => some ([], behind)
    | _, _ => (closing? rest).map fun (body, behind) => (c :: body, behind)

/-- The text in front of the first action, the action, and the text behind it. -/
def opening? : List Char → Option (List Char × List Char × List Char)
  | [] => none
  | c :: rest =>
    match c, rest with
    | '\x7b', '\x7b' :: inner => (closing? inner).map fun (body, behind) => ([], body, behind)
    | _, _ => (opening? rest).map fun (lead, body, behind) => (c :: lead, body, behind)

theorem length_closing? {text body behind : List Char}
    (found : closing? text = some (body, behind)) : behind.length < text.length := by
  induction text generalizing body behind with
  | nil => simp [closing?] at found
  | cons c rest ih =>
    unfold closing? at found
    split at found
    · cases found
      simp only [List.length_cons]
      omega
    · obtain ⟨⟨inner, after⟩, step, same⟩ := Option.map_eq_some_iff.mp found
      cases same
      exact Nat.lt_succ_of_lt (ih step)

theorem length_opening? {text lead body behind : List Char}
    (found : opening? text = some (lead, body, behind)) : behind.length < text.length := by
  induction text generalizing lead body behind with
  | nil => simp [opening?] at found
  | cons c rest ih =>
    unfold opening? at found
    split at found
    · obtain ⟨⟨inner, after⟩, step, same⟩ := Option.map_eq_some_iff.mp found
      cases same
      have := length_closing? step
      simp only [List.length_cons]
      omega
    · obtain ⟨⟨front, inner, after⟩, step, same⟩ := Option.map_eq_some_iff.mp found
      cases same
      exact Nat.lt_succ_of_lt (ih step)

/-- Split a text from the left into literal pieces and actions. -/
def split (text : List Char) : Template :=
  match _ : opening? text with
  | none => ⟨text, []⟩
  | some (lead, body, behind) =>
    let next := split behind
    ⟨lead, (body, next.lead) :: next.actions⟩
termination_by text.length
decreasing_by exact length_opening? ‹_›

/-- How often a character occurs twice in a row, counted without overlaps. -/
def countPairs (mark : Char) : List Char → Nat
  | first :: second :: rest =>
    if first = mark && second = mark then countPairs mark rest + 1
    else countPairs mark (second :: rest)
  | _ => 0

/-- Whether there are as many pairs of opening braces as of closing ones. -/
def balanced (text : List Char) : Bool :=
  countPairs '\x7b' text = countPairs '\x7d' text

/-- The name that an action stands for, if it is a dot and a word. -/
def variableName? (action : List Char) : Option String :=
  match Text.trim action with
  | '.' :: word =>
    if !word.isEmpty && word.all Text.isWordChar then some (String.ofList word) else none
  | _ => none

/-- Why a template cannot be rendered. -/
inductive Problem where
  | unbalanced
  | unsupported (action : String)
  | missing (name : String)
  deriving DecidableEq, Repr

/-- The message of a problem; `title` names the template. -/
def Problem.message (title : String) : Problem → String
  | .unbalanced => "could not parse " ++ title ++ " template: unbalanced action delimiters"
  | .unsupported action =>
    "could not render " ++ title ++ " template: unsupported action \x7b\x7b" ++ action ++
      "\x7d\x7d"
  | .missing name =>
    "could not render " ++ title ++ " template: missing key " ++ Text.quoted name

/-- The value of an action. -/
def value (data : Entries String) (action : List Char) : Except Problem String :=
  match variableName? action with
  | none => .error (.unsupported (String.ofList action))
  | some name =>
    match data.get? name with
    | none => .error (.missing name)
    | some value => .ok value

/-- The values of the actions, each followed by the literal piece behind it. -/
def fill (data : Entries String) :
    List (List Char × List Char) → Except Problem (List Char)
  | [] => .ok []
  | (action, literal) :: rest => do
    let value ← value data action
    let filled ← fill data rest
    return value.toList ++ literal ++ filled

/-- Render a text: its delimiters must be balanced and every action have a value. -/
def renderChars (data : Entries String) (text : List Char) : Except Problem (List Char) :=
  if balanced text then
    (fill data (split text).actions).map ((split text).lead ++ ·)
  else .error .unbalanced

/-- The failure of a problem. -/
def Problem.toFailure (title : String) (problem : Problem) : Failure :=
  .plain .template (problem.message title)

/-- Render a text with named values; `title` names the template in messages. -/
def render (title : String) (data : Entries String) (text : String) : Except Failure String :=
  match renderChars data text.toList with
  | .ok rendered => .ok (String.ofList rendered)
  | .error problem => .error (problem.toFailure title)

/-- The names that the actions of a text stand for, in order. -/
def variableNames (text : String) : List String :=
  (split text.toList).actions.filterMap fun action => variableName? action.1

end Template

end ServiceLevel
