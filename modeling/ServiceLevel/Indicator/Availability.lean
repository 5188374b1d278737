import ServiceLevel.Labels
import ServiceLevel.Failure

/-!
# The availability of requests

The query of the shipped indicator plugin: the ratio of HTTP requests that were
answered with a server error or turned away.  The job has to be given; further
matchers can be.
-/

namespace ServiceLevel.Availability

/-- The identifier of the plugin. -/
def id : String := "getting_started_availability"

/-- The failure of options or labels that the plugin refuses. -/
def refused (message : String) : Failure :=
  .fault .value message

/-- The labels that a definition needs. -/
def requiredLabels : List String := ["owner", "tier"]

/-- Check that every required label is given and not empty. -/
def checkLabels (labels : Labels) : List String → Except Failure Unit
  | [] => .ok ()
  | name :: rest =>
    if ((labels.get? name).any Json.isGiven) then checkLabels labels rest
    else .error (refused (Text.quoted name ++ " label is required"))

/-- A text without certain characters at its ends. -/
def strip (marks : List Char) (text : List Char) : List Char :=
  ((text.dropWhile marks.contains).reverse.dropWhile marks.contains).reverse

/-- Whether a character may stand in a value of a filter. -/
def isValueChar (c : Char) : Bool :=
  !(c = '=' || c = ',' || c = '"')

/-- Whether a text begins with an equals sign, a quoted value that is not empty and a comma. -/
def beginsWithValue : List Char → Bool
  | '=' :: '"' :: text =>
    !(text.takeWhile isValueChar).isEmpty &&
      ['"', ','].isPrefixOf (text.dropWhile isValueChar)
  | _ => false

/-- Whether a text holds a matcher: a name, an equals sign, a quoted value and a comma. -/
def holdsMatcher : List Char → Bool
  | [] => false
  | c :: text => (c ≠ '=' && beginsWithValue text) || holdsMatcher text

/-- The matchers of a filter, each with a comma behind it; an empty filter has none. -/
def matchers (filter : String) : Except Failure String :=
  if filter.isEmpty then .ok ""
  else
    let text := strip [','] (strip ['{', '}'] filter.toList) ++ [',']
    if holdsMatcher text then .ok (String.ofList text)
    else .error (refused ("invalid prometheus filter: " ++ String.ofList text))

/--
The matchers of the value of a filter.  A value that counts as nothing stands in the query as
it is shown, and any other that is no text cannot be stripped.
-/
def matchersOf (filter : Json) : Except Failure String :=
  if !filter.isGiven then .ok filter.display
  else
    match filter with
    | .text content => matchers content
    | other =>
      .error (.fault .attribute ("'" ++ other.typeName ++ "' object has no attribute 'strip'"))

/-- The rate of the requests that further matchers select. -/
def requestRate (matchers job further : String) : String :=
  "sum(rate(http_request_duration_seconds_count\x7b " ++ matchers ++ "job=\"" ++ job ++ "\"" ++
    further ++ " \x7d[\x7b\x7b.window\x7d\x7d]))"

/-- The query of a job with further matchers. -/
def queryText (matchers job : String) : String :=
  "\n" ++ requestRate matchers job ",code=~\"(5..|429)\"" ++ "\n/\n" ++
    requestRate matchers job ""

/-- The query for the labels and options of a definition. -/
def query (labels options : Labels) : Except Failure String := do
  let some job := (options.get? "job").filter fun job => job ≠ .null
    | .error (refused "job options is required")
  checkLabels labels requiredLabels
  let matchers ← matchersOf ((options.get? "filter").getD (.text ""))
  return queryText matchers job.display

end ServiceLevel.Availability
