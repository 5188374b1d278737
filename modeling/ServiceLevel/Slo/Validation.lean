import ServiceLevel.Naming
import ServiceLevel.Promql.Parser
import ServiceLevel.Query.Structure
import ServiceLevel.Template

/-!
# Validation of objectives

An objective is checked before any rule is generated.  The rules about names,
the period and the objective are fixed; those about labels, annotations and
queries belong to a dialect.  The Prometheus dialect asks its query language
whether it accepts a query; the MetricsQL dialect, which extends it, checks only
the structure of queries and accepts any text as a name.
-/

namespace ServiceLevel

/-- A text, or a sequence of code points that is no text. -/
inductive Spelling where
  | text (value : String)
  | illFormed (codes : List Nat)
  deriving DecidableEq, Repr

namespace Spelling

/-- A spelling between quotation marks. -/
def quoted : Spelling → String
  | .text value => Text.quoted value
  | .illFormed codes => Text.quotedCodes codes

/-- Whether a spelling is empty. -/
def isEmpty : Spelling → Bool
  | .text value => value.isEmpty
  | .illFormed codes => codes.isEmpty

end Spelling

/-- The backend whose rules a definition has to follow. -/
inductive Dialect where
  /-- Prometheus, with the queries its language accepts. -/
  | promql (accepts : String → Bool)
  /-- VictoriaMetrics. -/
  | metricsql

namespace Dialect

/-- Prometheus with its query language. -/
def prometheus : Dialect := .promql Promql.accepts

/-- Whether a text is a name of a label, one final line break aside. -/
def isLabelName (name : String) : Bool :=
  match Duration.dropLineEnd name.toList with
  | [] => false
  | first :: rest =>
    (first.isAlpha || first = '_') && rest.all fun c => c.isAlphanum || c = '_'

/-- Whether a spelling is a name of a label. -/
def isLabelSpelling : Spelling → Bool
  | .text name => isLabelName name
  | .illFormed _ => false

/-- Whether a spelling is a text that is not empty. -/
def isSomeText : Spelling → Bool
  | .text name => !name.isEmpty
  | .illFormed _ => false

/-- Check the name of a label. -/
def checkLabelKey (dialect : Dialect) (key : Spelling) : Except Failure Unit :=
  if key = .text Promql.nameLabel then
    .error (.validation ("the label key " ++ Text.quoted Promql.nameLabel ++ " is not allowed"))
  else
    match dialect with
    | .promql _ =>
      if isLabelSpelling key then .ok ()
      else .error (.validation ("invalid label key " ++ key.quoted))
    | .metricsql =>
      if isSomeText key then .ok ()
      else .error (.validation ("the label key " ++ key.quoted ++ " is not valid"))

/-- Check the spelling of the value of a label. -/
def checkLabelSpelling (value : Spelling) : Except Failure Unit :=
  if value.isEmpty then .error (.validation "the label value is required")
  else
    match value with
    | .text _ => .ok ()
    | .illFormed _ =>
      .error (.validation ("invalid label value " ++ value.quoted ++ ": not valid UTF-8"))

/-- Check the value of a label. -/
def checkLabelValue : Json → Except Failure Unit
  | .text value => checkLabelSpelling (.text value)
  | other => .error (.validation ("invalid label value " ++ other.shown))

/-- Check the name of an annotation. -/
def checkAnnotationKey (dialect : Dialect) (key : Spelling) : Except Failure Unit :=
  match dialect with
  | .promql _ =>
    if isLabelSpelling key then .ok ()
    else .error (.validation ("invalid annotation key " ++ key.quoted))
  | .metricsql =>
    if isSomeText key then .ok ()
    else .error (.validation ("the annotation key " ++ key.quoted ++ " is not valid"))

/-- Check the spelling of the value of an annotation. -/
def checkAnnotationSpelling (value : Spelling) : Except Failure Unit :=
  if value.isEmpty then .error (.validation "the annotation value is required") else .ok ()

/-- Check the value of an annotation. -/
def checkAnnotationValue : Json → Except Failure Unit
  | .text value => checkAnnotationSpelling (.text value)
  | other => .error (.validation ("invalid annotation value " ++ other.shown))

/-- The window that queries are rendered with when they are checked. -/
def sampleWindow : Entries String :=
  .ofList [(Naming.windowVariable, "1m")]

/-- Ask the query language of the dialect about an expression. -/
def checkLanguage (dialect : Dialect) (expression : String) : Except Failure Unit :=
  match dialect with
  | .metricsql => .ok ()
  | .promql accepts =>
    if accepts expression then .ok ()
    else .error (.validation "invalid PromQL expression")

/-- Check a query: rendered with the sample window it has to be a query of the dialect. -/
def checkQuery (dialect : Dialect) (query : String) : Except Failure Unit := do
  let expression ←
    match Template.render "query" sampleWindow query with
    | .ok expression => .ok expression
    | .error failure => .error (.because .validation failure.message failure)
  if (Text.trim expression.toList).isEmpty then
    .error (.validation "query expression is empty")
  else do
    Query.checkStructure expression
    dialect.checkLanguage expression

/--
Check a spelling as a query.  A code point that is no character stands for no
part of an action, a bracket or a blank, and no query language accepts it.
-/
def checkSpelledQuery (dialect : Dialect) (query : Spelling) : Except Failure Unit :=
  match query, dialect with
  | .text text, _ => dialect.checkQuery text
  | .illFormed codes, .metricsql => metricsql.checkQuery (replaced codes)
  | .illFormed codes, .promql _ => (promql fun _ => false).checkQuery (replaced codes)
where
  replaced (codes : List Nat) : String :=
    String.ofList (codes.map fun code =>
      if Promql.Pattern.isScalar code then Char.ofNat code else Char.ofNat 65533)

end Dialect

namespace Slo

/-- Whether a text is a name of an objective, one final line break aside. -/
def isName (name : String) : Bool :=
  let chars := Duration.dropLineEnd name.toList
  match chars, chars.getLast? with
  | first :: rest, some last =>
    first.isAlphanum && last.isAlphanum && !rest.isEmpty &&
      rest.all fun c => c.isAlphanum || c = '-' || c = '_' || c = '.'
  | _, _ => false

/-- Put the subject of a check in front of its message. -/
def about (subject : String) (check : Except Failure Unit) : Except Failure Unit :=
  match check with
  | .ok () => .ok ()
  | .error failure =>
    .error (.because .validation (subject ++ ": " ++ failure.message) failure)

/-- Check a name. -/
def checkName (name : String) : Except Failure Unit :=
  if name.isEmpty then .error (.validation "is required")
  else if isName name then .ok ()
  else
    .error (.validation
      ("name must start and end with an alphanumeric and can only contain " ++
        "alphanumeric, '.', '_', and '-'"))

/-- Check labels in their order. -/
def checkLabels (dialect : Dialect) : List (String × Json) → Except Failure Unit
  | [] => .ok ()
  | (key, value) :: rest => do
    dialect.checkLabelKey (.text key)
    Dialect.checkLabelValue value
    checkLabels dialect rest

/-- Check annotations in their order. -/
def checkAnnotations (dialect : Dialect) : List (String × Json) → Except Failure Unit
  | [] => .ok ()
  | (key, value) :: rest => do
    dialect.checkAnnotationKey (.text key)
    Dialect.checkAnnotationValue value
    checkAnnotations dialect rest

/-- Whether the text behind an opening pair of braces refers to the window. -/
def opensWindow (text : List Char) : Bool :=
  let name := '.' :: Naming.windowVariable.toList
  let inner := text.dropWhile (· = ' ')
  name.isPrefixOf inner &&
    ['\x7d', '\x7d'].isPrefixOf ((inner.drop name.length).dropWhile (· = ' '))

/-- Whether a query refers to the window somewhere. -/
def mentionsWindow : List Char → Bool
  | '\x7b' :: rest =>
    (match rest with
      | '\x7b' :: inner => opensWindow inner
      | _ => false) || mentionsWindow rest
  | _ :: rest => mentionsWindow rest
  | [] => false

/-- Check a query template. -/
def checkQueryTemplate (dialect : Dialect) (query : String) : Except Failure Unit :=
  if query.isEmpty then .error (.validation "query template is required")
  else if mentionsWindow query.toList then dialect.checkQuery query
  else
    .error (.validation
      "template must contain the \x7b\x7b .window \x7d\x7d variable")

/-- Check an indicator. -/
def checkIndicator (dialect : Dialect) (indicator : Indicator) : Except Failure Unit :=
  match indicator.raw, indicator.events with
  | none, none => .error (.validation "at least one SLI type is required")
  | some _, some _ => .error (.validation "only one SLI type is allowed")
  | none, some events =>
    if events.error = events.total then
      .error (.validation "both error and total queries can't be the same")
    else do
      about "sli error query" (checkQueryTemplate dialect events.error)
      about "sli total query" (checkQueryTemplate dialect events.total)
  | some query, none => about "sli raw query" (checkQueryTemplate dialect query)

/-- Check the settings of a class of alerts, unless it is disabled. -/
def checkAlert (dialect : Dialect) (alert : AlertSettings) : Except Failure Unit :=
  if alert.disabled then .ok ()
  else if alert.name.isEmpty then .error (.validation "alert name is required")
  else do
    checkLabels dialect alert.labels.pairs
    checkAnnotations dialect alert.annotations.pairs

/-- Check the plugins of an objective. -/
def checkChain (chain : Chain) : Except Failure Unit :=
  if chain.overrides && chain.entries.isEmpty then
    .error (.validation "override default plugins is set but no plugins are defined")
  else if chain.entries.all fun entry => entry.id.isGiven then .ok ()
  else .error (.validation "plugin ID is required")

/-- Check that the period is longer than nothing. -/
def checkPeriod (period : Duration) : Except Failure Unit :=
  if 0 < period.microseconds then .ok ()
  else .error (.validation "time window is required")

/-- Check the objective; not-a-number compares with nothing and passes. -/
def checkObjective (objective : Quantity) : Except Failure Unit :=
  let low := objective.compareInt? 0
  if low = some .lt || low = some .eq || objective.compareInt? 100 = some .gt then
    .error (.validation "objective must >0 and <=100")
  else .ok ()

/-- Check a definition; the first problem is reported. -/
def validate (dialect : Dialect) (slo : Slo) : Except Failure Unit := do
  about "invalid SLO ID" (checkName slo.id)
  about "invalid SLO name" (checkName slo.name)
  about "invalid SLO service" (checkName slo.service)
  checkPeriod slo.period
  checkObjective slo.objective
  about "invalid SLO labels" (checkLabels dialect slo.labels.pairs)
  about "invalid SLI" (checkIndicator dialect slo.indicator)
  about "invalid page alert" (checkAlert dialect slo.pageAlert)
  about "invalid ticket alert" (checkAlert dialect slo.ticketAlert)
  about "invalid plugins" (checkChain slo.chain)

end Slo

end ServiceLevel
