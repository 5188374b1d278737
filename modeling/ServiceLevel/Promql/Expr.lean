import ServiceLevel.Promql.Pattern

/-!
# Query expressions and their types

An expression denotes a scalar, a string, an instant vector or a range vector.
`Expr.type?` computes the type of an expression that respects the rules of the
language, and nothing for the others.
-/

namespace ServiceLevel.Promql

/-- The type of an expression. -/
inductive ValueType where
  | scalar
  | text
  | vector
  | range
  deriving DecidableEq, Repr

/-- How a matcher compares a label with its value. -/
inductive Comparison where
  | same
  | different
  | matching
  | mismatching
  deriving DecidableEq, Repr

/-- A matcher of a selector. -/
structure Matcher where
  label : String
  comparison : Comparison
  value : String
  deriving DecidableEq, Repr

/-- Whether a matcher accepts series without the label; nothing for a malformed pattern. -/
def Matcher.matchesEmpty? (matcher : Matcher) : Option Bool :=
  match matcher.comparison with
  | .same => some matcher.value.isEmpty
  | .different => some !matcher.value.isEmpty
  | .matching => (Pattern.read matcher.value).map Pattern.matchesEmpty
  | .mismatching => (Pattern.read matcher.value).map fun pattern => !pattern.matchesEmpty

/-- The label that holds the name of a series. -/
def nameLabel : String := "__name__"

/-- The binary operators. -/
inductive Operator where
  | or
  | and
  | unless
  | same
  | different
  | less
  | lessOrSame
  | greater
  | greaterOrSame
  | plus
  | minus
  | times
  | over
  | modulo
  | atan2
  | power
  deriving DecidableEq, Repr

namespace Operator

/-- How tightly an operator binds. -/
def strength : Operator → Nat
  | .or => 1
  | .and | .unless => 2
  | .same | .different | .less | .lessOrSame | .greater | .greaterOrSame => 3
  | .plus | .minus => 4
  | .times | .over | .modulo | .atan2 => 5
  | .power => 6

/-- Whether an operator combines sets of series. -/
def isSet (operator : Operator) : Bool :=
  operator = .or || operator = .and || operator = .unless

/-- Whether an operator compares. -/
def isComparison (operator : Operator) : Bool :=
  operator.strength = 3

end Operator

/-- How the series of two operands are matched. -/
structure Matching where
  /-- Whether a comparison yields a number instead of a filter. -/
  asNumber : Bool
  /-- Whether the labels are the ones to match on rather than to ignore. -/
  on : Bool
  labels : List String
  /-- The labels copied from the side with fewer series, if one side may have more. -/
  copied : Option (List String)
  deriving DecidableEq, Repr

/-- The aggregation operators. -/
inductive Aggregation where
  /-- One that takes the vector only. -/
  | plain
  /-- One with a number in front. -/
  | withNumber
  /-- One with a label name in front. -/
  | withText
  deriving DecidableEq, Repr

/-- A query expression. -/
inductive Expr where
  | number
  | text
  | selector (name : Option String) (matchers : List Matcher)
  | range (of : Expr)
  | subquery (of : Expr)
  | shifted (of : Expr)
  | pinned (of : Expr)
  | negated (of : Expr)
  | group (of : Expr)
  | binary (operator : Operator) (matching : Matching) (left right : Expr)
  | aggregate (aggregation : Aggregation) (arguments : List Expr)
  | call (function : String) (arguments : List Expr)
  deriving Repr

/-- The parameters and the result of a function. -/
structure Signature where
  parameters : List ValueType
  /-- How many arguments may be given beyond all parameters but the last; none for any number. -/
  optional : Option Nat
  result : ValueType
  deriving DecidableEq, Repr

namespace Signature

/-- A function with fixed parameters. -/
def fixed (parameters : List ValueType) (result : ValueType) : Signature :=
  ⟨parameters, some 0, result⟩

/-- The least number of arguments. -/
def least (signature : Signature) : Nat :=
  if signature.optional = some 0 then signature.parameters.length
  else signature.parameters.length - 1

/-- Whether a number of arguments is accepted. -/
def acceptsCount (signature : Signature) (count : Nat) : Bool :=
  signature.least ≤ count &&
    match signature.optional with
    | some 0 => count ≤ signature.parameters.length
    | some extra => count ≤ signature.least + extra
    | none => true

/-- Whether arguments of the given types are accepted; the last parameter repeats. -/
def accepts (signature : Signature) (types : List ValueType) : Bool :=
  let last := signature.parameters.getLast?.getD .scalar
  signature.acceptsCount types.length &&
    (types.zipIdx.all fun (type, index) => type = signature.parameters.getD index last)

end Signature

/-- The functions from an instant vector to an instant vector. -/
def vectorFunctions : List String :=
  ["abs", "absent", "acos", "acosh", "asin", "asinh", "atan", "atanh", "ceil", "cos", "cosh",
   "deg", "exp", "floor", "histogram_avg", "histogram_count", "histogram_stddev",
   "histogram_stdvar", "histogram_sum", "ln", "log10", "log2", "rad", "sgn", "sin", "sinh",
   "sort", "sort_desc", "sqrt", "tan", "tanh", "timestamp"]

/-- The functions from a range vector to an instant vector. -/
def rangeFunctions : List String :=
  ["absent_over_time", "avg_over_time", "changes", "count_over_time", "delta", "deriv",
   "first_over_time", "idelta", "increase", "irate", "last_over_time", "mad_over_time",
   "max_over_time", "min_over_time", "present_over_time", "rate", "resets",
   "stddev_over_time", "stdvar_over_time", "sum_over_time", "ts_of_first_over_time",
   "ts_of_last_over_time", "ts_of_max_over_time", "ts_of_min_over_time"]

/-- The functions of the parts of a date, which default to the evaluation time. -/
def dateFunctions : List String :=
  ["day_of_month", "day_of_week", "day_of_year", "days_in_month", "hour", "minute", "month",
   "year"]

/-- The functions with signatures of their own. -/
def specialFunctions : List (String × Signature) :=
  [("clamp", .fixed [.vector, .scalar, .scalar] .vector),
   ("clamp_max", .fixed [.vector, .scalar] .vector),
   ("clamp_min", .fixed [.vector, .scalar] .vector),
   ("double_exponential_smoothing", .fixed [.range, .scalar, .scalar] .vector),
   ("holt_winters", .fixed [.range, .scalar, .scalar] .vector),
   ("histogram_fraction", .fixed [.scalar, .scalar, .vector] .vector),
   ("histogram_quantile", .fixed [.scalar, .vector] .vector),
   ("info", ⟨[.vector, .vector], some 1, .vector⟩),
   ("label_join", ⟨[.vector, .text, .text, .text], none, .vector⟩),
   ("label_replace", .fixed [.vector, .text, .text, .text, .text] .vector),
   ("pi", .fixed [] .scalar),
   ("predict_linear", .fixed [.range, .scalar] .vector),
   ("quantile_over_time", .fixed [.scalar, .range] .vector),
   ("round", ⟨[.vector, .scalar], some 1, .vector⟩),
   ("scalar", .fixed [.vector] .scalar),
   ("sort_by_label", ⟨[.vector, .text], none, .vector⟩),
   ("sort_by_label_desc", ⟨[.vector, .text], none, .vector⟩),
   ("time", .fixed [] .scalar),
   ("vector", .fixed [.scalar] .vector)]

/-- The signature of a function. -/
def signature? (function : String) : Option Signature :=
  if vectorFunctions.contains function then some (.fixed [.vector] .vector)
  else if rangeFunctions.contains function then some (.fixed [.range] .vector)
  else if dateFunctions.contains function then some ⟨[.vector], some 1, .vector⟩
  else specialFunctions.lookup function

namespace Expr

/-- Whether an expression is a selector or a range, where a shift or a pin may follow. -/
def isSeries : Expr → Bool
  | .selector .. | .range _ | .subquery _ => true
  | _ => false

/-- Whether the operands and the matching of a binary expression agree. -/
def acceptsOperands (operator : Operator) (matching : Matching)
    (left right : ValueType) : Bool :=
  let numeric (type : ValueType) : Bool := type = .scalar || type = .vector
  let vectors := left = .vector && right = .vector
  let scalars := left = .scalar && right = .scalar
  let copied := matching.copied.getD []
  numeric left && numeric right &&
    (!matching.asNumber || operator.isComparison) &&
    (!(operator.isComparison && scalars) || matching.asNumber) &&
    !(matching.on && copied.any matching.labels.contains) &&
    (vectors || matching.labels.isEmpty) &&
    (!operator.isSet || (vectors && matching.copied.isNone))

/--
Whether a selector is well formed: its patterns are, its name is given once, and
without a name some matcher rejects the empty value.
-/
def validSelector (name : Option String) (matchers : List Matcher) : Bool :=
  match matchers.mapM Matcher.matchesEmpty? with
  | none => false
  | some empties =>
    if name.isSome then !matchers.any fun matcher => matcher.label = nameLabel
    else !empties.all id

mutual

/-- The type of an expression that respects the rules of the language. -/
def type? : Expr → Option ValueType
  | .number => some .scalar
  | .text => some .text
  | .selector name matchers => if validSelector name matchers then some .vector else none
  | .range (.selector name matchers) =>
    if validSelector name matchers then some .range else none
  | .range _ => none
  | .subquery of =>
    match type? of with
    | some .vector => some .range
    | _ => none
  | .shifted (.pinned of) => if of.isSeries then type? of else none
  | .shifted of => if of.isSeries then type? of else none
  | .pinned (.shifted of) => if of.isSeries then type? of else none
  | .pinned of => if of.isSeries then type? of else none
  | .negated of =>
    match type? of with
    | some .scalar => some .scalar
    | some .vector => some .vector
    | _ => none
  | .group of => type? of
  | .binary operator matching left right =>
    match type? left, type? right with
    | some leftType, some rightType =>
      if acceptsOperands operator matching leftType rightType then
        some (if leftType = .scalar && rightType = .scalar then .scalar else .vector)
      else none
    | _, _ => none
  | .aggregate aggregation arguments =>
    match types? arguments with
    | none => none
    | some types =>
      let expected :=
        match aggregation with
        | .plain => [ValueType.vector]
        | .withNumber => [.scalar, .vector]
        | .withText => [.text, .vector]
      if types = expected then some .vector else none
  | .call function arguments =>
    match signature? function, types? arguments with
    | some signature, some types =>
      if signature.accepts types then some signature.result else none
    | _, _ => none

/-- The types of the arguments of a call. -/
def types? : List Expr → Option (List ValueType)
  | [] => some []
  | first :: rest =>
    match type? first, types? rest with
    | some type, some types => some (type :: types)
    | _, _ => none

end

end Expr

end ServiceLevel.Promql
