import ServiceLevel.Promql.Expr
import ServiceLevel.Promql.Token

/-!
# Reading queries

The grammar of the query language over its tokens.  Binary operators bind by
their strength and group to the left, the power operator to the right; a sign
binds like a product; ranges, shifts and pins bind tightest.  A query is accepted
when its tokens form one expression that has a type.
-/

namespace ServiceLevel.Promql

namespace Parser

/-- A word in the case of the keywords. -/
def keyword (name : String) : String :=
  String.ofList (name.toList.map Char.toLower)

/-- The aggregation operator of a word. -/
def aggregation? (name : String) : Option Aggregation :=
  let lower := keyword name
  if ["sum", "avg", "count", "min", "max", "group", "stddev", "stdvar"].contains lower then
    some .plain
  else if ["topk", "bottomk", "quantile", "limitk", "limit_ratio"].contains lower then
    some .withNumber
  else if lower = "count_values" then some .withText
  else none

/-- The keywords that can neither name a series nor stand as an operand. -/
def reserved : List String :=
  ["atan2", "bool", "on", "ignoring", "group_left", "group_right"]

/-- The keywords that are no names of functions. -/
def structural : List String :=
  ["and", "or", "unless", "offset", "by", "without", "start", "end"]

/-- The binary operator of a token. -/
def operator? : Token → Option Operator
  | .plus => some .plus
  | .minus => some .minus
  | .times => some .times
  | .over => some .over
  | .modulo => some .modulo
  | .power => some .power
  | .same => some .same
  | .different => some .different
  | .less => some .less
  | .lessOrSame => some .lessOrSame
  | .greater => some .greater
  | .greaterOrSame => some .greaterOrSame
  | .word name =>
    match keyword name with
    | "or" => some .or
    | "and" => some .and
    | "unless" => some .unless
    | "atan2" => some .atan2
    | _ => none
  | _ => none

/-- Whether a text is a label name. -/
def isLabel (name : String) : Bool :=
  match name.toList with
  | [] => false
  | first :: rest => Token.isWordStart first && rest.all Token.isWordPart

/-- A label of a grouping list. -/
def groupingLabel? : Token → Option String
  | .word name => if keyword name = "without" then none else some name
  | .text name => if isLabel name then some name else none
  | _ => none

/-- The labels of a grouping list up to its closing parenthesis. -/
def labels : List Token → Option (List String × List Token)
  | .rightParen :: rest => some ([], rest)
  | token :: .comma :: rest => do
    let label ← groupingLabel? token
    let (others, rest) ← labels rest
    return (label :: others, rest)
  | token :: .rightParen :: rest => do
    let label ← groupingLabel? token
    return ([label], rest)
  | _ => none

/-- A grouping list in parentheses. -/
def grouping : List Token → Option (List String × List Token)
  | .leftParen :: rest => labels rest
  | _ => none

/-- The comparison of a matcher. -/
def comparison? : Token → Option Comparison
  | .equals => some .same
  | .different => some .different
  | .matching => some .matching
  | .mismatching => some .mismatching
  | _ => none

/-- One matcher; a string alone is the name of the series. -/
def matcher : List Token → Option (Matcher × List Token)
  | .word label :: operator :: .text value :: rest =>
    (comparison? operator).map fun comparison => (⟨label, comparison, value⟩, rest)
  | .text label :: operator :: .text value :: rest =>
    match comparison? operator with
    | some comparison => some (⟨label, comparison, value⟩, rest)
    | none => some (⟨nameLabel, .same, label⟩, operator :: .text value :: rest)
  | .text name :: rest => some (⟨nameLabel, .same, name⟩, rest)
  | _ => none

/-- The matchers behind the first one, up to the closing brace. -/
def moreMatchers : Nat → List Token → Option (List Matcher × List Token)
  | 0, _ => none
  | fuel + 1, tokens =>
    match tokens with
    | .rightBrace :: rest => some ([], rest)
    | .comma :: .rightBrace :: rest => some ([], rest)
    | .comma :: rest => do
      let (first, rest) ← matcher rest
      let (others, rest) ← moreMatchers fuel rest
      return (first :: others, rest)
    | .word name :: rest =>
      if keyword name = "or" then do
        let (first, rest) ← matcher rest
        let (others, rest) ← moreMatchers fuel rest
        return (first :: others, rest)
      else none
    | _ => none

/-- The matchers of a selector behind its brace. -/
def matchers (tokens : List Token) : Option (List Matcher × List Token) :=
  match tokens with
  | .rightBrace :: rest => some ([], rest)
  | _ => do
    let (first, rest) ← matcher tokens
    let (others, rest) ← moreMatchers (rest.length + 1) rest
    return (first :: others, rest)

/-- A selector behind the name of its series. -/
def named (name : String) (tokens : List Token) : Option (Expr × List Token) :=
  match tokens with
  | .leftBrace :: rest =>
    (matchers rest).map fun (found, rest) => (.selector (some name) found, rest)
  | _ => some (.selector (some name) [], tokens)

/-- Whether a token is an amount of time. -/
def isAmount (token : Token) : Bool :=
  token = .number || token = .duration

/-- Drop a sign. -/
def dropSign (tokens : List Token) : List Token :=
  match tokens with
  | .plus :: rest => rest
  | .minus :: rest => rest
  | _ => tokens

/-- The range behind a bracket: a window, or a window and a resolution. -/
def window (of : Expr) (tokens : List Token) : Option (Expr × List Token) :=
  match tokens with
  | amount :: .rightBracket :: rest =>
    if isAmount amount then some (.range of, rest) else none
  | amount :: .colon :: .rightBracket :: rest =>
    if isAmount amount then some (.subquery of, rest) else none
  | amount :: .colon :: step :: .rightBracket :: rest =>
    if isAmount amount && isAmount step then some (.subquery of, rest) else none
  | _ => none

/-- The point in time behind a pin. -/
def pinPoint (tokens : List Token) : Option (List Token) :=
  match tokens with
  | .word name :: .leftParen :: .rightParen :: rest =>
    if keyword name = "start" || keyword name = "end" then some rest else none
  | _ =>
    match dropSign tokens with
    | .number :: rest => some rest
    | _ => none

/-- The ranges, shifts and pins behind an operand. -/
def suffixes : Nat → Expr → List Token → Option (Expr × List Token)
  | 0, _, _ => none
  | fuel + 1, of, tokens =>
    match tokens with
    | .leftBracket :: rest => do
      let (next, rest) ← window of rest
      suffixes fuel next rest
    | .pin :: rest => do
      let rest ← pinPoint rest
      suffixes fuel (.pinned of) rest
    | .word name :: rest =>
      if keyword name = "offset" then
        match dropSign rest with
        | amount :: rest => if isAmount amount then suffixes fuel (.shifted of) rest else none
        | [] => none
      else some (of, tokens)
    | _ => some (of, tokens)

/-- The labels behind `group_left` or `group_right`, which may be left out. -/
def copiedLabels (tokens : List Token) : Option (List String × List Token) :=
  match tokens with
  | .leftParen :: _ => grouping tokens
  | _ => some ([], tokens)

/-- The modifiers behind a binary operator. -/
def modifiers (tokens : List Token) : Option (Matching × List Token) :=
  let (asNumber, tokens) :=
    match tokens with
    | .word name :: rest => if keyword name = "bool" then (true, rest) else (false, tokens)
    | _ => (false, tokens)
  match tokens with
  | .word name :: rest =>
    if keyword name = "on" || keyword name = "ignoring" then do
      let (names, rest) ← grouping rest
      let matching : Matching := ⟨asNumber, keyword name = "on", names, none⟩
      match rest with
      | .word side :: behind =>
        if keyword side = "group_left" || keyword side = "group_right" then
          let (copied, behind) ← copiedLabels behind
          return ({ matching with copied := some copied }, behind)
        else return (matching, rest)
      | _ => return (matching, rest)
    else some (⟨asNumber, false, [], none⟩, tokens)
  | _ => some (⟨asNumber, false, [], none⟩, tokens)

/-- The grouping behind an aggregation, which may be left out. -/
def clause (tokens : List Token) : Option (Unit × List Token) :=
  match tokens with
  | .word name :: rest =>
    if keyword name = "by" || keyword name = "without" then
      (grouping rest).map fun (_, rest) => ((), rest)
    else some ((), tokens)
  | _ => some ((), tokens)

mutual

/-- An expression whose operators bind at least as tightly as `strength`. -/
def expression : Nat → Nat → List Token → Option (Expr × List Token)
  | 0, _, _ => none
  | fuel + 1, strength, tokens => do
    let (first, rest) ← operand fuel tokens
    operations fuel strength first rest

/-- The operators and operands behind a first operand. -/
def operations : Nat → Nat → Expr → List Token → Option (Expr × List Token)
  | 0, _, _, _ => none
  | fuel + 1, strength, left, tokens =>
    match tokens with
    | [] => some (left, [])
    | token :: rest =>
      match operator? token with
      | none => some (left, tokens)
      | some operator =>
        if operator.strength < strength then some (left, tokens)
        else do
          let (matching, rest) ← modifiers rest
          let least := if operator = .power then operator.strength else operator.strength + 1
          let (right, rest) ← expression fuel least rest
          operations fuel strength (.binary operator matching left right) rest

/-- An operand: a sign and what it applies to, or a primary expression with its suffixes. -/
def operand : Nat → List Token → Option (Expr × List Token)
  | 0, _ => none
  | fuel + 1, tokens =>
    match tokens with
    | .plus :: rest => expression fuel Operator.power.strength rest
    | .minus :: rest => do
      let (of, rest) ← expression fuel Operator.power.strength rest
      return (.negated of, rest)
    | _ => do
      let (first, rest) ← primary fuel tokens
      suffixes (rest.length + 1) first rest

/-- A literal, a selector, a call, an aggregation or an expression in parentheses. -/
def primary : Nat → List Token → Option (Expr × List Token)
  | 0, _ => none
  | fuel + 1, tokens =>
    match tokens with
    | .number :: rest => some (.number, rest)
    | .special :: rest => some (.number, rest)
    | .duration :: rest => some (.number, rest)
    | .text _ :: rest => some (.text, rest)
    | .leftParen :: rest => do
      let (of, rest) ← expression fuel 0 rest
      match rest with
      | .rightParen :: rest => some (.group of, rest)
      | _ => none
    | .leftBrace :: rest =>
      (matchers rest).map fun (found, rest) => (.selector none found, rest)
    | .recorded name :: rest => named name rest
    | .word name :: rest =>
      match aggregation? name with
      | some kind => aggregated fuel kind name rest
      | none =>
        if reserved.contains (keyword name) then none
        else
          match rest with
          | .leftParen :: inner =>
            if structural.contains (keyword name) then none
            else do
              let (given, rest) ← arguments fuel inner
              return (.call name given, rest)
          | _ => named name rest
    | _ => none

/-- What follows the word of an aggregation. -/
def aggregated : Nat → Aggregation → String → List Token → Option (Expr × List Token)
  | 0, _, _, _ => none
  | fuel + 1, kind, name, tokens =>
    match tokens with
    | .leftParen :: rest => do
      let (given, rest) ← arguments fuel rest
      let (_, rest) ← clause rest
      return (.aggregate kind given, rest)
    | .word next :: _ =>
      if keyword next = "by" || keyword next = "without" then do
        let (_, rest) ← clause tokens
        match rest with
        | .leftParen :: rest =>
          let (given, rest) ← arguments fuel rest
          return (.aggregate kind given, rest)
        | _ => none
      else named name tokens
    | _ => named name tokens

/-- The arguments of a call up to its closing parenthesis. -/
def arguments : Nat → List Token → Option (List Expr × List Token)
  | 0, _ => none
  | fuel + 1, tokens =>
    match tokens with
    | .rightParen :: rest => some ([], rest)
    | _ => moreArguments fuel tokens

/-- At least one argument, and the closing parenthesis. -/
def moreArguments : Nat → List Token → Option (List Expr × List Token)
  | 0, _ => none
  | fuel + 1, tokens => do
    let (first, rest) ← expression fuel 0 tokens
    match rest with
    | .comma :: rest =>
      let (others, rest) ← moreArguments fuel rest
      return (first :: others, rest)
    | .rightParen :: rest => return ([first], rest)
    | _ => none

end

end Parser

/-- Read a whole query as an expression. -/
def Expr.ofQuery? (query : String) : Option Expr := do
  let tokens ← Token.ofQuery query
  match Parser.expression (4 * tokens.length + 4) 0 tokens with
  | some (expression, []) => some expression
  | _ => none

/-- Whether a text is a query of the language. -/
def accepts (query : String) : Bool :=
  ((Expr.ofQuery? query).bind Expr.type?).isSome

end ServiceLevel.Promql
