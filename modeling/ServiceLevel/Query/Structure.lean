import ServiceLevel.Failure

/-!
# The structure of queries

Whatever the query language, brackets must nest and strings must end.  Three
characters open a string, which ends at the same character; inside it a
backslash takes the next character with it and brackets mean nothing.
-/

namespace ServiceLevel.Query

/-- Why a query is not well structured. -/
inductive Problem where
  | unbalanced (bracket : Char)
  | unterminated
  | unclosed (bracket : Char)
  deriving DecidableEq, Repr

/-- The message of a problem. -/
def Problem.message : Problem → String
  | .unbalanced bracket =>
    "unbalanced " ++ Text.quotedChar bracket ++ " in query expression"
  | .unterminated => "unterminated string in query expression"
  | .unclosed bracket => "unclosed " ++ Text.quotedChar bracket ++ " in query expression"

/-- Whether a character opens and closes strings. -/
def isQuote (c : Char) : Bool :=
  c = '"' || c = '\x27' || c = '\x60'

/-- Whether a character is an opening bracket. -/
def isOpening (c : Char) : Bool :=
  c = '(' || c = '[' || c = '\x7b'

/-- The opening bracket of a closing one. -/
def partner? (c : Char) : Option Char :=
  if c = ')' then some '('
  else if c = ']' then some '['
  else if c = '\x7d' then some '\x7b'
  else none

/-- Where the reading of a query stands with respect to strings. -/
inductive Mode where
  | outside
  | inside (quote : Char)
  | escaped (quote : Char)
  deriving DecidableEq, Repr

/-- Read a query with the given brackets open, the innermost first. -/
def scan : Mode → List Char → List Char → Except Problem Unit
  | .outside, [], [] => .ok ()
  | .outside, bracket :: _, [] => .error (.unclosed bracket)
  | .inside _, _, [] => .error .unterminated
  | .escaped _, _, [] => .error .unterminated
  | .escaped quote, stack, _ :: rest => scan (.inside quote) stack rest
  | .inside quote, stack, c :: rest =>
    if c = '\\' then scan (.escaped quote) stack rest
    else if c = quote then scan .outside stack rest
    else scan (.inside quote) stack rest
  | .outside, stack, c :: rest =>
    if isQuote c then scan (.inside c) stack rest
    else if isOpening c then scan .outside (c :: stack) rest
    else
      match partner? c with
      | none => scan .outside stack rest
      | some opening =>
        match stack with
        | [] => .error (.unbalanced c)
        | top :: below =>
          if top = opening then scan .outside below rest else .error (.unbalanced c)

/-- Check the structure of a query. -/
def check (query : List Char) : Except Problem Unit :=
  scan .outside [] query

/-- Check the structure of a query given as text. -/
def checkStructure (query : String) : Except Failure Unit :=
  match check query.toList with
  | .ok () => .ok ()
  | .error problem => .error (.validation problem.message)

end ServiceLevel.Query
