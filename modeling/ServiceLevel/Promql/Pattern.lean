import ServiceLevel.Json.Reader
import ServiceLevel.Text.Blank

/-!
# Regular expressions of label matchers

A label matcher may compare a label with a regular expression that has to match
its whole value.  Two facts about an expression matter to a query: whether it is
well formed, and whether it matches the empty value.  The reader builds the shape
of the expression and keeps only what the second fact needs: symbols consume a
character, assertions hold on the empty text or do not.

An opening brace that starts no repetition is read as a plain character when the
expression is not well formed otherwise.
-/

namespace ServiceLevel.Promql

/-- The shape of a regular expression. -/
inductive Pattern where
  | empty
  | symbol
  | assertion (onEmpty : Bool)
  | sequence (first second : Pattern)
  | choice (first second : Pattern)
  | repeated (least : Nat) (body : Pattern)
  deriving DecidableEq, Repr

namespace Pattern

/-- Whether an expression matches the empty text. -/
def matchesEmpty : Pattern → Bool
  | .empty => true
  | .symbol => false
  | .assertion onEmpty => onEmpty
  | .sequence first second => first.matchesEmpty && second.matchesEmpty
  | .choice first second => first.matchesEmpty || second.matchesEmpty
  | .repeated least body => least = 0 || body.matchesEmpty

@[simp]
theorem matchesEmpty_repeated_zero (body : Pattern) :
    (repeated 0 body).matchesEmpty = true := by
  simp [matchesEmpty]

/-- What a backslash and the characters behind it stand for. -/
inductive Escape where
  | literal (code : Nat)
  | set
  | assertion (onEmpty : Bool)
  deriving DecidableEq, Repr

/-- Whether a character has a meaning of its own in an expression. -/
def isMeta (c : Char) : Bool :=
  "\\.+*?()|[]\x7b\x7d^$#&-~".toList.contains c

/-- Whether a backslash may make a plain character of this one. -/
def isEscapable (c : Char) : Bool :=
  isMeta c || (c.toNat < 128 && !c.isAlphanum && c ≠ '<' && c ≠ '>')

/-- A number of hexadecimal digits as a code point, with the text behind them. -/
def hexCode (text : List Char) : Option Nat :=
  text.foldl
    (fun value digit => do
      let value ← value
      let digit ← Json.hexValue? digit
      return value * 16 + digit)
    (some 0)

/-- Whether a number is the code point of a character. -/
def isScalar (code : Nat) : Bool :=
  code < 55296 || (57343 < code && code < 1114112)

/-- The text in front of a closing brace and the text behind it. -/
def untilBrace (text : List Char) : Option (List Char × List Char) :=
  match text.dropWhile (· ≠ '\x7d') with
  | _ :: rest => some (text.takeWhile (· ≠ '\x7d'), rest)
  | [] => none

/-- A code point in hexadecimal digits, of a fixed width or between braces. -/
def readHex (width : Nat) (text : List Char) : Option (Escape × List Char) :=
  match text with
  | '\x7b' :: inner => do
    let (digits, rest) ← untilBrace inner
    let code ← hexCode digits
    if digits.isEmpty || !isScalar code then none else some (.literal code, rest)
  | _ => do
    let code ← hexCode (text.take width)
    if text.length < width || !isScalar code then none
    else some (.literal code, text.drop width)

/-- The names of character properties that expressions may use, in lower case. -/
def propertyNames : List String :=
  ["l", "lu", "ll", "lt", "lm", "lo", "lc", "m", "mn", "mc", "me", "n", "nd", "nl", "no", "p",
   "pc", "pd", "ps", "pe", "pi", "pf", "po", "s", "sm", "sc", "sk", "so", "z", "zs", "zl", "zp",
   "c", "cc", "cf", "co", "cn", "letter", "uppercaseletter", "lowercaseletter",
   "titlecaseletter", "casedletter", "modifierletter", "otherletter", "mark",
   "nonspacingmark", "spacingmark", "enclosingmark", "number", "decimalnumber",
   "letternumber", "othernumber", "digit", "punctuation", "connectorpunctuation",
   "dashpunctuation", "openpunctuation", "closepunctuation", "initialpunctuation",
   "finalpunctuation", "otherpunctuation", "symbol", "mathsymbol", "currencysymbol",
   "modifiersymbol", "othersymbol", "separator", "spaceseparator", "lineseparator",
   "paragraphseparator", "other", "control", "format", "privateuse", "unassigned", "any",
   "ascii", "assigned", "alphabetic", "alpha", "lowercase", "lower", "uppercase", "upper",
   "whitespace", "space", "math", "hexdigit", "asciihexdigit", "idstart", "idcontinue",
   "xidstart", "xidcontinue", "dash", "emoji", "cased", "greek", "latin", "cyrillic", "han",
   "hiragana", "katakana", "arabic", "hebrew", "hangul", "thai", "armenian", "georgian",
   "devanagari", "bengali", "tamil", "telugu", "common", "inherited", "mongolian", "tibetan",
   "ethiopic", "khmer", "lao", "myanmar", "cherokee", "braille"]

/-- A property name without case, blanks, underscores and hyphens. -/
def looseName (name : List Char) : String :=
  String.ofList ((name.filter fun c => c ≠ ' ' && c ≠ '_' && c ≠ '-').map Char.toLower)

/-- A character property: one letter, or a name between braces. -/
def readProperty (text : List Char) : Option (Escape × List Char) :=
  match text with
  | '\x7b' :: inner => do
    let (name, rest) ← untilBrace inner
    let name :=
      match name with
      | '^' :: plain => plain
      | _ => name
    let name :=
      match name.dropWhile (· ≠ '=') with
      | _ :: value => value
      | [] => name
    if propertyNames.contains (looseName name) then some (.set, rest) else none
  | letter :: rest =>
    if "LMNPSZClmnpszc".toList.contains letter then some (.set, rest) else none
  | [] => none

/-- The half word boundaries that may stand between braces behind `\b`. -/
def boundaryNames : List (String × Bool) :=
  [("start", false), ("end", false), ("start-half", true), ("end-half", true)]

/-- What follows `\b`: the name of a half boundary, or nothing. -/
def readBoundary (text : List Char) : Escape × List Char :=
  match text with
  | '\x7b' :: inner =>
    match untilBrace inner with
    | some (name, rest) =>
      match boundaryNames.lookup (String.ofList name) with
      | some onEmpty => (.assertion onEmpty, rest)
      | none => (.assertion false, text)
    | none => (.assertion false, text)
  | _ => (.assertion false, text)

/-- The control characters with a letter of their own. -/
def controlEscapes : List (Char × Nat) :=
  [('a', 7), ('f', 12), ('t', 9), ('n', 10), ('r', 13), ('v', 11)]

/-- The characters behind a backslash. -/
def readEscape (text : List Char) : Option (Escape × List Char) :=
  match text with
  | [] => none
  | c :: rest =>
    if c = 'x' then readHex 2 rest
    else if c = 'u' then readHex 4 rest
    else if c = 'U' then readHex 8 rest
    else if c = 'p' || c = 'P' then readProperty rest
    else if "dswDSW".toList.contains c then some (.set, rest)
    else if let some code := controlEscapes.lookup c then some (.literal code, rest)
    else if c = 'A' || c = 'z' || c = 'B' then some (.assertion true, rest)
    else if c = 'b' then some (readBoundary rest)
    else if c = '<' || c = '>' then some (.assertion false, rest)
    else if isEscapable c then some (.literal c.toNat, rest)
    else none

/-- The names of the classes between colons inside a set. -/
def classNames : List String :=
  ["alnum", "alpha", "ascii", "blank", "cntrl", "digit", "graph", "lower", "print", "punct",
   "space", "upper", "word", "xdigit"]

/-- A named class such as `[:alpha:]` behind its opening bracket. -/
def readNamedClass (text : List Char) : Option (List Char) :=
  match text with
  | ':' :: inner =>
    let inner :=
      match inner with
      | '^' :: plain => plain
      | _ => inner
    let name := inner.takeWhile (· ≠ ':')
    match inner.dropWhile (· ≠ ':') with
    | ':' :: ']' :: rest => if classNames.contains (String.ofList name) then some rest else none
    | _ => none
  | _ => none

/-- One member of a set: an escape or a character. -/
def readMember (text : List Char) : Option (Escape × List Char) :=
  match text with
  | [] => none
  | '\\' :: rest => readEscape rest
  | c :: rest => some (.literal c.toNat, rest)

/-- A member or a range of members of a set. -/
def readRange (text : List Char) : Option (List Char) := do
  let (first, rest) ← readMember text
  match rest with
  | [] => none
  | '-' :: behind =>
    match behind with
    | [] => none
    | next :: _ =>
      if next = ']' || next = '-' then
        match first with
        | .assertion _ => none
        | _ => some rest
      else
        let (last, rest) ← readMember behind
        match first, last with
        | .literal low, .literal high => if low ≤ high then some rest else none
        | _, _ => none
  | _ =>
    match first with
    | .assertion _ => none
    | _ => some rest

/-- Drop a run of hyphens; says whether there was one. -/
def dropHyphens (text : List Char) : Bool × List Char :=
  (text.head? = some '-', text.dropWhile (· = '-'))

/-- What opens a set behind its bracket: a negation, hyphens, a first closing bracket. -/
def readSetOpening (text : List Char) : List Char :=
  let text :=
    match text with
    | '^' :: rest => rest
    | _ => text
  let (hyphens, text) := dropHyphens text
  match text with
  | ']' :: rest => if hyphens then text else rest
  | _ => text

/-- The inside of a set, with `depth` sets open around it, and its closing bracket. -/
def readSet : Nat → Nat → List Char → Option (List Char)
  | 0, _, _ => none
  | _ + 1, _, [] => none
  | fuel + 1, depth, c :: rest =>
    if c = '[' then
      match readNamedClass rest with
      | some behind => readSet fuel depth behind
      | none => readSet fuel (depth + 1) (readSetOpening rest)
    else if c = ']' then
      match depth with
      | 0 => some rest
      | outer + 1 => readSet fuel outer rest
    else if (c = '&' || c = '-' || c = '~') && rest.head? = some c then
      readSet fuel depth (rest.drop 1)
    else
      match readRange (c :: rest) with
      | some behind => readSet fuel depth behind
      | none => none

/-- A count inside a repetition. -/
def readCount (text : List Char) : Option (Nat × List Char) :=
  let text := Text.trimLeft text
  let digits := text.takeWhile Char.isDigit
  let value := Text.digitsValue 0 digits
  if digits.isEmpty || 4294967295 < value then none
  else some (value, Text.trimLeft (text.dropWhile Char.isDigit))

/-- A counted repetition behind its brace: the least count and the text behind it. -/
def readCounts (text : List Char) : Option (Nat × List Char) := do
  let (least, rest) ← readCount text
  match rest with
  | '\x7d' :: rest => some (least, rest)
  | ',' :: '\x7d' :: rest => some (least, rest)
  | ',' :: rest =>
    let (most, rest) ← readCount rest
    match rest with
    | '\x7d' :: rest => if least ≤ most then some (least, rest) else none
    | _ => none
  | _ => none

/-- Drop the mark of a lazy repetition. -/
def dropLazy (text : List Char) : List Char :=
  match text with
  | '?' :: rest => rest
  | _ => text

/-- The repetitions behind an item. -/
def readRepetitions : Nat → Pattern → List Char → Option (Pattern × List Char)
  | 0, _, _ => none
  | _ + 1, item, [] => some (item, [])
  | fuel + 1, item, c :: rest =>
    if c = '*' || c = '?' then readRepetitions fuel (.repeated 0 item) (dropLazy rest)
    else if c = '+' then readRepetitions fuel (.repeated 1 item) (dropLazy rest)
    else if c = '\x7b' then
      match readCounts rest with
      | some (least, rest) => readRepetitions fuel (.repeated least item) (dropLazy rest)
      | none => none
    else some (item, c :: rest)

/-- Whether a run of flags is well formed: known, not repeated, at most one negation inside. -/
def validFlags (flags : List Char) : Bool :=
  flags.all (fun c => "imsUuxR-".toList.contains c) &&
    decide flags.Nodup && flags.getLast? ≠ some '-'

/-- How a group begins behind its parenthesis. -/
inductive Opening where
  | group (rest : List Char)
  | flags (rest : List Char)
  deriving DecidableEq, Repr

/-- Whether a name of a group is well formed. -/
def validName (name : List Char) : Bool :=
  match name with
  | [] => false
  | first :: rest =>
    (first = '_' || first.isAlpha) &&
      rest.all fun c => c = '_' || c = '.' || c = '[' || c = ']' || c.isAlphanum

/-- The name of a group and its closing angle bracket. -/
def readName (text : List Char) : Option Opening :=
  let name := text.takeWhile (· ≠ '>')
  match text.dropWhile (· ≠ '>') with
  | _ :: rest => if validName name then some (.group rest) else none
  | [] => none

/-- What stands between the parenthesis of a group and its body. -/
def readOpening (text : List Char) : Option Opening :=
  match text with
  | '?' :: 'P' :: '<' :: rest => readName rest
  | '?' :: '<' :: rest => readName rest
  | '?' :: rest =>
    let flags := rest.takeWhile fun c => c ≠ ':' && c ≠ ')'
    match rest.dropWhile fun c => c ≠ ':' && c ≠ ')' with
    | ':' :: rest => if validFlags flags then some (.group rest) else none
    | _ :: rest => if validFlags flags && !flags.isEmpty then some (.flags rest) else none
    | [] => none
  | _ => some (.group text)

mutual

/-- Alternatives, up to a closing parenthesis or the end. -/
def readChoice : Nat → List Char → Option (Pattern × List Char)
  | 0, _ => none
  | fuel + 1, text => do
    let (first, rest) ← readSequence fuel text
    match rest with
    | '|' :: rest =>
      let (second, rest) ← readChoice fuel rest
      return (.choice first second, rest)
    | _ => return (first, rest)

/-- Items in a row, up to a bar, a closing parenthesis or the end. -/
def readSequence : Nat → List Char → Option (Pattern × List Char)
  | 0, _ => none
  | _ + 1, [] => some (.empty, [])
  | fuel + 1, c :: rest =>
    if c = '|' || c = ')' then some (.empty, c :: rest)
    else do
      let (first, rest) ← readItem fuel c rest
      let (second, rest) ← readSequence fuel rest
      return (.sequence first second, rest)

/-- One item with its repetitions; `c` is its first character. -/
def readItem : Nat → Char → List Char → Option (Pattern × List Char)
  | 0, _, _ => none
  | fuel + 1, c, rest =>
    if c = '(' then
      match readOpening rest with
      | none => none
      | some (.flags rest) =>
        if (rest.head?.elim false fun next => "*+?\x7b".toList.contains next) then none
        else some (.empty, rest)
      | some (.group rest) =>
        match readChoice fuel rest with
        | some (body, ')' :: rest) => readRepetitions (rest.length + 1) body rest
        | _ => none
    else if c = '[' then
      let inside := readSetOpening rest
      match readSet (inside.length + 1) 0 inside with
      | some rest => readRepetitions (rest.length + 1) .symbol rest
      | none => none
    else if c = '\\' then
      match readEscape rest with
      | some (.assertion onEmpty, rest) =>
        readRepetitions (rest.length + 1) (.assertion onEmpty) rest
      | some (_, rest) => readRepetitions (rest.length + 1) .symbol rest
      | none => none
    else if c = '^' || c = '$' then
      readRepetitions (rest.length + 1) (.assertion true) rest
    else if "*+?\x7b".toList.contains c then none
    else readRepetitions (rest.length + 1) .symbol rest

end

/-- Read a whole expression. -/
def readAll (text : List Char) : Option Pattern :=
  match readChoice (3 * text.length + 3) text with
  | some (pattern, []) => some pattern
  | _ => none

/-- Whether a brace starts a repetition, with the characters that decide it and those behind. -/
def scanRepetition : List Char → List Char → Bool → Bool × List Char × List Char
  | taken, [], _ => (false, taken.reverse, [])
  | taken, c :: rest, comma =>
    let next := c :: taken
    if c = ',' then
      if comma || taken.isEmpty then (false, next.reverse, rest)
      else scanRepetition next rest true
    else if c = '\x7d' then (!taken.isEmpty, next.reverse, rest)
    else if c.isDigit then scanRepetition next rest comma
    else (false, next.reverse, rest)

/-- Put a backslash in front of every brace that starts no repetition. -/
def escapeBraces : Nat → List Char → List Char
  | 0, _ => []
  | _ + 1, [] => []
  | fuel + 1, c :: rest =>
    if c = '\\' then
      match rest with
      | [] => []
      | next :: rest => c :: next :: escapeBraces fuel rest
    else if c = '\x7b' then
      let (repetition, taken, rest) := scanRepetition [] rest false
      (if repetition then [] else ['\\']) ++ c :: (taken ++ escapeBraces fuel rest)
    else c :: escapeBraces fuel rest

/-- Read the expression of a matcher, braces that start no repetition being characters. -/
def read (text : String) : Option Pattern :=
  let chars := text.toList
  (readAll chars).orElse fun _ => readAll (escapeBraces (chars.length + 1) chars)

end Pattern

end ServiceLevel.Promql
