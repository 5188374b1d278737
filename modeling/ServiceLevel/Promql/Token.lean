import ServiceLevel.Duration.Reader
import ServiceLevel.Promql.Pattern

/-!
# Tokens of the query language

A query is cut into numbers, durations, strings, words and symbols.  Between
braces only matchers may stand, between brackets only durations and a colon.
Blanks and comments up to the end of a line separate tokens.
-/

namespace ServiceLevel.Promql

/-- A token of a query. -/
inductive Token where
  | number
  /-- The name of a number that is no point in time: infinity or not-a-number. -/
  | special
  | duration
  | text (value : String)
  /-- A word without a colon. -/
  | word (name : String)
  /-- A word with a colon: the name of a recorded series. -/
  | recorded (name : String)
  | comma
  | colon
  | pin
  | leftParen
  | rightParen
  | leftBrace
  | rightBrace
  | leftBracket
  | rightBracket
  | plus
  | minus
  | times
  | over
  | modulo
  | power
  | same
  | different
  | less
  | lessOrSame
  | greater
  | greaterOrSame
  | equals
  | matching
  | mismatching
  deriving DecidableEq, Repr

namespace Token

/-- Whether a character separates tokens. -/
def isSpace (c : Char) : Bool :=
  c = ' ' || c = '\t' || c = '\n' || c = '\r'

/-- Whether a character may begin a word. -/
def isWordStart (c : Char) : Bool :=
  c.isAlpha || c = '_'

/-- Whether a character may continue a word or a number. -/
def isWordPart (c : Char) : Bool :=
  isWordStart c || c.isDigit

/-- Whether a character is an octal digit. -/
def isOctal (c : Char) : Bool :=
  '0' ≤ c && c ≤ '7'

/-- The character of an escape of `width` hexadecimal digits and the text behind it. -/
def hexEscape (width : Nat) (text : List Char) : Option (Char × List Char) := do
  let code ← Pattern.hexCode (text.take width)
  if text.length < width || !Pattern.isScalar code then none
  else some (Char.ofNat code, text.drop width)

/-- The letters behind a backslash that stand for control characters. -/
def controlLetters : List (Char × Char) :=
  [('a', '\x07'), ('b', '\x08'), ('f', '\x0c'), ('n', '\n'), ('r', '\r'), ('t', '\t'),
   ('v', '\x0b'), ('\\', '\\')]

/-- The character behind a backslash inside a string, and the text behind it. -/
def readEscape (quote : Char) (text : List Char) : Option (Char × List Char) :=
  match text with
  | [] => none
  | c :: rest =>
    if c = quote then some (quote, rest)
    else if let some plain := controlLetters.lookup c then some (plain, rest)
    else if c = 'x' then hexEscape 2 rest
    else if c = 'u' then hexEscape 4 rest
    else if c = 'U' then hexEscape 8 rest
    else
      match rest with
      | second :: third :: rest =>
        if isOctal c && isOctal second && isOctal third then
          let code := ((c.toNat - 48) * 8 + (second.toNat - 48)) * 8 + (third.toNat - 48)
          if code < 256 then some (Char.ofNat code, rest) else none
        else none
      | _ => none

/-- The rest of a string up to its closing mark; `done` is what was read so far, reversed. -/
def readString (quote : Char) : Nat → List Char → List Char → Option (String × List Char)
  | 0, _, _ => none
  | _ + 1, _, [] => none
  | fuel + 1, done, c :: rest =>
    if c = quote then some (String.ofList done.reverse, rest)
    else if c = '\\' then
      match readEscape quote rest with
      | some (plain, rest) => readString quote fuel (plain :: done) rest
      | none => none
    else if c = '\n' then none
    else readString quote fuel (c :: done) rest

/-- The rest of a raw string, where no character has a meaning but the closing mark. -/
def readRaw (text : List Char) : Option (String × List Char) :=
  match text.dropWhile (· ≠ '\x60') with
  | _ :: rest => some (String.ofList (text.takeWhile (· ≠ '\x60')), rest)
  | [] => none

/-- A string behind its opening mark. -/
def readQuoted (quote : Char) (text : List Char) : Option (String × List Char) :=
  if quote = '\x60' then readRaw text
  else readString quote (text.length + 1) [] text

/-- Drop an exponent in front of a text; nothing when its digits are missing. -/
def dropExponent (text : List Char) : Option (List Char) :=
  match text with
  | mark :: rest =>
    if mark = 'e' || mark = 'E' then
      let rest :=
        match rest with
        | sign :: digits => if sign = '+' || sign = '-' then digits else rest
        | [] => rest
      match rest with
      | digit :: _ => if digit.isDigit then some (rest.dropWhile Char.isDigit) else none
      | [] => none
    else some text
  | [] => some text

/-- The text behind a number in front: decimal with fraction and exponent, or hexadecimal. -/
def dropNumber (text : List Char) : Option (List Char) :=
  let decimal :=
    let rest := text.dropWhile Char.isDigit
    match rest with
    | '.' :: fraction => dropExponent (fraction.dropWhile Char.isDigit)
    | _ => dropExponent rest
  match text with
  | '0' :: mark :: rest =>
    if mark = 'x' || mark = 'X' then
      let digits := rest.takeWhile fun c => (Json.hexValue? c).isSome
      match Pattern.hexCode digits with
      | some value =>
        if digits.isEmpty || 9223372036854775807 < value then none
        else some (rest.drop digits.length)
      | none => none
    else decimal
  | _ => decimal

/-- Whether a run of digits and letters is a duration longer than nothing. -/
def isDuration (run : List Char) : Bool :=
  match Duration.readParts Duration.units run with
  | some parts => !run.isEmpty && parts.any fun part => Text.digitsValue 0 part.1 ≠ 0
  | none => false

/-- A number or a duration in front of a text, and the text behind it. -/
def readAmount (text : List Char) : Option (Token × List Char) :=
  let asDuration :=
    let run := text.takeWhile isWordPart
    if isDuration run then some (.duration, text.dropWhile isWordPart) else none
  match dropNumber text with
  | some rest =>
    if rest.head?.elim false isWordPart then asDuration else some (.number, rest)
  | none => asDuration

/-- The token of a word; some words are the names of special numbers. -/
def ofWord (name : List Char) : Token :=
  let lower := String.ofList (name.map Char.toLower)
  if name.contains ':' then .recorded (String.ofList name)
  else if lower = "inf" || lower = "nan" then .special
  else .word (String.ofList name)

/-- A symbol in front of a text, and the text behind it. -/
def readSymbol (text : List Char) : Option (Token × List Char) :=
  match text with
  | '=' :: '=' :: rest => some (.same, rest)
  | '=' :: '~' :: rest => some (.matching, rest)
  | '=' :: rest => some (.equals, rest)
  | '!' :: '=' :: rest => some (.different, rest)
  | '!' :: '~' :: rest => some (.mismatching, rest)
  | '<' :: '=' :: rest => some (.lessOrSame, rest)
  | '<' :: rest => some (.less, rest)
  | '>' :: '=' :: rest => some (.greaterOrSame, rest)
  | '>' :: rest => some (.greater, rest)
  | ',' :: rest => some (.comma, rest)
  | '@' :: rest => some (.pin, rest)
  | '(' :: rest => some (.leftParen, rest)
  | ')' :: rest => some (.rightParen, rest)
  | '+' :: rest => some (.plus, rest)
  | '-' :: rest => some (.minus, rest)
  | '*' :: rest => some (.times, rest)
  | '/' :: rest => some (.over, rest)
  | '%' :: rest => some (.modulo, rest)
  | '^' :: rest => some (.power, rest)
  | _ => none

/-- What surrounds the place where a token is read. -/
inductive Place where
  | outside
  | braces
  | brackets
  deriving DecidableEq, Repr

/-- The next token outside braces and brackets, the place behind it and the rest. -/
def readOutside (c : Char) (rest : List Char) : Option (Token × Place × List Char) :=
  if c = '\x7b' then some (.leftBrace, .braces, rest)
  else if c = '[' then some (.leftBracket, .brackets, rest)
  else if c = '"' || c = '\x27' || c = '\x60' then
    (readQuoted c rest).map fun (value, rest) => (.text value, .outside, rest)
  else if c.isDigit || (c = '.' && rest.head?.elim false Char.isDigit) then
    (readAmount (c :: rest)).map fun (token, rest) => (token, .outside, rest)
  else if isWordStart c || c = ':' then
    let isPart (c : Char) : Bool := isWordPart c || c = ':'
    some (ofWord (c :: rest.takeWhile isPart), .outside, rest.dropWhile isPart)
  else (readSymbol (c :: rest)).map fun (token, rest) => (token, .outside, rest)

/-- The next token between braces, the place behind it and the rest. -/
def readInBraces (c : Char) (rest : List Char) : Option (Token × Place × List Char) :=
  if c = '\x7d' then some (.rightBrace, .outside, rest)
  else if c = ',' then some (.comma, .braces, rest)
  else if c = '"' || c = '\x27' || c = '\x60' then
    (readQuoted c rest).map fun (value, rest) => (.text value, .braces, rest)
  else if isWordStart c then
    some (.word (String.ofList (c :: rest.takeWhile isWordPart)), .braces,
      rest.dropWhile isWordPart)
  else if c = '=' || c = '!' then
    match readSymbol (c :: rest) with
    | some (.same, _) => some (.equals, .braces, rest)
    | some (token, rest) => some (token, .braces, rest)
    | none => none
  else none

/-- The next token between brackets, the place behind it and the rest. -/
def readInBrackets (c : Char) (rest : List Char) : Option (Token × Place × List Char) :=
  if c = ']' then some (.rightBracket, .outside, rest)
  else if c = ':' then some (.colon, .brackets, rest)
  else if c.isDigit then
    (readAmount (c :: rest)).map fun (token, rest) => (token, .brackets, rest)
  else none

/-- Cut a text into tokens. -/
def scan : Nat → Place → List Char → Option (List Token)
  | 0, _, _ => none
  | _ + 1, place, [] => if place = .outside then some [] else none
  | fuel + 1, place, c :: rest =>
    if isSpace c then scan fuel place rest
    else if c = '#' && place ≠ .brackets then
      scan fuel place (rest.dropWhile (· ≠ '\n'))
    else
      let step :=
        match place with
        | .outside => readOutside c rest
        | .braces => readInBraces c rest
        | .brackets => readInBrackets c rest
      match step with
      | some (token, place, rest) => (scan fuel place rest).map (token :: ·)
      | none => none

/-- The tokens of a query. -/
def ofQuery (query : String) : Option (List Token) :=
  let chars := query.toList
  scan (chars.length + 1) .outside chars

end Token

end ServiceLevel.Promql
