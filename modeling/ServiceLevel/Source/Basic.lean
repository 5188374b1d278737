import ServiceLevel.Json.Basic

/-!
# Plugin sources

The source of a plugin is a list of statements.  Sources are not read from text
here: they are given as trees, and only the layout of their lines is known, so
that a problem can name its line and the declaration of the module name can be
found among the comments.

Names are what a parser makes of them: in normal form, those of private
parameters with the name of their class, and none of them a keyword or the name
`__debug__`, to which nothing can be bound.
-/

namespace ServiceLevel

namespace Source

/-- An expression of a plugin source. -/
inductive Expression where
  | constant (value : Json)
  | name (id : String)
  | attribute (value : Expression) (name : String)
  | call (function : Expression) (arguments : List Expression)
  | index (value key : Expression)
  | list (items : List Expression)
  deriving Repr, Inhabited

/-- How a parameter takes its argument. -/
inductive ParameterKind where
  | positional
  | positionalOnly
  /-- All further positional arguments. -/
  | rest
  /-- All further named arguments. -/
  | namedRest
  | namedOnly
  deriving DecidableEq, Repr

/-- A parameter of a function. -/
structure Parameter where
  name : String
  kind : ParameterKind := .positional
  default : Option Json := none
  deriving DecidableEq, Repr

/-- What a function does when it is called. -/
inductive Body where
  | returns (value : Expression)
  | raises (fault message : String)
  deriving Repr

/-- A name that is imported, with the name it is bound to when that is another one. -/
structure ImportedName where
  name : String
  renamed : Option String := none
  deriving DecidableEq, Repr

/-- A statement of a plugin source. -/
inductive Statement where
  | comment (text : String)
  /-- A text that is no statement. -/
  | malformed (text : String)
  | assign (target value : Expression)
  | evaluate (value : Expression)
  | raise (fault message : String)
  | importModules (modules : List ImportedName)
  /-- An import of names; a level other than zero makes the module a relative one. -/
  | importNames (level : Nat) (path : String) (names : List ImportedName)
  | function (name : String) (parameters : List Parameter) (body : Body)
  /-- A class whose constructor takes the parameters after the new value. -/
  | classOf (name : String) (parameters : List Parameter)
  deriving Repr

/-- How lines end. -/
inductive LineEnd where
  | feed
  | returnAndFeed
  deriving DecidableEq, Repr

end Source

/-- The source of a plugin. -/
structure Source where
  statements : List Source.Statement
  lineEnd : Source.LineEnd := .feed
  deriving Repr

namespace Source

/-- The lines of a text, which its line feeds separate. -/
def lines : List Char → List (List Char)
  | [] => [[]]
  | c :: text =>
    if c = '\n' then [] :: lines text
    else
      match lines text with
      | [] => [[c]]
      | first :: others => (c :: first) :: others

theorem lines_ne_nil (text : List Char) : lines text ≠ [] := by
  cases text with
  | nil => simp [lines]
  | cons c rest =>
    unfold lines
    split
    · simp
    · split <;> simp

namespace Statement

/-- The text of a statement as far as it is known: that of comments and of what is no
statement.  Of every other statement only the number of its lines is kept. -/
def outline : Statement → List Char
  | .comment text | .malformed text => text.toList
  | .function .. => ['\n']
  | .classOf .. => ['\n', '\n']
  | _ => []

/-- How many lines a statement takes. -/
def height (statement : Statement) : Nat :=
  (lines statement.outline).length

end Statement

/-- The statements with the numbers of their first lines. -/
def numberedFrom (line : Nat) : List Statement → List (Nat × Statement)
  | [] => []
  | statement :: rest => (line, statement) :: numberedFrom (line + statement.height) rest

/-- The statements of a source with the numbers of their first lines. -/
def numbered (source : Source) : List (Nat × Statement) :=
  numberedFrom 1 source.statements

@[simp]
theorem map_snd_numberedFrom (line : Nat) (statements : List Statement) :
    (numberedFrom line statements).map Prod.snd = statements := by
  induction statements generalizing line with
  | nil => rfl
  | cons statement rest ih => simp [numberedFrom, ih]

@[simp]
theorem map_snd_numbered (source : Source) :
    source.numbered.map Prod.snd = source.statements :=
  map_snd_numberedFrom 1 source.statements

/-- A line with its end. -/
def LineEnd.close (lineEnd : LineEnd) (line : List Char) : List Char :=
  match lineEnd with
  | .feed => line ++ ['\n']
  | .returnAndFeed => line ++ ['\r', '\n']

/-- The text of a source as far as it is known. -/
def outline (source : Source) : List Char :=
  match source.statements with
  | [] => source.lineEnd.close []
  | statements =>
    statements.flatMap fun statement =>
      (lines statement.outline).flatMap source.lineEnd.close

/-- Read a text as a source: blank lines and comments are known, all else is no statement. -/
def ofText (text : String) : Source where
  statements := (lines text.toList).map fun line =>
    if line.isEmpty || line.head? = some '#' then .comment (String.ofList line)
    else .malformed (String.ofList line)

/-- Every line end of a text as a line feed. -/
def unifyLineEnds : List Char → List Char
  | '\r' :: '\n' :: text => '\n' :: unifyLineEnds text
  | '\r' :: text => '\n' :: unifyLineEnds text
  | c :: text => c :: unifyLineEnds text
  | [] => []

/-- A statement with every line end as a line feed. -/
def Statement.withUnifiedLineEnds : Statement → Statement
  | .comment text => .comment (String.ofList (unifyLineEnds text.toList))
  | .malformed text => .malformed (String.ofList (unifyLineEnds text.toList))
  | other => other

/-- A source with every line end as a line feed. -/
def withUnifiedLineEnds (source : Source) : Source where
  statements := source.statements.map Statement.withUnifiedLineEnds

end Source

end ServiceLevel
