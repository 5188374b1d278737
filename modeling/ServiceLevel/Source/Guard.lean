import ServiceLevel.Source.Basic
import ServiceLevel.Failure

/-!
# The guard of plugin sources

Before a source runs it is searched for what could lead a plugin out of its
sandbox.  `refusals` lists every such occurrence in the order in which the source
is walked: statements in order, the outer part of an expression before its
inner ones, also in functions that never run.  The first one refuses the source.
-/

namespace ServiceLevel.Source

/-- Something that a source may not do. -/
inductive Refusal where
  | attribute (name : String)
  | name (id : String)
  | relativeImport
  | wholesaleImport
  | importing (path : String)
  deriving DecidableEq, Repr

/-- What is said about something that a source may not do. -/
def Refusal.message : Refusal → String
  | .attribute hidden => "access to attribute " ++ Text.quoted hidden ++ " is not allowed"
  | .name id => "use of name " ++ Text.quoted id ++ " is not allowed"
  | .relativeImport => "relative imports are not allowed"
  | .wholesaleImport => "star imports are not allowed"
  | .importing path => "import of " ++ Text.quoted path ++ " is not allowed"

/-- Attributes that lead from values to frames, code and the names of the host. -/
def hostAttributes : List String :=
  ["gi_frame", "gi_code", "gi_yieldfrom",
    "cr_frame", "cr_code", "cr_await",
    "ag_frame", "ag_code", "ag_await",
    "f_back", "f_globals", "f_locals", "f_builtins", "f_code",
    "tb_frame", "tb_next",
    "co_code", "func_globals",
    "mro",
    "format", "format_map"]

/-- Whether an attribute may not be used. -/
def isHiddenAttribute (name : String) : Bool :=
  name.toList.head? = some '_' || hostAttributes.contains name

/-- Whether a name may not be used. -/
def isHiddenName (id : String) : Bool :=
  ['_', '_'].isPrefixOf id.toList

mutual

/-- What an expression may not do, outer parts first. -/
def Expression.refusals : Expression → List Refusal
  | .constant _ => []
  | .name id => if isHiddenName id then [.name id] else []
  | .attribute value name =>
    (if isHiddenAttribute name then [.attribute name] else []) ++ value.refusals
  | .call function arguments => function.refusals ++ refusalsOfAll arguments
  | .index value key => value.refusals ++ key.refusals
  | .list items => refusalsOfAll items

/-- What the expressions of a list may not do. -/
def refusalsOfAll : List Expression → List Refusal
  | [] => []
  | item :: rest => item.refusals ++ refusalsOfAll rest

end

theorem refusalsOfAll_eq_flatMap (items : List Expression) :
    refusalsOfAll items = items.flatMap Expression.refusals := by
  induction items with
  | nil => rfl
  | cons item rest ih => simp [refusalsOfAll, ih]

/-- What the body of a function may not do. -/
def Body.refusals : Body → List Refusal
  | .returns value => value.refusals
  | .raises fault _ => (Expression.name fault).refusals

/-- What an import of a name may not do. -/
def nameRefusals (importable : String → Bool) (path : String) (imported : ImportedName) :
    List Refusal :=
  if imported.name = "*" then [.wholesaleImport]
  else if importable (path ++ "." ++ imported.name) || importable path then []
  else [.importing path]

/-- What a statement may not do, where `importable` says which modules can be imported. -/
def Statement.refusals (importable : String → Bool) : Statement → List Refusal
  | .comment _ | .malformed _ => []
  | .assign target value => target.refusals ++ value.refusals
  | .evaluate value => value.refusals
  | .raise fault _ => (Expression.name fault).refusals
  | .importModules modules =>
    modules.flatMap fun imported =>
      if importable imported.name then [] else [.importing imported.name]
  | .importNames level path names =>
    if level ≠ 0 then [.relativeImport] else names.flatMap (nameRefusals importable path)
  | .function _ _ body => body.refusals
  | .classOf _ _ => []

/-- How far below the first line of a statement its expressions stand: those of a function
are in its body, on its second line. -/
def Statement.expressionLine : Statement → Nat
  | .function .. => 1
  | _ => 0

/-- What a source may not do, with the lines on which it does. -/
def refusals (importable : String → Bool) (source : Source) : List (Nat × Refusal) :=
  source.numbered.flatMap fun statement =>
    (statement.2.refusals importable).map fun refusal =>
      (statement.1 + statement.2.expressionLine, refusal)

/-- Refuse a source that does what it may not do. -/
def guard (importable : String → Bool) (source : Source) : Except Failure Unit :=
  match source.refusals importable with
  | [] => .ok ()
  | (line, refusal) :: _ =>
    .error (.pluginLoad
      ("line " ++ Quantity.integerText line ++ ": " ++ refusal.message))

theorem guard_eq_ok_iff {importable : String → Bool} {source : Source} :
    source.guard importable = .ok () ↔ source.refusals importable = [] := by
  unfold guard
  split <;> simp_all

end ServiceLevel.Source
