import ServiceLevel.Source.Evaluation
import ServiceLevel.Source.Guard
import ServiceLevel.Source.Sandbox
import ServiceLevel.Source.WellFormed

/-!
# Running plugin sources

A source runs in a sandbox, statement by statement, after the guard has let it
pass.  What ran before a statement that fails stays in the sandbox.
-/

namespace ServiceLevel.Source

/-- Plugin code that works on a sandbox and ends with a value or fails. -/
abbrev Step (α : Type) := ExceptT Failure (StateM Sandbox) α

/-- Evaluate expressions among the symbols of a sandbox. -/
def evaluating {α : Type} (library : Library) (code : Scope → Run α) : Step α := fun sandbox =>
  let (result, memory) := code (.top library sandbox.symbols) sandbox.toMemory
  (result, { sandbox with toMemory := memory })

/-! ## Assignments -/

mutual

/-- Assign a value to an expression. -/
def Expression.assign (library : Library) : Expression → Value → Step Unit
  | .name id, value => modify fun sandbox => sandbox.define id value
  | .attribute holder member, value =>
    evaluating library fun scope => do
      let holder ← holder.evaluate scope
      scope.setAttribute holder member value
  | .index holder key, value =>
    evaluating library fun scope => do
      let holder ← holder.evaluate scope
      let key ← key.evaluate scope
      scope.setItem holder key value
  | .list targets, value => do
    let values ← evaluating library fun scope => scope.unpack targets.length value
    assignAll library targets values
  | .constant _, _ | .call .., _ => return ()

/-- Assign values to expressions, in order. -/
def assignAll (library : Library) : List Expression → List Value → Step Unit
  | [], _ | _ :: _, [] => return ()
  | target :: targets, value :: values => do
    target.assign library value
    assignAll library targets values

end

/-! ## Imports -/

/-- The names of a path that its dots separate. -/
def pathNames : List Char → List (List Char)
  | [] => [[]]
  | c :: path =>
    if c = '.' then [] :: pathNames path
    else
      match pathNames path with
      | [] => [[c]]
      | first :: others => (c :: first) :: others

/-- The value at the end of a path of attributes. -/
def Scope.attributesOf (scope : Scope) (holder : Value) : List String → Run Value
  | [] => return holder
  | name :: names => do
    let value ← scope.attributeOf holder name
    scope.attributesOf value names

/-- Import a module. -/
def ImportedName.importModule (library : Library) (imported : ImportedName) : Step Unit := do
  let top ← liftExcept ((← get).resolve imported.name [] 0)
  match imported.renamed with
  | none => modify fun sandbox => sandbox.define top (.module top)
  | some given =>
    let names := (pathNames imported.name.toList).tail.map String.ofList
    let value ← evaluating library fun scope => scope.attributesOf (.module top) names
    modify fun sandbox => sandbox.define given value

/-- A name of a module that can be imported from it. -/
def Sandbox.imported (sandbox : Sandbox) (path name : String) : Except Failure Value :=
  match sandbox.attribute? path name with
  | some value => .ok value
  | none => .error (noAttribute (.module path) name)

/-- Import a name of a module. -/
def ImportedName.importFrom (path : String) (imported : ImportedName) : Step Unit := do
  let value ← liftExcept ((← get).imported path imported.name)
  modify fun sandbox => sandbox.define (imported.renamed.getD imported.name) value

/-! ## Definitions -/

/-- What a function finds the given names in, if the symbol for them stands for something
else when the function is defined. -/
def Sandbox.given? (sandbox : Sandbox) : Option Value :=
  match sandbox.symbols.get? Surface.builtinsName with
  | some (.record typeName fields) =>
    if typeName = Surface.builtinsName then none else some (.record typeName fields)
  | other => other

/-- Make a function. -/
def makeFunction (name : String) (parameters : List Parameter) (given : Option Value)
    (body : Body) : Run Value := do
  let defaults ← defaultsOf parameters
  return .function (← newObject (.attributes [])) name parameters defaults given body

/-- Make a class. -/
def makeClass (name : String) (parameters : List Parameter) : Run Value := do
  let defaults ← defaultsOf parameters
  return .constructor (← newObject (.attributes [])) name parameters defaults

/-! ## Statements -/

/-- Run a statement. -/
def Statement.run (library : Library) : Statement → Step Unit
  | .comment _ | .malformed _ => return ()
  | .assign target value => do
    let value ← evaluating library value.evaluate
    target.assign library value
  | .evaluate value => do
    let _ ← evaluating library value.evaluate
    return ()
  | .raise fault message => do
    let _ ← evaluating library fun scope => Source.raise scope fault message
    return ()
  | .importModules modules => modules.forM (ImportedName.importModule library)
  | .importNames level path names => do
    let resolved ← liftExcept ((← get).resolve path (names.map ImportedName.name) level)
    names.forM (ImportedName.importFrom resolved)
  | .function name parameters body => do
    let given := (← get).given?
    let made ← evaluating library fun _ => makeFunction name parameters given body
    modify fun sandbox => sandbox.define name made
  | .classOf name parameters => do
    let made ← evaluating library fun _ => makeClass name parameters
    modify fun sandbox => sandbox.define name made

/-- Run statements in order, up to the first that fails. -/
def runAll (library : Library) (statements : List Statement) : Step Unit :=
  statements.forM (Statement.run library)

/-! ## Sources -/

/-- A source that cannot be run. -/
def notEvaluated (reason : String) (cause : Failure) : Failure :=
  .because .pluginLoad ("could not evaluate plugin source code: " ++ reason) cause

/-- A source that is none. -/
def malformedSource : Failure :=
  .pluginLoad "could not evaluate plugin source code: <SyntaxError>"

/-- The failure of a source one of whose statements failed. -/
def stopped (cause : Failure) : Failure :=
  if cause.kind = .pluginLoad then cause
  else notEvaluated (cause.kind.name ++ ": " ++ cause.message) cause

/-- Run a source in a sandbox.  A source that is none, or that the guard refuses, runs
nothing. -/
def Sandbox.run (sandbox : Sandbox) (library : Library) (source : Source) :
    Except Failure Unit × Sandbox :=
  if !source.isWellFormed then (.error malformedSource, sandbox)
  else
    match source.guard Surface.importable with
    | .error refused => (.error refused, sandbox)
    | .ok () =>
      if !source.hasDistinctParameters then (.error malformedSource, sandbox)
      else
        match runAll library source.statements sandbox with
        | (.ok (), after) => (.ok (), after)
        | (.error cause, after) => (.error (stopped cause), after)

/-- Call a value of a sandbox with constants, after its source has run. -/
def Sandbox.call (sandbox : Sandbox) (library : Library) (function : Value)
    (arguments : Run (List Value)) : Except Failure Value × Memory :=
  let scope := Scope.top library sandbox.symbols
  let code : Run Value := do scope.call function (← arguments)
  code sandbox.toMemory

end ServiceLevel.Source
