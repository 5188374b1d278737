import ServiceLevel.Source.Library

/-!
# Evaluating expressions

An expression is evaluated from its outer left to its inner right: a function
before its arguments, a holder before its key.  A function of the source is
called with its arguments bound to its parameters and finds the symbols of the
source as they are when it is called; a class of the source makes a new object.
Calls that are nested more deeply than the library allows fail.
-/

namespace ServiceLevel.Source

mutual

/-- The value of an expression. -/
def Expression.evaluate (scope : Scope) : Expression → Run Value
  | .constant value => valueOf value
  | .name id => scope.value id
  | .attribute value name => do
    let holder ← value.evaluate scope
    scope.attributeOf holder name
  | .call function arguments => do
    let function ← function.evaluate scope
    let arguments ← evaluateAll scope arguments
    scope.call function arguments
  | .index value key => do
    let holder ← value.evaluate scope
    let key ← key.evaluate scope
    scope.item holder key
  | .list items => do
    let values ← evaluateAll scope items
    return .list (← newObject (.items values))

/-- The values of expressions, in order. -/
def evaluateAll (scope : Scope) : List Expression → Run (List Value)
  | [] => return []
  | item :: rest => do
    let value ← item.evaluate scope
    let values ← evaluateAll scope rest
    return value :: values

end

/-- Raise what a name gives for a message. -/
def raise (scope : Scope) (name message : String) : Run Value := do
  let function ← scope.value name
  match ← scope.call function [.text message] with
  | .exception _ kind arguments => throw (.fault kind (← scope.message kind arguments))
  | .fault kind => throw (.fault kind "")
  | _ => throw (.fault .type "exceptions must derive from BaseException")

/-- What the body of a function gives or raises. -/
def Body.evaluate (scope : Scope) : Body → Run Value
  | .returns value => value.evaluate scope
  | .raises fault message => raise scope fault message

/-! ## Arguments -/

/-- A parameter with the value of its default. -/
abbrev Bindable := Parameter × Option Value

/-- Names between quotation marks in a sentence. -/
def listed (names : List String) : String :=
  match names.map Text.quoted with
  | [] => ""
  | [name] => name
  | [first, second] => first ++ " and " ++ second
  | quoted => ", ".intercalate quoted.dropLast ++ ", and " ++ quoted.getLastD ""

/-- The end of a noun of which there are so many. -/
def plural (count : Nat) : String :=
  if count = 1 then "" else "s"

/-- The fault of a call with more arguments than there are parameters for. -/
def tooMany (name : String) (positional : List Bindable) (count : Nat) : Failure :=
  let needed := (positional.filter fun bindable => bindable.2.isNone).length
  let range :=
    if needed = positional.length then Quantity.integerText needed
    else
      "from " ++ Quantity.integerText needed ++ " to " ++
        Quantity.integerText positional.length
  let ending := if needed = positional.length then plural needed else "s"
  .fault .type
    (name ++ "() takes " ++ range ++ " positional argument" ++ ending ++ " but " ++
      Quantity.integerText count ++ (if count = 1 then " was" else " were") ++ " given")

/-- The fault of a call without arguments for some parameters. -/
def tooFew (name kind : String) (missing : List Bindable) : Failure :=
  .fault .type
    (name ++ "() missing " ++ Quantity.integerText missing.length ++ " required " ++ kind ++
      " argument" ++ plural missing.length ++ ": " ++
      listed (missing.map fun bindable => bindable.1.name))

/-- Whether a parameter takes one argument by its position. -/
def Parameter.isPositional (parameter : Parameter) : Bool :=
  parameter.kind = .positional || parameter.kind = .positionalOnly

/-- Parameters with the values of their defaults. -/
def defaulted (bindables : List Bindable) : List (String × Value) :=
  bindables.filterMap fun bindable => bindable.2.map fun value => (bindable.1.name, value)

/-- What the parameters that take all further arguments are bound to. -/
def bindRest (surplus : List Value) : List Bindable → Run (List (String × Value))
  | [] => return []
  | (parameter, _) :: others => do
    match parameter.kind with
    | .rest => do
      let place ← newObject (.items surplus)
      return (parameter.name, .tuple place) :: (← bindRest surplus others)
    | .namedRest => do
      let place ← newObject (.entries [])
      return (parameter.name, .map place) :: (← bindRest surplus others)
    | _ => bindRest surplus others

/-- What the parameters of a function are bound to in a call with arguments by position. -/
def bindArguments (name : String) (bindables : List Bindable) (arguments : List Value) :
    Run (List (String × Value)) := do
  let positional := bindables.filter fun bindable => bindable.1.isPositional
  let behind := positional.drop arguments.length
  let named := bindables.filter fun bindable => bindable.1.kind = .namedOnly
  let takesAll := bindables.any fun bindable => bindable.1.kind = .rest
  let missing := behind.filter fun bindable => bindable.2.isNone
  let missingNamed := named.filter fun bindable => bindable.2.isNone
  if positional.length < arguments.length && !takesAll then
    throw (tooMany name positional arguments.length)
  else if !missing.isEmpty then throw (tooFew name "positional" missing)
  else if !missingNamed.isEmpty then throw (tooFew name "keyword-only" missingNamed)
  else do
    let rest ← bindRest (arguments.drop positional.length) bindables
    return (positional.map fun bindable => bindable.1.name).zip arguments ++
      defaulted behind ++ defaulted named ++ rest

/-! ## Calls -/

/-- The new value of a constructor comes before its parameters. -/
def selfParameter : Parameter := { name := "self" }

/-- Call a value, where calls may be nested so deep. -/
def invoke (library : Library) (symbols : Entries Value) : Nat → Caller
  | 0, _, _ => throw (.fault .recursion "maximum recursion depth exceeded")
  | depth + 1, function, arguments => do
    let call := invoke library symbols depth
    match function with
    | .function _ name parameters defaults given body => do
      let locals ← bindArguments name (parameters.zip defaults) arguments
      body.evaluate { library, call, symbols, given, locals }
    | .constructor place name parameters defaults => do
      let value := .member (← newObject (.attributes [])) name place
      let bindables := (selfParameter, none) :: parameters.zip defaults
      let _ ← bindArguments (name ++ ".__init__") bindables (value :: arguments)
      return value
    | .fault kind => return .exception (← newObject (.attributes [])) kind arguments
    | .given name parameters =>
      if name = Surface.printName then do
        let texts ← ({ library, call, symbols } : Scope).texts arguments
        modify fun memory => memory.print (" ".intercalate texts)
        return .null
      else library.call call (.given name parameters) arguments
    | other => library.call call other arguments

/-- What the expressions at the top level are evaluated with. -/
def Scope.top (library : Library) (symbols : Entries Value) : Scope where
  library
  call := invoke library symbols library.depth
  symbols

end ServiceLevel.Source
