import ServiceLevel.Source.Basic

/-!
# Well-formed sources

Which trees are sources at all: every statement is one, only names, attributes,
items and lists of them are assigned to, every import imports something, and the
parameters of a function stand in order.
-/

namespace ServiceLevel.Source

mutual

/-- Whether an expression can be assigned to. -/
def Expression.isTarget : Expression → Bool
  | .name _ | .attribute .. | .index .. => true
  | .list items => areTargets items
  | .constant _ | .call .. => false

/-- Whether each of some expressions can be assigned to. -/
def areTargets : List Expression → Bool
  | [] => true
  | item :: rest => item.isTarget && areTargets rest

end

/-- Whether one parameter may stand before another one. -/
def Parameter.mayPrecede (first second : Parameter) : Bool :=
  match first.kind, second.kind with
  | .namedRest, _ | .rest, .rest | .namedOnly, .rest => false
  | .positionalOnly, .positionalOnly | .positionalOnly, .positional
  | .positional, .positionalOnly | .positional, .positional =>
    first.default.isNone || second.default.isSome
  | _, _ => true

/-- Whether the parameters of a function stand in an order that they may have. -/
def areOrdered : List Parameter → Bool
  | [] => true
  | first :: rest => rest.all first.mayPrecede && areOrdered rest

/-- Whether no two parameters have the same name. -/
def areDistinct (parameters : List Parameter) : Bool :=
  decide (parameters.map Parameter.name).Nodup

/-- The parameters of a statement that defines a function. -/
def Statement.parameters : Statement → List Parameter
  | .function _ parameters _ => parameters
  | .classOf _ parameters => { name := "self" } :: parameters
  | _ => []

/-- Whether a statement is one. -/
def Statement.isWellFormed : Statement → Bool
  | .malformed _ => false
  | .assign target _ => target.isTarget
  | .importModules [] | .importNames _ _ [] => false
  | statement => areOrdered statement.parameters

/-- Whether every statement of a source is one. -/
def isWellFormed (source : Source) : Bool :=
  source.statements.all Statement.isWellFormed

/-- Whether no function of a source has two parameters of the same name. -/
def hasDistinctParameters (source : Source) : Bool :=
  source.statements.all fun statement => areDistinct statement.parameters

end ServiceLevel.Source
