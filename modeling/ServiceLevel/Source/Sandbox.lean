import ServiceLevel.Source.Memory

/-!
# Sandboxes

A sandbox is what the source of one plugin runs in: its memory and the symbols it
has defined so far.  Nothing is shared between two sandboxes.
-/

namespace ServiceLevel.Source

/-- The state in which the source of a plugin runs. -/
structure Sandbox extends Memory where
  /-- The symbols at the top level. -/
  symbols : Entries Value
  deriving Repr

namespace Sandbox

/-- The sandbox of a module before its source runs. -/
def fresh (moduleName : String) : Sandbox where
  moduleName
  modules := .ofList (Surface.packages.map fun entry => (entry.1, .ofList entry.2))
  symbols := .ofList
    [(Surface.builtinsName, .record Surface.builtinsName []), ("__name__", .text moduleName)]

/-- Define a symbol. -/
def define (sandbox : Sandbox) (name : String) (value : Value) : Sandbox :=
  { sandbox with symbols := sandbox.symbols.put name value }

/-- The package that a dotted path begins with. -/
def topPackage (path : String) : String :=
  String.ofList (path.toList.takeWhile (· ≠ '.'))

/-- The module that an import gives: with names the module itself, which has to have them,
and without names the package that its path begins with. -/
def resolve (sandbox : Sandbox) (path : String) (names : List String) (level : Nat) :
    Except Failure String :=
  if level ≠ 0 then .error (.fault .importing "relative imports are not allowed")
  else if !Surface.importable path then
    .error (.fault .importing ("import of " ++ Text.quoted path ++ " is not allowed"))
  else
    let missing := names.filter fun name => (sandbox.attribute? path name).isNone
    if !missing.isEmpty then
      .error (.fault .importing
        ("cannot import " ++ ", ".intercalate missing ++ " from " ++ Text.quoted path))
    else if names.isEmpty then .ok (topPackage path)
    else .ok path

/-- The value of a symbol that the source has defined. -/
def lookup (sandbox : Sandbox) (name : String) : Except Failure Value :=
  match sandbox.symbols.get? name with
  | some value => .ok value
  | none =>
    .error (.pluginLoad
      ("symbol " ++ Text.quoted name ++ " not found in plugin " ++
        Text.quoted sandbox.moduleName))

@[simp]
theorem lookup_define (sandbox : Sandbox) (name : String) (value : Value) :
    (sandbox.define name value).lookup name = .ok value := by
  simp [lookup, define]

end Sandbox

end ServiceLevel.Source
