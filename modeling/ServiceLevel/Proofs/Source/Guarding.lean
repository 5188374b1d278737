import Mathlib.Logic.Relation
import Mathlib.Tactic.ByContra
import Mathlib.Tactic.SplitIfs
import ServiceLevel.Source.Execution

/-!
# What the guard lets pass

The guard walks through a source and lists what the source may not do.  Here that is said
without the walk: which expressions stand in a statement, which stand in an expression at
any depth, which of them are forbidden for themselves, and which imports are.  The guard
lets a source pass exactly if nothing forbidden stands anywhere in it, be it in a function
that is never called.

A source that is refused has run no statement: the sandbox is what it was before.
-/

namespace ServiceLevel.Source

/-! ## Expressions -/

namespace Expression

/-- An expression that stands directly in another one. -/
inductive Part : Expression → Expression → Prop
  | holder (value : Expression) (name : String) : Part value (.attribute value name)
  | function (function : Expression) (arguments : List Expression) :
      Part function (.call function arguments)
  | argument {argument : Expression} {arguments : List Expression}
      (function : Expression) (member : argument ∈ arguments) :
      Part argument (.call function arguments)
  | collection (value key : Expression) : Part value (.index value key)
  | key (value key : Expression) : Part key (.index value key)
  | item {item : Expression} {items : List Expression} (member : item ∈ items) :
      Part item (.list items)

/-- An expression that is another one, or stands in it at any depth. -/
def Within (node outer : Expression) : Prop :=
  Relation.ReflTransGen Part node outer

/--
An expression that may not be used, whatever stands in it: an attribute that begins with a
line or leads to the host, and a name that begins with two lines.
-/
inductive Forbidden : Expression → Prop
  | hidden {name : String} {rest : List Char} (value : Expression)
      (begins : name.toList = '_' :: rest) :
      Forbidden (.attribute value name)
  | host {name : String} (value : Expression) (listed : name ∈ hostAttributes) :
      Forbidden (.attribute value name)
  | reserved {id : String} {rest : List Char}
      (begins : id.toList = '_' :: '_' :: rest) :
      Forbidden (.name id)

theorem forbidden_attribute_iff
    {value : Expression}
    {name : String} :
    (Expression.attribute value name).Forbidden ↔ isHiddenAttribute name := by
  rw [isHiddenAttribute, Bool.or_eq_true, decide_eq_true_eq, List.contains_iff_mem,
    List.head?_eq_some_iff]
  constructor
  · rintro (⟨_, begins⟩ | ⟨_, listed⟩)
    · exact Or.inl ⟨_, begins⟩
    · exact Or.inr listed
  · rintro (⟨rest, begins⟩ | listed)
    · exact .hidden value begins
    · exact .host value listed

theorem forbidden_name_iff {id : String} :
    (Expression.name id).Forbidden ↔ isHiddenName id := by
  rw [isHiddenName, List.isPrefixOf_iff_prefix]
  constructor
  · intro isForbidden
    cases isForbidden with
    | reserved begins => exact ⟨_, begins.symm⟩
  · rintro ⟨rest, begins⟩
    exact .reserved begins.symm

/-- An expression is passed if it is not forbidden itself and its parts are passed. -/
theorem refusals_eq_nil_iff {outer : Expression} :
    outer.refusals = [] ↔
      ¬ outer.Forbidden ∧
        ∀ part : Expression, part.Part outer → part.refusals = [] := by
  match outer with
  | .constant value =>
      refine iff_of_true rfl ⟨?_, ?_⟩
      · intro impossible
        cases impossible
      · intro part impossible
        cases impossible
  | .name id =>
      rw [forbidden_name_iff, refusals]
      constructor
      · intro passed
        refine ⟨by simpa using passed, ?_⟩
        intro part impossible
        cases impossible
      · rintro ⟨isOpen, _⟩
        rw [if_neg isOpen]
  | .attribute value hidden =>
      rw [forbidden_attribute_iff, refusals, List.append_eq_nil_iff]
      constructor
      · rintro ⟨isOpen, passed⟩
        refine ⟨by simpa using isOpen, ?_⟩
        rintro _ ⟨⟩
        exact passed
      · rintro ⟨isOpen, passed⟩
        rw [if_neg isOpen]
        exact ⟨rfl, passed value (.holder value hidden)⟩
  | .call function arguments =>
      rw [refusals, refusalsOfAll_eq_flatMap, List.append_eq_nil_iff,
        List.flatMap_eq_nil_iff]
      constructor
      · rintro ⟨ofFunction, ofArguments⟩
        refine ⟨(nomatch ·), ?_⟩
        rintro part (_ | _ | ⟨_, member⟩)
        · exact ofFunction
        · exact ofArguments part member
      · rintro ⟨_, passed⟩
        exact
          ⟨passed function (.function function arguments),
            fun argument member => passed argument (.argument function member)⟩
  | .index value key =>
      rw [refusals, List.append_eq_nil_iff]
      constructor
      · rintro ⟨ofValue, ofKey⟩
        refine ⟨(nomatch ·), ?_⟩
        rintro part (_ | _)
        · exact ofValue
        · exact ofKey
      · rintro ⟨_, passed⟩
        exact ⟨passed value (.collection value key), passed key (.key value key)⟩
  | .list items =>
      rw [refusals, refusalsOfAll_eq_flatMap, List.flatMap_eq_nil_iff]
      constructor
      · intro ofItems
        refine ⟨(nomatch ·), ?_⟩
        rintro part (_ | _ | _ | _ | _ | member)
        exact ofItems part member
      · rintro ⟨_, passed⟩
        exact fun item member => passed item (.item member)

theorem sizeOf_lt_of_part
    {part outer : Expression}
    (isPart : part.Part outer) :
    sizeOf part < sizeOf outer := by
  cases isPart with
  | holder value name =>
      rw [attribute.sizeOf_spec]
      omega
  | function function arguments =>
      rw [call.sizeOf_spec]
      omega
  | argument function member =>
      have inArguments := List.sizeOf_lt_of_mem member
      rw [call.sizeOf_spec]
      omega
  | collection value key =>
      rw [index.sizeOf_spec]
      omega
  | key value key =>
      rw [index.sizeOf_spec]
      omega
  | item member =>
      have inItems := List.sizeOf_lt_of_mem member
      rw [list.sizeOf_spec]
      omega

theorem wellFounded_part : WellFounded Part :=
  Subrelation.wf sizeOf_lt_of_part (measure sizeOf).wf

/-- The walk through an expression reaches whatever stands in it, at any depth. -/
theorem refusals_eq_nil_iff_within {outer : Expression} :
    outer.refusals = [] ↔
      ∀ node : Expression, node.Within outer → ¬ node.Forbidden := by
  constructor
  · intro passed node within
    have passedHere : node.refusals = [] := by
      induction within using Relation.ReflTransGen.head_induction_on with
      | refl => exact passed
      | head isPart _ ih => exact (refusals_eq_nil_iff.mp ih).2 _ isPart
    exact (refusals_eq_nil_iff.mp passedHere).1
  · intro free
    induction outer using wellFounded_part.induction with
    | _ outer ih =>
        refine refusals_eq_nil_iff.mpr ⟨free outer .refl, ?_⟩
        intro part isPart
        apply ih part isPart
        intro node within
        exact free node (within.tail isPart)

end Expression

/-! ## Statements -/

/-- An expression that stands in the body of a function. -/
inductive Body.Holds : Body → Expression → Prop
  | value (value : Expression) : Holds (.returns value) value
  | fault (fault message : String) : Holds (.raises fault message) (.name fault)

theorem Body.refusals_eq_nil_iff {body : Body} :
    body.refusals = [] ↔
      ∀ outer : Expression, body.Holds outer → outer.refusals = [] := by
  cases body with
  | returns value =>
      constructor
      · rintro passed _ ⟨⟩
        exact passed
      · intro passed
        exact passed value (.value value)
  | raises fault message =>
      constructor
      · rintro passed _ ⟨⟩
        exact passed
      · intro passed
        exact passed (.name fault) (.fault fault message)

namespace Statement

/-- An expression that stands in a statement, be it in the body of a function. -/
inductive Holds : Statement → Expression → Prop
  | target (target value : Expression) : Holds (.assign target value) target
  | assigned (target value : Expression) : Holds (.assign target value) value
  | evaluated (value : Expression) : Holds (.evaluate value) value
  | fault (fault message : String) : Holds (.raise fault message) (.name fault)
  | body {body : Body} {outer : Expression}
      (name : String) (parameters : List Parameter) (holds : body.Holds outer) :
      Holds (.function name parameters body) outer

/--
An import that is not allowed: one of a module that cannot be imported, a relative one, one
of all names, or one of a name that is no module in a module that cannot be imported.
-/
inductive Smuggles (importable : String → Bool) : Statement → Prop
  | module {modules : List ImportedName} {imported : ImportedName}
      (member : imported ∈ modules) (foreign : importable imported.name = false) :
      Smuggles importable (.importModules modules)
  | relative {level : Nat} (path : String) (names : List ImportedName)
      (climbs : level ≠ 0) :
      Smuggles importable (.importNames level path names)
  | wholesale {names : List ImportedName} {imported : ImportedName}
      (level : Nat) (path : String) (member : imported ∈ names)
      (all : imported.name = "*") :
      Smuggles importable (.importNames level path names)
  | name {path : String} {names : List ImportedName} {imported : ImportedName}
      (level : Nat) (member : imported ∈ names) (foreign : importable path = false)
      (notModule : importable (path ++ "." ++ imported.name) = false) :
      Smuggles importable (.importNames level path names)

/-- A statement in which nothing forbidden stands, at any depth. -/
structure Harmless (importable : String → Bool) (statement : Statement) : Prop where
  imports : ¬ statement.Smuggles importable
  expressions :
    ∀ outer : Expression,
      statement.Holds outer →
        ∀ node : Expression, node.Within outer → ¬ node.Forbidden

theorem nameRefusals_eq_nil_iff
    {importable : String → Bool}
    {path : String}
    {imported : ImportedName} :
    nameRefusals importable path imported = [] ↔
      imported.name ≠ "*" ∧
        (importable (path ++ "." ++ imported.name) ∨ importable path) := by
  rw [nameRefusals]
  split_ifs with isAll isAllowed
  · simp [isAll]
  · exact iff_of_true rfl ⟨isAll, Bool.or_eq_true_iff.mp isAllowed⟩
  · rw [Bool.or_eq_true] at isAllowed
    simp [isAllowed]

/-- The imports of a statement are passed exactly if none of them is smuggled. -/
theorem not_smuggles_importModules_iff
    {importable : String → Bool}
    {modules : List ImportedName} :
    ¬ (Statement.importModules modules).Smuggles importable ↔
      ∀ imported ∈ modules, importable imported.name := by
  constructor
  · intro clean imported member
    rw [← Bool.not_eq_false]
    intro foreign
    exact clean (.module member foreign)
  · rintro known ⟨member, foreign⟩
    rw [known _ member] at foreign
    cases foreign

theorem not_smuggles_importNames_iff
    {importable : String → Bool}
    {level : Nat}
    {path : String}
    {names : List ImportedName} :
    ¬ (Statement.importNames level path names).Smuggles importable ↔
      level = 0 ∧
        ∀ imported ∈ names, nameRefusals importable path imported = [] := by
  constructor
  · intro clean
    refine ⟨?_, ?_⟩
    · by_contra climbs
      exact clean (.relative path names climbs)
    · intro imported member
      refine nameRefusals_eq_nil_iff.mpr ⟨?_, ?_⟩
      · intro all
        exact clean (.wholesale level path member all)
      · by_contra notAllowed
        rw [not_or, Bool.not_eq_true, Bool.not_eq_true] at notAllowed
        exact clean (.name level member notAllowed.2 notAllowed.1)
  · rintro ⟨isHere, passed⟩ smuggles
    cases smuggles with
    | relative path names climbs => exact climbs isHere
    | wholesale level path member all =>
        exact (nameRefusals_eq_nil_iff.mp (passed _ member)).1 all
    | name level member foreign notModule =>
        have allowed := (nameRefusals_eq_nil_iff.mp (passed _ member)).2
        rw [foreign, notModule] at allowed
        simp at allowed

/-- A statement is passed if it smuggles nothing and its expressions are passed. -/
theorem refusals_eq_nil_iff
    {importable : String → Bool}
    {statement : Statement} :
    statement.refusals importable = [] ↔
      ¬ statement.Smuggles importable ∧
        ∀ outer : Expression, statement.Holds outer → outer.refusals = [] := by
  match statement with
  | .comment text => exact iff_of_true rfl ⟨(nomatch ·), fun _ => (nomatch ·)⟩
  | .malformed text => exact iff_of_true rfl ⟨(nomatch ·), fun _ => (nomatch ·)⟩
  | .classOf name parameters =>
      exact iff_of_true rfl ⟨(nomatch ·), fun _ => (nomatch ·)⟩
  | .assign target value =>
      rw [refusals, List.append_eq_nil_iff]
      constructor
      · rintro ⟨ofTarget, ofValue⟩
        refine ⟨(nomatch ·), ?_⟩
        rintro outer (_ | _)
        · exact ofTarget
        · exact ofValue
      · rintro ⟨_, passed⟩
        exact
          ⟨passed target (.target target value),
            passed value (.assigned target value)⟩
  | .evaluate value =>
      constructor
      · intro ofValue
        refine ⟨(nomatch ·), ?_⟩
        rintro outer ⟨⟩
        exact ofValue
      · rintro ⟨_, passed⟩
        exact passed value (.evaluated value)
  | .raise fault message =>
      constructor
      · intro ofFault
        refine ⟨(nomatch ·), ?_⟩
        rintro outer ⟨⟩
        exact ofFault
      · rintro ⟨_, passed⟩
        exact passed (.name fault) (.fault fault message)
  | .function name parameters body =>
      rw [refusals, Body.refusals_eq_nil_iff]
      constructor
      · intro ofBody
        refine ⟨(nomatch ·), ?_⟩
        intro outer holds
        cases holds with
        | body _ _ inBody => exact ofBody outer inBody
      · rintro ⟨_, passed⟩ outer holds
        exact passed outer (.body name parameters holds)
  | .importModules modules =>
      have noExpression :
          ∀ outer : Expression,
            (Statement.importModules modules).Holds outer → outer.refusals = [] :=
        fun _ => (nomatch ·)
      rw [refusals, List.flatMap_eq_nil_iff, not_smuggles_importModules_iff,
        and_iff_left noExpression]
      apply forall₂_congr
      intro imported _
      cases importable imported.name with
      | true => simp
      | false => simp
  | .importNames level path names =>
      have noExpression :
          ∀ outer : Expression,
            (Statement.importNames level path names).Holds outer →
              outer.refusals = [] :=
        fun _ => (nomatch ·)
      rw [refusals, not_smuggles_importNames_iff, and_iff_left noExpression]
      by_cases isHere : level = 0
      · simp [isHere, List.flatMap_eq_nil_iff]
      · simp [isHere]

/-- The walk through a statement misses nothing that stands in it. -/
theorem refusals_eq_nil_iff_harmless
    {importable : String → Bool}
    {statement : Statement} :
    statement.refusals importable = [] ↔ statement.Harmless importable := by
  rw [refusals_eq_nil_iff]
  constructor
  · rintro ⟨imports, passed⟩
    refine ⟨imports, ?_⟩
    intro outer holds
    exact Expression.refusals_eq_nil_iff_within.mp (passed outer holds)
  · rintro ⟨imports, free⟩
    refine ⟨imports, ?_⟩
    intro outer holds
    exact Expression.refusals_eq_nil_iff_within.mpr (free outer holds)

end Statement

/-! ## Sources -/

theorem refusals_eq_nil_iff
    {importable : String → Bool}
    {source : Source} :
    source.refusals importable = [] ↔
      ∀ statement ∈ source.statements, statement.refusals importable = [] := by
  rw [refusals, List.flatMap_eq_nil_iff, ← map_snd_numbered source,
    List.forall_mem_map]
  simp only [List.map_eq_nil_iff]

/-- A source that the guard refuses, or that is none, leaves the sandbox as it was. -/
theorem Sandbox.run_of_guard_eq_error
    {source : Source}
    {refused : Failure}
    (isRefused : source.guard Surface.importable = .error refused)
    (library : Library)
    (sandbox : Sandbox) :
    sandbox.run library source =
      (.error (if source.isWellFormed then refused else malformedSource),
        sandbox) := by
  rw [run, isRefused]
  cases source.isWellFormed with
  | true => rfl
  | false => rfl

/--
The guard is complete and exact: it lets a source pass exactly if every statement is
harmless, which is to say that nothing forbidden is imported by one or stands in one at any
depth.  A source that it refuses runs in no sandbox, whatever it is given: the run ends with
the failure of the guard, or with that of a source that is none, and leaves the sandbox as it
was.
-/
theorem guard_complete_and_exact (source : Source) :
    (∀ importable : String → Bool,
      source.guard importable = .ok () ↔
        ∀ statement ∈ source.statements, statement.Harmless importable) ∧
      ∀ refused,
        source.guard Surface.importable = .error refused →
          ∀ (library : Library) (sandbox : Sandbox),
            sandbox.run library source =
              (.error (if source.isWellFormed then refused else malformedSource),
                sandbox) := by
  refine ⟨?_, ?_⟩
  · intro importable
    rw [guard_eq_ok_iff, refusals_eq_nil_iff]
    simp only [Statement.refusals_eq_nil_iff_harmless]
  · intro refused isRefused library sandbox
    exact Sandbox.run_of_guard_eq_error isRefused library sandbox

end ServiceLevel.Source
