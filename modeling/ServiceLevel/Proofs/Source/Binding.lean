import ServiceLevel.Proofs.Source.Importing

/-!
# What statements bind

The symbols of a sandbox are bound by assignments, imports and definitions, and whatever binds
a symbol again replaces its value.  Here is said which names a statement binds and which values
it gives them, and that it leaves all other symbols alone.  From this a run is described by its
end: a symbol has the value that the last statement that binds it gave it.

The names of one import are bound one after another as well, so the last one counts there too.
-/

namespace ServiceLevel.Source

variable {α : Type}

/-! ## Bindings in a row -/

/-- A kind of items that are carried out one after another and bind names. -/
structure Binding (α : Type) where
  run : α → ExceptT Failure (StateM Sandbox) Unit
  /-- The names that an item binds. -/
  names : α → List String
  /-- The value that an item gives to a name in a sandbox. -/
  Gives : Sandbox → α → String → Value → Prop

namespace Binding

variable {binding : Binding α}

/-- The last of some items that binds a name, where it is reached, gives it a value. -/
inductive Last (binding : Binding α) (before : Sandbox) :
    List α → String → Value → Prop
  | intro {front back : List α} {item : α} {between : Sandbox} {name : String} {value : Value}
      (reached : front.forM binding.run before = (.ok (), between))
      (named : name ∈ binding.names item)
      (given : binding.Gives between item name value)
      (last : ∀ later ∈ back, name ∉ binding.names later) :
      Last binding before (front ++ item :: back) name value

/-- What an item does to one name: it binds it, or it leaves it alone. -/
inductive Treats (binding : Binding α) (before : Sandbox) (item : α) (after : Sandbox)
    (name : String) : Prop
  | bound {value : Value}
      (named : name ∈ binding.names item)
      (given : binding.Gives before item name value)
      (found : after.symbols.get? name = some value)
  | kept
      (unnamed : name ∉ binding.names item)
      (same : after.symbols.get? name = before.symbols.get? name)

/-- Items bind the names that they are said to bind, and leave all other symbols alone. -/
def IsFaithful (binding : Binding α) : Prop :=
  ∀ ⦃item : α⦄ ⦃before after : Sandbox⦄,
    binding.run item before = (.ok (), after) →
      ∀ name, binding.Treats before item after name

theorem Last.cons
    {before between : Sandbox}
    {item : α}
    {rest : List α}
    {name : String}
    {value : Value}
    (ran : binding.run item before = (.ok (), between))
    (last : binding.Last between rest name value) :
    binding.Last before (item :: rest) name value := by
  cases last with
  | intro reached named given last =>
      exact
        List.cons_append ▸
          .intro (forM_cons_eq_ok_iff.mpr ⟨between, ran, reached⟩) named given last

/-- After items a name has the value that the last one that binds it gave it, or its old one. -/
theorem IsFaithful.get?_forM
    (faithful : binding.IsFaithful)
    {items : List α}
    {before after : Sandbox}
    (ran : items.forM binding.run before = (.ok (), after))
    (name : String) :
    (∃ value,
        binding.Last before items name value ∧ after.symbols.get? name = some value) ∨
      (∀ item ∈ items, name ∉ binding.names item) ∧
        after.symbols.get? name = before.symbols.get? name := by
  induction items generalizing before with
  | nil =>
      rw [forM_nil_eq_ok_iff] at ran
      rw [ran]
      exact Or.inr ⟨fun _ impossible => (List.not_mem_nil impossible).elim, rfl⟩
  | cons item rest ih =>
      obtain ⟨between, here, others⟩ := forM_cons_eq_ok_iff.mp ran
      -- A later item wins, so this one is looked at only if no later one binds the name.
      rcases ih others with ⟨value, last, found⟩ | ⟨unbound, same⟩
      · exact Or.inl ⟨value, last.cons here, found⟩
      rcases faithful here name with ⟨named, given, found⟩ | ⟨unnamed, unchanged⟩
      · have last : binding.Last before ([] ++ item :: rest) name _ :=
          .intro rfl named given unbound
        exact Or.inl ⟨_, last, same.trans found⟩
      · refine Or.inr ⟨?_, same.trans unchanged⟩
        rintro other (_ | ⟨_, member⟩)
        · exact unnamed
        · exact unbound other member

theorem treats_put
    {before after : Sandbox}
    {item : α}
    {bound : String}
    {value : Value}
    (bindsOne : binding.names item = [bound])
    (given : binding.Gives before item bound value)
    (put : after.symbols = before.symbols.put bound value)
    (name : String) :
    binding.Treats before item after name := by
  have found := congrArg (·.get? name) put
  simp only [Entries.get?_put] at found
  by_cases isBound : name = bound
  · subst isBound
    rw [if_pos rfl] at found
    refine .bound ?_ given found
    rw [bindsOne]
    exact List.mem_singleton_self name
  · rw [if_neg isBound] at found
    refine .kept ?_ found
    rw [bindsOne]
    exact fun member => isBound (List.mem_singleton.mp member)

theorem treats_same
    {before after : Sandbox}
    {item : α}
    (bindsNone : binding.names item = [])
    (same : after.symbols = before.symbols)
    (name : String) :
    binding.Treats before item after name := by
  refine .kept ?_ (congrArg (·.get? name) same)
  rw [bindsNone]
  exact List.not_mem_nil

/-- An item that carries out others binds what they bind, the last one of a name counting. -/
theorem IsFaithful.treats_forM
    {β : Type}
    {outer : Binding β}
    (faithful : binding.IsFaithful)
    {items : List α}
    {item : β}
    {before after : Sandbox}
    {name : String}
    (ran : items.forM binding.run before = (.ok (), after))
    (bindsAll : outer.names item = items.flatMap binding.names)
    (gives :
      ∀ {value : Value},
        binding.Last before items name value → outer.Gives before item name value) :
    outer.Treats before item after name := by
  rcases faithful.get?_forM ran name with ⟨value, last, found⟩ | ⟨unbound, same⟩
  · refine .bound ?_ (gives last) found
    rw [bindsAll]
    cases last with
    | intro reached named given last =>
        exact List.mem_flatMap.mpr ⟨_, List.mem_append_cons_self, named⟩
  · refine .kept ?_ same
    rw [bindsAll]
    intro member
    obtain ⟨other, isItem, named⟩ := List.mem_flatMap.mp member
    exact unbound other isItem named

end Binding

/-! ## Assignments -/

theorem symbols_of_evaluating
    {library : Library}
    {code : Scope → Run α}
    {before after : Sandbox}
    {value : α}
    (ran : evaluating library code before = (.ok value, after)) :
    after.symbols = before.symbols := by
  obtain ⟨memory, _, rfl⟩ := evaluating_eq_ok_iff.mp ran
  rfl

theorem length_of_spread
    {count : Nat}
    {items values : List Value}
    (isSpread : spread count items = .ok values) :
    values.length = count := by
  rw [spread] at isSpread
  split at isSpread
  · cases isSpread
  · split at isSpread
    · cases isSpread
    · cases isSpread
      omega

theorem length_of_liftExcept_spread
    {count : Nat}
    {items values : List Value}
    {before after : Memory}
    (ran : (liftExcept (spread count items) : Run (List Value)) before = (.ok values, after)) :
    values.length = count :=
  length_of_spread (liftExcept_eq_ok_iff.mp ran).1

/-- Unpacking gives as many items as are asked for. -/
theorem Scope.length_of_unpack
    {scope : Scope}
    {count : Nat}
    {whole : Value}
    {values : List Value}
    {before after : Memory}
    (ran : scope.unpack count whole before = (.ok values, after)) :
    values.length = count := by
  unfold unpack at ran
  split at ran
  · obtain ⟨_, _, _, lifted⟩ := bind_eq_ok_iff.mp ran
    exact length_of_liftExcept_spread lifted
  · obtain ⟨_, _, _, lifted⟩ := bind_eq_ok_iff.mp ran
    exact length_of_liftExcept_spread lifted
  · obtain ⟨_, _, _, lifted⟩ := bind_eq_ok_iff.mp ran
    exact length_of_liftExcept_spread lifted
  · exact length_of_liftExcept_spread ran
  · obtain ⟨_, _, _, lifted⟩ := bind_eq_ok_iff.mp ran
    exact length_of_liftExcept_spread lifted

mutual

/-- The names that an assignment to an expression binds. -/
def Expression.targetNames : Expression → List String
  | .name id => [id]
  | .list targets => targetNamesOfAll targets
  | _ => []

/-- The names that assignments to expressions bind. -/
def targetNamesOfAll : List Expression → List String
  | [] => []
  | target :: targets => target.targetNames ++ targetNamesOfAll targets

end

mutual

/-- The value that a name gets when a value is assigned to an expression: the value itself, or
what a part of a list gets of its items. -/
inductive Hands (library : Library) : Sandbox → Expression → Value → String → Value → Prop
  | name (before : Sandbox) (id : String) (value : Value) :
      Hands library before (.name id) value id value
  | list {before between : Sandbox} {targets : List Expression} {whole value : Value}
      {values : List Value} {name : String}
      (unpacked :
        evaluating library (fun scope => scope.unpack targets.length whole) before =
          (.ok values, between))
      (last : HandsAll library between targets values name value) :
      Hands library before (.list targets) whole name value

/-- The value that a name gets when values are assigned to expressions one after another: the
last one that is assigned to it. -/
inductive HandsAll (library : Library) :
    Sandbox → List Expression → List Value → String → Value → Prop
  | here {before : Sandbox} {target : Expression} {targets : List Expression}
      {given value : Value} {name : String}
      (values : List Value)
      (handed : Hands library before target given name value)
      (last : name ∉ targetNamesOfAll targets) :
      HandsAll library before (target :: targets) (given :: values) name value
  | later {before between : Sandbox} {target : Expression} {targets : List Expression}
      {given value : Value} {values : List Value} {name : String}
      (assigned : target.assign library given before = (.ok (), between))
      (handed : HandsAll library between targets values name value) :
      HandsAll library before (target :: targets) (given :: values) name value

end

/-- Assignments of one value. -/
def assignment (library : Library) : Binding (Expression × Value) where
  run item := item.1.assign library item.2
  names item := item.1.targetNames
  Gives before item := Hands library before item.1 item.2

/-- Assignments of several values, one after another. -/
def assignments (library : Library) : Binding (List Expression × List Value) where
  run item := assignAll library item.1 item.2
  names item := targetNamesOfAll item.1
  Gives before item := HandsAll library before item.1 item.2

mutual

/-- An assignment binds the names in its target, and leaves all other symbols alone. -/
theorem treats_assign (library : Library) :
    (target : Expression) →
      {value : Value} → {before after : Sandbox} →
      target.assign library value before = (.ok (), after) →
      (name : String) →
      (assignment library).Treats before (target, value) after name
  | .name id, value, before, after, ran, name => by
      rw [Expression.assign, modify_eq_ok_iff] at ran
      have given : (assignment library).Gives before (.name id, value) id value :=
        Hands.name before id value
      rw [ran]
      exact Binding.treats_put rfl given rfl name
  | .attribute holder member, value, before, after, ran, name => by
      rw [Expression.assign] at ran
      exact Binding.treats_same rfl (symbols_of_evaluating ran) name
  | .index holder key, value, before, after, ran, name => by
      rw [Expression.assign] at ran
      exact Binding.treats_same rfl (symbols_of_evaluating ran) name
  | .list targets, value, before, after, ran, name => by
      rw [Expression.assign] at ran
      obtain ⟨values, between, unpacked, assigned⟩ := bind_eq_ok_iff.mp ran
      have sameLength : values.length = targets.length := by
        obtain ⟨_, done, _⟩ := evaluating_eq_ok_iff.mp unpacked
        exact Scope.length_of_unpack done
      have sameSymbols := congrArg (·.get? name) (symbols_of_evaluating unpacked)
      rcases treats_assignAll library targets sameLength assigned name with
        ⟨named, handed, found⟩ | ⟨unnamed, same⟩
      · exact .bound named (Hands.list unpacked handed) found
      · exact .kept unnamed (same.trans sameSymbols)
  | .constant _, value, before, after, ran, name => by
      rw [Expression.assign] at ran
      exact Binding.treats_same rfl (congrArg Sandbox.symbols (pure_eq_ok_iff.mp ran).2) name
  | .call _ _, value, before, after, ran, name => by
      rw [Expression.assign] at ran
      exact Binding.treats_same rfl (congrArg Sandbox.symbols (pure_eq_ok_iff.mp ran).2) name

/-- Assignments one after another bind the names in their targets, the last one counting. -/
theorem treats_assignAll (library : Library) :
    (targets : List Expression) →
      {values : List Value} → values.length = targets.length →
      {before after : Sandbox} →
      assignAll library targets values before = (.ok (), after) →
      (name : String) →
      (assignments library).Treats before (targets, values) after name
  | [], values, _, before, after, ran, name => by
      rw [assignAll] at ran
      exact Binding.treats_same rfl (congrArg Sandbox.symbols (pure_eq_ok_iff.mp ran).2) name
  | target :: targets, [], sameLength, before, after, ran, name => by cases sameLength
  | target :: targets, value :: values, sameLength, before, after, ran, name => by
      rw [assignAll] at ran
      obtain ⟨_, between, assigned, others⟩ := bind_eq_ok_iff.mp ran
      rcases treats_assignAll library targets (Nat.succ.inj sameLength) others name with
        ⟨named, handed, found⟩ | ⟨unnamed, same⟩
      · exact
          .bound (List.mem_append_right target.targetNames named) (HandsAll.later assigned handed)
            found
      rcases treats_assign library target assigned name with
        ⟨named, handed, found⟩ | ⟨unnamedHere, sameHere⟩
      · exact
          .bound (List.mem_append_left (targetNamesOfAll targets) named)
            (HandsAll.here values handed unnamed) (same.trans found)
      · refine .kept ?_ (same.trans sameHere)
        show name ∉ target.targetNames ++ targetNamesOfAll targets
        rw [List.mem_append, not_or]
        exact ⟨unnamedHere, unnamed⟩

end

/-! ## Imports -/

/-- An import that names nothing of a module gives the package of the module. -/
theorem resolve_eq_ok
    {sandbox : Sandbox}
    {path top : String}
    {names : List String}
    {level : Nat}
    (resolved : sandbox.resolve path names level = .ok top) :
    top = if names.isEmpty then Sandbox.topPackage path else path := by
  rw [Sandbox.resolve] at resolved
  split at resolved
  · cases resolved
  split at resolved
  · cases resolved
  dsimp only at resolved
  split at resolved
  · cases resolved
  split at resolved
  · cases resolved
    rename_i isEmpty
    rw [if_pos isEmpty]
  · cases resolved
    rename_i someNames
    rw [if_neg someNames]

namespace ImportedName

/-- An import of a module gives its package, or under another name the module itself. -/
inductive GivesModule (library : Library) (sandbox : Sandbox) :
    ImportedName → String → Value → Prop
  | package (path : String) :
      GivesModule library sandbox ⟨path, none⟩ (Sandbox.topPackage path)
        (.module (Sandbox.topPackage path))
  | renamed {path given : String} {value : Value} {between : Sandbox}
      (reached :
        evaluating library
          (fun scope =>
            scope.attributesOf (.module (Sandbox.topPackage path))
              ((pathNames path.toList).tail.map String.ofList))
          sandbox = (.ok value, between)) :
      GivesModule library sandbox ⟨path, some given⟩ given value

/-- An import of a name gives what the module has under it. -/
inductive GivesName (path : String) (sandbox : Sandbox) : ImportedName → String → Value → Prop
  | intro {imported : ImportedName} {value : Value}
      (found : sandbox.attribute? path imported.name = some value) :
      GivesName path sandbox imported (imported.renamed.getD imported.name) value

/-- Imports of modules, each of which binds one name. -/
def moduleBinding (library : Library) : Binding ImportedName where
  run := importModule library
  names imported := [imported.renamed.getD (Sandbox.topPackage imported.name)]
  Gives := GivesModule library

/-- Imports of names of a module, each of which binds one name. -/
def nameBinding (path : String) : Binding ImportedName where
  run := importFrom path
  names imported := [imported.renamed.getD imported.name]
  Gives := GivesName path

theorem importModule_eq_ok
    {library : Library}
    {imported : ImportedName}
    {before after : Sandbox}
    (ran : imported.importModule library before = (.ok (), after)) :
    ∃ value,
      imported.GivesModule library before
          (imported.renamed.getD (Sandbox.topPackage imported.name)) value ∧
        after.symbols = before.symbols.put
          (imported.renamed.getD (Sandbox.topPackage imported.name)) value := by
  obtain ⟨path, renamed⟩ := imported
  obtain ⟨_, _, got, continued⟩ := bind_eq_ok_iff.mp ran
  obtain ⟨rfl, rfl⟩ := get_eq_ok_iff.mp got
  obtain ⟨top, _, lifted, defined⟩ := bind_eq_ok_iff.mp continued
  obtain ⟨resolved, rfl⟩ := liftExcept_eq_ok_iff.mp lifted
  have isTop : top = Sandbox.topPackage path := resolve_eq_ok resolved
  subst isTop
  cases renamed with
  | none =>
      rw [modify_eq_ok_iff.mp defined]
      exact ⟨_, .package path, rfl⟩
  | some given =>
      obtain ⟨value, between, reached, bound⟩ := bind_eq_ok_iff.mp defined
      rw [modify_eq_ok_iff.mp bound, ← symbols_of_evaluating reached]
      exact ⟨value, .renamed reached, rfl⟩

theorem moduleBinding_isFaithful (library : Library) : (moduleBinding library).IsFaithful := by
  intro imported before after ran
  obtain ⟨value, given, bound⟩ := importModule_eq_ok ran
  exact Binding.treats_put rfl given bound

theorem nameBinding_isFaithful (path : String) : (nameBinding path).IsFaithful := by
  intro imported before after ran
  obtain ⟨value, found, rfl⟩ := importFrom_eq_ok_iff.mp ran
  exact Binding.treats_put rfl (.intro found) rfl

end ImportedName

/-! ## Statements -/

namespace Statement

/-- The names that a statement binds. -/
def boundNames : Statement → List String
  | .assign target _ => target.targetNames
  | .importModules modules =>
      modules.flatMap fun imported =>
        [imported.renamed.getD (Sandbox.topPackage imported.name)]
  | .importNames _ path names => names.flatMap (ImportedName.nameBinding path).names
  | .function name _ _ | .classOf name _ => [name]
  | _ => []

/-- The values that a statement gives to the names that it binds. -/
inductive Gives (library : Library) (before : Sandbox) : Statement → String → Value → Prop
  | assigned {target expression : Expression} {whole value : Value} {between : Sandbox}
      {name : String}
      (evaluated : evaluating library expression.evaluate before = (.ok whole, between))
      (handed : Hands library between target whole name value) :
      Gives library before (.assign target expression) name value
  | modules {modules : List ImportedName} {name : String} {value : Value}
      (last : (ImportedName.moduleBinding library).Last before modules name value) :
      Gives library before (.importModules modules) name value
  | names {level : Nat} {path : String} {names : List ImportedName} {name : String}
      {value : Value}
      (last : (ImportedName.nameBinding path).Last before names name value) :
      Gives library before (.importNames level path names) name value
  | function {name : String} {parameters : List Parameter} {body : Body} {value : Value}
      {between : Sandbox}
      (made :
        evaluating library (fun _ => makeFunction name parameters before.given? body) before =
          (.ok value, between)) :
      Gives library before (.function name parameters body) name value
  | classOf {name : String} {parameters : List Parameter} {value : Value} {between : Sandbox}
      (made : evaluating library (fun _ => makeClass name parameters) before =
        (.ok value, between)) :
      Gives library before (.classOf name parameters) name value

/-- The statements of a source, which bind names one after another. -/
def binding (library : Library) : Binding Statement where
  run := Statement.run library
  names := boundNames
  Gives := Gives library

/-- One statement: it binds its names, and leaves all other symbols alone. -/
theorem binding_isFaithful (library : Library) : (binding library).IsFaithful := by
  intro statement before after ran name
  match statement with
  | .comment _ | .malformed _ =>
      exact Binding.treats_same rfl (congrArg Sandbox.symbols (pure_eq_ok_iff.mp ran).2) name
  | .evaluate value =>
      obtain ⟨_, _, evaluated, ended⟩ := bind_eq_ok_iff.mp ran
      rw [(pure_eq_ok_iff.mp ended).2]
      exact Binding.treats_same rfl (symbols_of_evaluating evaluated) name
  | .raise fault message =>
      obtain ⟨_, _, raised, ended⟩ := bind_eq_ok_iff.mp ran
      rw [(pure_eq_ok_iff.mp ended).2]
      exact Binding.treats_same rfl (symbols_of_evaluating raised) name
  | .function bound parameters body =>
      obtain ⟨_, _, got, continued⟩ := bind_eq_ok_iff.mp ran
      obtain ⟨rfl, rfl⟩ := get_eq_ok_iff.mp got
      obtain ⟨value, between, made, defined⟩ := bind_eq_ok_iff.mp continued
      refine Binding.treats_put rfl (Gives.function made) ?_ name
      rw [modify_eq_ok_iff.mp defined, ← symbols_of_evaluating made]
      rfl
  | .classOf bound parameters =>
      obtain ⟨value, between, made, defined⟩ := bind_eq_ok_iff.mp ran
      refine Binding.treats_put rfl (Gives.classOf made) ?_ name
      rw [modify_eq_ok_iff.mp defined, ← symbols_of_evaluating made]
      rfl
  | .assign target expression =>
      obtain ⟨whole, between, evaluated, assigned⟩ := bind_eq_ok_iff.mp ran
      have sameSymbols := congrArg (·.get? name) (symbols_of_evaluating evaluated)
      rcases treats_assign library target assigned name with
        ⟨named, handed, found⟩ | ⟨unnamed, same⟩
      · exact .bound named (Gives.assigned evaluated handed) found
      · exact .kept unnamed (same.trans sameSymbols)
  | .importModules modules =>
      exact (ImportedName.moduleBinding_isFaithful library).treats_forM ran rfl .modules
  | .importNames level path names =>
      obtain ⟨_, _, got, continued⟩ := bind_eq_ok_iff.mp ran
      obtain ⟨rfl, rfl⟩ := get_eq_ok_iff.mp got
      obtain ⟨found, _, lifted, others⟩ := bind_eq_ok_iff.mp continued
      obtain ⟨resolved, rfl⟩ := liftExcept_eq_ok_iff.mp lifted
      have isFound := resolve_eq_ok resolved
      cases names with
      | nil =>
          have same := congrArg Sandbox.symbols (forM_nil_eq_ok_iff.mp others)
          exact Binding.treats_same rfl same name
      | cons first rest =>
          have isPath : found = path := isFound
          subst isPath
          exact (ImportedName.nameBinding_isFaithful found).treats_forM others rfl .names

end Statement

/-! ## Sources -/

/--
A symbol that statements have defined has the value that the last of them that binds it gave it.
-/
theorem last_of_get?_runAll
    {library : Library}
    {statements : List Statement}
    {before after : Sandbox}
    (ran : runAll library statements before = (.ok (), after))
    {name : String}
    (isNew : before.symbols.get? name = none)
    {value : Value}
    (found : after.symbols.get? name = some value) :
    (Statement.binding library).Last before statements name value := by
  rcases (Statement.binding_isFaithful library).get?_forM ran name with
    ⟨other, last, same⟩ | ⟨_, same⟩
  · rw [found] at same
    cases same
    exact last
  · rw [found, isNew] at same
    cases same

end ServiceLevel.Source
