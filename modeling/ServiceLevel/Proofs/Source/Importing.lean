import Mathlib.Data.List.Basic
import ServiceLevel.Proofs.Entries
import ServiceLevel.Proofs.Source.Guarding
import ServiceLevel.Proofs.Source.Running
import ServiceLevel.Source.Standard

/-!
# What plugin code can import

Three tables decide about an import of a name from a module: the guard asks for the paths
of modules, the sandbox for the names of the module, and what is advertised is listed for
its own sake.  For the modules of a sandbox the last two agree, as the names of the package
are those of the modules in it.

The sandbox also finds the attributes that every module has.  None of them is advertised,
and the guard refuses them wherever an attribute is used; but it does not look at the names
of an import, so that they can be imported.
-/

namespace ServiceLevel.Source

/-! ## Paths -/

namespace Surface

theorem importable_iff {path : String} :
    importable path ↔ path ∈ packages.map Prod.fst :=
  List.contains_iff_mem

theorem inPackage?_eq_some_iff {path name : String} :
    inPackage? path = some name ↔ path = package ++ "." ++ name := by
  have joined :
      (package ++ "." ++ name).toList = (package ++ ".").toList ++ name.toList :=
    String.toList_append
  rw [inPackage?, ← String.toList_inj, joined]
  split
  · rename_i begins
    rcases List.isPrefixOf_iff_prefix.mp begins with ⟨rest, isSplit⟩
    rw [← isSplit, List.drop_left, Option.some.injEq, ← String.toList_inj,
      String.toList_ofList, List.append_cancel_left_eq]
  · rename_i others
    constructor
    · intro impossible
      cases impossible
    · intro isSplit
      rw [isSplit, List.isPrefixOf_iff_prefix] at others
      exact absurd (List.prefix_append _ _) others

/-- A path has one dot, behind the package, or none. -/
theorem dotted_of_mem_modules :
    ∀ entry ∈ modules,
      '.' ∉ entry.1.toList ∨ ∃ rest ∈ inPackage? entry.1, '.' ∉ rest.toList := by
  decide +kernel

theorem eq_of_joined_eq
    {front behind path name : String}
    (plainFront : '.' ∉ front.toList)
    (plainBehind : '.' ∉ behind.toList)
    (same : front ++ "." ++ behind = path ++ "." ++ name) :
    front = path ∧ behind = name := by
  have split :
      front.toList ++ '.' :: behind.toList = path.toList ++ '.' :: name.toList := by
    simpa [← String.toList_inj] using same
  have ⟨isFront, _, isBehind⟩ :=
    (List.append_cons_inj_of_notMem plainFront plainBehind).mp split
  exact ⟨String.toList_inj.mp isFront, String.toList_inj.mp isBehind⟩

/-- Only the package stands in front of a dot in the path of a module. -/
theorem importable_joined_iff {path name : String} :
    importable (path ++ "." ++ name) ↔
      path = package ∧ ∃ entry ∈ modules, inPackage? entry.1 = some name := by
  have noDot : '.' ∉ package.toList := by decide
  have dot : '.' ∈ (path ++ "." ++ name).toList := by simp
  rw [importable_iff, packages, List.map_append, List.mem_append, List.map_singleton,
    List.mem_singleton]
  constructor
  · rintro (isModule | isPackage)
    · rcases List.mem_map.mp isModule with ⟨entry, member, same⟩
      rcases dotted_of_mem_modules entry member with isPlain | ⟨rest, isInside, plain⟩
      · rw [same] at isPlain
        exact absurd dot isPlain
      · have joined := inPackage?_eq_some_iff.mp isInside
        rcases eq_of_joined_eq noDot plain (joined.symm.trans same) with ⟨rfl, rfl⟩
        exact ⟨rfl, entry, member, isInside⟩
    · rw [isPackage] at dot
      exact absurd dot noDot
  · rintro ⟨rfl, entry, member, isInside⟩
    refine Or.inl (List.mem_map.mpr ⟨entry, member, ?_⟩)
    exact inPackage?_eq_some_iff.mp isInside

/-! ## Names -/

/-- A name that is advertised for a module. -/
def Exposes (path name : String) : Prop :=
  ∃ list, exposedBy path = .ok list ∧ name ∈ list

/-- A name that a module has in a sandbox whose source has not run. -/
def Has (path name : String) : Prop :=
  ∃ names, (path, names) ∈ packages ∧ name ∈ names.map Prod.fst

theorem exposedBy_eq_ok_iff
    {path : String}
    {list : List String} :
    exposedBy path = .ok list ↔ (path, list) ∈ exposed := by
  have distinct : (exposed.map Prod.fst).Nodup := by
    rw [exposed, List.map_cons, List.map_map]
    show ("builtins" :: modules.map Prod.fst).Nodup
    decide +kernel
  have found :
      (⟨exposed, distinct⟩ : Entries (List String)).get? path = some list ↔
        (path, list) ∈ exposed :=
    Entries.get?_eq_some_iff
  rw [exposedBy, ← found, Entries.get?]
  cases exposed.lookup path with
  | none => simp
  | some found => simp

theorem exposes_iff {path name : String} :
    Exposes path name ↔
      path = "builtins" ∧ name ∈ names.map Prod.fst ∨
        ∃ list, (path, list) ∈ modules ∧ name ∈ list.map Prod.fst := by
  simp only [Exposes, exposedBy_eq_ok_iff, exposed, List.mem_cons, Prod.mk.injEq]
  constructor
  · rintro ⟨_, ⟨rfl, rfl⟩ | isModule, isName⟩
    · exact Or.inl ⟨rfl, List.mem_mergeSort.mp isName⟩
    · rcases List.mem_map.mp isModule with ⟨entry, member, same⟩
      cases same
      exact Or.inr ⟨entry.2, member, List.mem_mergeSort.mp isName⟩
  · rintro (⟨rfl, isName⟩ | ⟨list, member, isName⟩)
    · exact ⟨_, Or.inl ⟨rfl, rfl⟩, List.mem_mergeSort.mpr isName⟩
    · exact
        ⟨_, Or.inr (List.mem_map.mpr ⟨(path, list), member, rfl⟩),
          List.mem_mergeSort.mpr isName⟩

/-- The names of the package are those of the modules in it. -/
theorem mem_names_package_iff {name : String} :
    name ∈
        (modules.filterMap fun entry =>
          (inPackage? entry.1).map fun name =>
            ((name, .module entry.1) : String × Value)).map Prod.fst ↔
      ∃ entry ∈ modules, inPackage? entry.1 = some name := by
  rw [List.mem_map]
  constructor
  · rintro ⟨pair, member, rfl⟩
    rcases List.mem_filterMap.mp member with ⟨entry, isEntry, made⟩
    rcases Option.map_eq_some_iff.mp made with ⟨name, isInside, rfl⟩
    exact ⟨entry, isEntry, isInside⟩
  · rintro ⟨entry, isEntry, isInside⟩
    refine
      ⟨(name, .module entry.1), List.mem_filterMap.mpr ⟨entry, isEntry, ?_⟩, rfl⟩
    rw [isInside]
    rfl

/-- What a module has is what is advertised for it, and the modules that are in it. -/
theorem has_iff
    {path name : String}
    (known : importable path) :
    Has path name ↔ Exposes path name ∨ importable (path ++ "." ++ name) := by
  have notBuiltins : path ≠ "builtins" := by
    rintro rfl
    exact absurd known (by decide)
  rw [exposes_iff, importable_joined_iff, ← mem_names_package_iff, Has, packages]
  constructor
  · rintro ⟨list, member, isName⟩
    rcases List.mem_append.mp member with isModule | isPackage
    · exact Or.inl (Or.inr ⟨list, isModule, isName⟩)
    · cases List.mem_singleton.mp isPackage
      exact Or.inr ⟨rfl, isName⟩
  · rintro ((⟨isBuiltins, _⟩ | ⟨list, isModule, isName⟩) | ⟨rfl, isName⟩)
    · exact absurd isBuiltins notBuiltins
    · exact ⟨list, List.mem_append_left _ isModule, isName⟩
    · exact ⟨_, List.mem_append_right _ (List.mem_singleton_self _), isName⟩

theorem not_has_wholesale (path : String) : ¬ Has path "*" := by
  have noStar : ∀ entry ∈ packages, "*" ∉ entry.2.map Prod.fst := by
    decide +kernel
  rintro ⟨names, isEntry, isName⟩
  exact noStar (path, names) isEntry isName

theorem head?_of_mem_attributes {path : String} :
    ∀ name ∈ (attributes path).map Prod.fst, name.toList.head? = some '_' := by
  show ∀ name ∈ (attributes package).map Prod.fst, name.toList.head? = some '_'
  decide +kernel

/-- The guard refuses the attributes that every module has wherever they are used. -/
theorem isHiddenAttribute_of_mem_attributes
    {path name : String}
    (member : name ∈ (attributes path).map Prod.fst) :
    isHiddenAttribute name := by
  rw [isHiddenAttribute, head?_of_mem_attributes name member]
  rfl

theorem isSome_lookup_attributes_iff {path name : String} :
    ((attributes path).lookup name).isSome ↔
      name ∈ (attributes path).map Prod.fst := by
  rw [← not_iff_not, Option.not_isSome_iff_eq_none, List.lookup_eq_none_iff,
    List.mem_map, not_exists]
  apply forall_congr'
  intro pair
  rw [not_and, bne_iff_ne, ne_comm]

end Surface

/-! ## Sandboxes -/

namespace Sandbox

theorem get?_modules_fresh_eq_some_iff
    {moduleName path : String}
    {found : Entries Value} :
    (fresh moduleName).modules.get? path = some found ↔
      ∃ names, (path, names) ∈ Surface.packages ∧ found = .ofList names := by
  have distinct :
      ((Surface.packages.map fun entry => (entry.1, Entries.ofList entry.2)).map
        Prod.fst).Nodup := by
    rw [List.map_map]
    show (Surface.packages.map Prod.fst).Nodup
    decide +kernel
  rw [fresh, Entries.get?_ofList_eq_some_iff distinct, List.mem_map]
  constructor
  · rintro ⟨⟨_, names⟩, member, same⟩
    cases same
    exact ⟨names, member, rfl⟩
  · rintro ⟨names, member, rfl⟩
    exact ⟨(path, names), member, rfl⟩

theorem isSome_attribute?_fresh_iff {moduleName path name : String} :
    ((fresh moduleName).attribute? path name).isSome ↔
      Surface.Has path name ∨ name ∈ (Surface.attributes path).map Prod.fst := by
  rw [Memory.attribute?, Option.isSome_or, Bool.or_eq_true]
  apply or_congr
  · rw [Option.isSome_bind, Option.any_eq_true]
    simp only [get?_modules_fresh_eq_some_iff, Entries.isSome_get?_iff, Surface.Has]
    constructor
    · rintro ⟨_, ⟨names, member, rfl⟩, isName⟩
      exact ⟨names, member, Entries.mem_keys_ofList.mp isName⟩
    · rintro ⟨names, member, isName⟩
      exact ⟨_, ⟨names, member, rfl⟩, Entries.mem_keys_ofList.mpr isName⟩
  · exact Surface.isSome_lookup_attributes_iff

theorem resolve_eq_ok_iff
    {sandbox : Sandbox}
    {path name top : String} :
    sandbox.resolve path [name] 0 = .ok top ↔
      Surface.importable path ∧
        (sandbox.attribute? path name).isSome ∧ top = path := by
  rw [resolve]
  cases Surface.importable path with
  | false => simp
  | true =>
    cases found : sandbox.attribute? path name with
    | none => simp [found]
    | some value => simp [found, eq_comm]

end Sandbox

/-! ## Imports -/

theorem Sandbox.imported_eq_ok_iff
    {sandbox : Sandbox}
    {path name : String}
    {value : Value} :
    sandbox.imported path name = .ok value ↔ sandbox.attribute? path name = some value := by
  rw [imported]
  cases sandbox.attribute? path name with
  | none => simp
  | some found => simp

theorem ImportedName.importFrom_eq_ok_iff
    {imported : ImportedName}
    {path : String}
    {before after : Sandbox} :
    imported.importFrom path before = (.ok (), after) ↔
      ∃ value,
        before.attribute? path imported.name = some value ∧
          after = before.define (imported.renamed.getD imported.name) value := by
  rw [importFrom]
  simp only [bind_eq_ok_iff, get_eq_ok_iff, liftExcept_eq_ok_iff, modify_eq_ok_iff,
    Sandbox.imported_eq_ok_iff]
  constructor
  · rintro ⟨_, _, ⟨rfl, rfl⟩, value, _, ⟨found, rfl⟩, rfl⟩
    exact ⟨value, found, rfl⟩
  · rintro ⟨value, found, rfl⟩
    exact ⟨before, before, ⟨rfl, rfl⟩, value, before, ⟨found, rfl⟩, rfl⟩

/-- The source that imports one name of a module, and does nothing else. -/
def importing (path : String) (imported : ImportedName) (lineEnd : LineEnd) : Source where
  statements := [.importNames 0 path [imported]]
  lineEnd

theorem runAll_importing_eq_ok_iff
    {library : Library}
    {path : String}
    {imported : ImportedName}
    {lineEnd : LineEnd}
    {before after : Sandbox} :
    runAll library (importing path imported lineEnd).statements before = (.ok (), after) ↔
      Surface.importable path ∧
        ∃ value,
          before.attribute? path imported.name = some value ∧
            after = before.define (imported.renamed.getD imported.name) value := by
  rw [importing, runAll]
  simp only [forM_cons_eq_ok_iff, forM_nil_eq_ok_iff, Statement.run, bind_eq_ok_iff,
    get_eq_ok_iff, liftExcept_eq_ok_iff, List.map_cons, List.map_nil,
    Sandbox.resolve_eq_ok_iff, ImportedName.importFrom_eq_ok_iff]
  constructor
  · rintro
      ⟨_, ⟨_, _, ⟨rfl, rfl⟩, _, _, ⟨⟨known, _, rfl⟩, rfl⟩, _, ⟨value, found, rfl⟩,
        rfl⟩, rfl⟩
    exact ⟨known, value, found, rfl⟩
  · rintro ⟨known, value, found, rfl⟩
    have isFound : (before.attribute? path imported.name).isSome := by
      rw [found]
      rfl
    exact
      ⟨_, ⟨before, before, ⟨rfl, rfl⟩, path, before,
        ⟨⟨known, isFound, rfl⟩, rfl⟩, _, ⟨value, found, rfl⟩, rfl⟩, rfl⟩

theorem guard_importing_eq_ok_iff
    {path : String}
    {imported : ImportedName}
    {lineEnd : LineEnd} :
    (importing path imported lineEnd).guard Surface.importable = .ok () ↔
      imported.name ≠ "*" ∧
        (Surface.importable (path ++ "." ++ imported.name) ∨
          Surface.importable path) := by
  rw [guard_eq_ok_iff, refusals_eq_nil_iff, importing, List.forall_mem_singleton,
    ← Statement.nameRefusals_eq_nil_iff, Statement.refusals]
  simp

theorem run_importing_eq_ok_iff
    {library : Library}
    {path : String}
    {imported : ImportedName}
    {lineEnd : LineEnd}
    {before after : Sandbox} :
    before.run library (importing path imported lineEnd) = (.ok (), after) ↔
      imported.name ≠ "*" ∧
        Surface.importable path ∧
        ∃ value,
          before.attribute? path imported.name = some value ∧
            after = before.define (imported.renamed.getD imported.name) value := by
  rw [Sandbox.run_eq_ok_iff, guard_importing_eq_ok_iff, runAll_importing_eq_ok_iff]
  constructor
  · rintro ⟨_, ⟨notAll, _⟩, _, known, bound⟩
    exact ⟨notAll, known, bound⟩
  · rintro ⟨notAll, known, bound⟩
    exact ⟨rfl, ⟨notAll, Or.inr known⟩, rfl, known, bound⟩

/--
An import of one name from a module ends well in a sandbox whose source has not run exactly
if the module is one of the sandbox's and the name is advertised for it, is that of a module
in it, or is an attribute that every module has.  The name, or the one that it is renamed
to, then stands for the value that the module has under it, and nothing else is changed.
That is so whatever else plugin code is given.  The attributes of the last kind are such that the
guard refuses them where they are used.
-/
theorem run_importing_fresh_iff
    (library : Library)
    (moduleName path : String)
    (imported : ImportedName)
    (lineEnd : LineEnd) :
    ((∃ after,
        (Sandbox.fresh moduleName).run library (importing path imported lineEnd) =
          (.ok (), after)) ↔
      Surface.importable path ∧
        (Surface.Exposes path imported.name ∨
          Surface.importable (path ++ "." ++ imported.name) ∨
          imported.name ∈ (Surface.attributes path).map Prod.fst)) ∧
      (∀ after,
        (Sandbox.fresh moduleName).run library (importing path imported lineEnd) =
            (.ok (), after) →
          ∃ value,
            (Sandbox.fresh moduleName).attribute? path imported.name = some value ∧
              after =
                (Sandbox.fresh moduleName).define
                  (imported.renamed.getD imported.name) value) ∧
      ∀ name ∈ (Surface.attributes path).map Prod.fst, isHiddenAttribute name := by
  refine ⟨?_, ?_, fun name => Surface.isHiddenAttribute_of_mem_attributes⟩
  · simp only [run_importing_eq_ok_iff]
    constructor
    · rintro ⟨_, _, known, value, found, _⟩
      refine ⟨known, ?_⟩
      have isFound :
          ((Sandbox.fresh moduleName).attribute? path imported.name).isSome := by
        rw [found]
        rfl
      rw [← or_assoc, ← Surface.has_iff known]
      exact Sandbox.isSome_attribute?_fresh_iff.mp isFound
    · rintro ⟨known, reachable⟩
      rw [← or_assoc, ← Surface.has_iff known] at reachable
      rcases Option.isSome_iff_exists.mp
          (Sandbox.isSome_attribute?_fresh_iff.mpr reachable) with
        ⟨value, found⟩
      refine ⟨_, ?_, known, value, found, rfl⟩
      intro all
      rw [all] at reachable
      rcases reachable with isName | isAttribute
      · exact Surface.not_has_wholesale path isName
      · exact absurd (Surface.head?_of_mem_attributes _ isAttribute) (by decide)
  · intro after ran
    exact (run_importing_eq_ok_iff.mp ran).2.2

theorem run_importing_fresh_iff_of_module_name :
    (∃ after,
      (Sandbox.fresh "test").run .standard (importing "re" ⟨"__name__", none⟩ .feed) =
        (.ok (), after)) ∧
      ¬ Surface.Exposes "re" "__name__" ∧
      Surface.importable ("re" ++ "." ++ "__name__") = false ∧
      Statement.refusals Surface.importable
          (.evaluate (.attribute (.name "re") "__name__")) =
        [.attribute "__name__"] := by
  have known : Surface.importable "re" := by decide +kernel
  have notInside : Surface.importable ("re" ++ "." ++ "__name__") = false := by
    decide +kernel
  have notListed :
      ∀ entry ∈ Surface.modules,
        entry.1 = "re" → "__name__" ∉ entry.2.map Prod.fst := by
    decide +kernel
  have ofTheorem := run_importing_fresh_iff .standard "test" "re" ⟨"__name__", none⟩ .feed
  refine ⟨ofTheorem.1.mpr ⟨known, Or.inr (Or.inr (by decide))⟩, ?_, notInside, ?_⟩
  · rw [Surface.exposes_iff]
    rintro (⟨isBuiltins, _⟩ | ⟨names, member, isName⟩)
    · exact absurd isBuiltins (by decide)
    · exact notListed _ member rfl isName
  · rfl

end ServiceLevel.Source
