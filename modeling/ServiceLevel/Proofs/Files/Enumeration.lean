import Mathlib.Data.List.Nodup
import Mathlib.Data.String.Basic
import Mathlib.Logic.Relation
import ServiceLevel.Repository.Scan

/-!
# The order of plugin files

A scan finds the plugin files below a root in an order of its own: those of a directory by their
names, then those of its subdirectories, one subdirectory after another by their names.  In a tree
where the entries of a directory have different names this order is strict, so that the files at
their paths determine the whole sequence.  The main statement is that a scan finds exactly the
plugin files of the tree, each once and in this order, and that it does not matter in which order
a directory lists its entries.
-/

namespace ServiceLevel

namespace FileTree

/-! ## What a tree holds -/

/-- What a tree has at a path. -/
inductive Holds : FileTree → List String → FileTree → Prop
  | here (tree : FileTree) : Holds tree [] tree
  | entry
      {entries : List (String × FileTree)}
      {name : String}
      {next found : FileTree}
      {path : List String}
      (isEntry : (name, next) ∈ entries)
      (holds : Holds next path found) :
      Holds (.directory entries) (name :: path) found

/-- The entries of a directory have different names, at every depth. -/
inductive HasDistinctNames : FileTree → Prop
  | file (content : FileContent) : HasDistinctNames (.file content)
  | special : HasDistinctNames .special
  | directory
      {entries : List (String × FileTree)}
      (names : (entries.map Prod.fst).Nodup)
      (inside : ∀ entry ∈ entries, HasDistinctNames entry.2) :
      HasDistinctNames (.directory entries)

/-- A path whose last name ends in `plugin.py`. -/
def IsPluginPath (path : List String) : Prop :=
  ∃ name ∈ path.getLast?, ∃ stem, name.toList = stem ++ "plugin.py".toList

theorem isPluginName_iff {name : String} :
    isPluginName name = true ↔ IsPluginPath [name] := by
  rw [isPluginName, List.isSuffixOf_iff_suffix]
  constructor
  · rintro ⟨stem, same⟩
    exact ⟨name, rfl, stem, same.symm⟩
  · rintro ⟨last, isLast, stem, same⟩
    cases isLast
    exact ⟨stem, same.symm⟩

theorem IsPluginPath.ne_nil
    {path : List String}
    (isPlugin : IsPluginPath path) :
    path ≠ [] := by
  rintro rfl
  obtain ⟨_, impossible, _⟩ := isPlugin
  cases impossible

theorem isPluginPath_cons
    {path : List String}
    (nonempty : path ≠ [])
    (name : String) :
    IsPluginPath (name :: path) ↔ IsPluginPath path := by
  obtain ⟨next, rest, rfl⟩ := List.exists_cons_of_ne_nil nonempty
  rw [IsPluginPath, List.getLast?_cons_cons]
  rfl

theorem holds_cons_iff
    {entries : List (String × FileTree)}
    {name : String}
    {path : List String}
    {found : FileTree} :
    Holds (.directory entries) (name :: path) found ↔
      ∃ next, (name, next) ∈ entries ∧ Holds next path found := by
  constructor
  · rintro (_ | ⟨isEntry, holds⟩)
    exact ⟨_, isEntry, holds⟩
  · rintro ⟨next, isEntry, holds⟩
    exact .entry isEntry holds

theorem holds_nil_iff
    {tree found : FileTree} :
    Holds tree [] found ↔ tree = found := by
  constructor
  · rintro ⟨⟩
    rfl
  · rintro rfl
    exact .here tree

/-! ## What is found -/

theorem mem_byName
    {α : Type}
    {list : List (String × α)}
    {item : String × α} :
    item ∈ byName list ↔ item ∈ list :=
  List.mem_mergeSort

theorem mem_ownPluginFiles
    {entries : List (String × FileTree)}
    {file : String × FileContent} :
    file ∈ ownPluginFiles entries ↔
      (file.1, .file file.2) ∈ entries ∧ isPluginName file.1 = true := by
  rw [ownPluginFiles, List.mem_filterMap]
  constructor
  · rintro ⟨⟨name, tree⟩, isEntry, isFile⟩
    cases tree with
    | file content =>
        simp only at isFile
        split at isFile
        · rename_i isPlugin
          cases isFile
          exact ⟨isEntry, isPlugin⟩
        · cases isFile
    | directory inner => cases isFile
    | special => cases isFile
  · rintro ⟨isEntry, isPlugin⟩
    exact ⟨_, isEntry, if_pos isPlugin⟩

theorem innerPluginFiles_eq (entries : List (String × FileTree)) :
    innerPluginFiles entries =
      (entries.filter fun entry => entry.2.isDirectory).map fun entry =>
        (entry.1, entry.2.pluginFiles) := by
  induction entries with
  | nil => rw [innerPluginFiles, List.filter_nil, List.map_nil]
  | cons entry rest ih =>
      obtain ⟨name, tree⟩ := entry
      cases tree with
      | file content => rw [innerPluginFiles, ih, List.filter_cons_of_neg Bool.false_ne_true]
      | special => rw [innerPluginFiles, ih, List.filter_cons_of_neg Bool.false_ne_true]
      | directory inner => rw [innerPluginFiles, ih, List.filter_cons_of_pos rfl, List.map_cons]

theorem mem_innerPluginFiles
    {entries : List (String × FileTree)}
    {inner : String × List (List String × FileContent)} :
    inner ∈ innerPluginFiles entries ↔
      ∃ tree, (inner.1, tree) ∈ entries ∧ tree.isDirectory = true ∧ inner.2 = tree.pluginFiles := by
  rw [innerPluginFiles_eq, List.mem_map]
  constructor
  · rintro ⟨⟨name, tree⟩, member, rfl⟩
    obtain ⟨isEntry, isDirectory⟩ := List.mem_filter.mp member
    exact ⟨tree, isEntry, isDirectory, rfl⟩
  · rintro ⟨tree, isEntry, isDirectory, same⟩
    exact ⟨(inner.1, tree), List.mem_filter.mpr ⟨isEntry, isDirectory⟩, by rw [← same]⟩

/-- The plugin files of a directory are its own ones and those of its subdirectories. -/
theorem mem_pluginFiles_directory
    {entries : List (String × FileTree)}
    {path : List String}
    {content : FileContent} :
    (path, content) ∈ (directory entries).pluginFiles ↔
      (∃ name,
        path = [name] ∧ (name, .file content) ∈ entries ∧ isPluginName name = true) ∨
      ∃ name tree rest,
        path = name :: rest ∧
          (name, tree) ∈ entries ∧
          tree.isDirectory = true ∧
          (rest, content) ∈ tree.pluginFiles := by
  rw [pluginFiles, List.mem_append, List.mem_map, List.mem_flatMap]
  constructor
  · rintro (⟨file, isOwn, same⟩ | ⟨inner, isInner, isThere⟩)
    · cases same
      obtain ⟨isEntry, isPlugin⟩ := mem_ownPluginFiles.mp (mem_byName.mp isOwn)
      exact Or.inl ⟨file.1, rfl, isEntry, isPlugin⟩
    · obtain ⟨tree, isEntry, isDirectory, isFiles⟩ :=
        mem_innerPluginFiles.mp (mem_byName.mp isInner)
      obtain ⟨file, isFile, same⟩ := List.mem_map.mp isThere
      cases same
      exact Or.inr ⟨inner.1, tree, file.1, rfl, isEntry, isDirectory, isFiles ▸ isFile⟩
  · rintro (⟨name, rfl, isEntry, isPlugin⟩ | ⟨name, tree, rest, rfl, isEntry, isDirectory, isFile⟩)
    · have isOwn : (name, content) ∈ ownPluginFiles entries :=
        mem_ownPluginFiles.mpr ⟨isEntry, isPlugin⟩
      exact Or.inl ⟨_, mem_byName.mpr isOwn, rfl⟩
    · have isInner : (name, tree.pluginFiles) ∈ innerPluginFiles entries :=
        mem_innerPluginFiles.mpr ⟨tree, isEntry, isDirectory, rfl⟩
      exact
        Or.inr
          ⟨_, mem_byName.mpr isInner, List.mem_map.mpr ⟨(rest, content), isFile, rfl⟩⟩

/-- The plugin files are the files at the paths of plugins. -/
theorem mem_pluginFiles_iff
    {tree : FileTree}
    {path : List String}
    {content : FileContent} :
    (path, content) ∈ tree.pluginFiles ↔ Holds tree path (.file content) ∧ IsPluginPath path := by
  induction path generalizing tree with
  | nil =>
      refine iff_of_false ?_ (fun found => found.2.ne_nil rfl)
      cases tree with
      | file other => simp [pluginFiles]
      | special => simp [pluginFiles]
      | directory entries => simp [mem_pluginFiles_directory]
  | cons name rest ih =>
      cases tree with
      | file other =>
          refine iff_of_false (by simp [pluginFiles]) ?_
          rintro ⟨impossible, _⟩
          cases impossible
      | special =>
          refine iff_of_false (by simp [pluginFiles]) ?_
          rintro ⟨impossible, _⟩
          cases impossible
      | directory entries =>
          rw [mem_pluginFiles_directory, holds_cons_iff]
          constructor
          · rintro (⟨_, same, isEntry, isPlugin⟩ | ⟨_, tree, _, same, isEntry, _, isFile⟩)
            · cases same
              exact ⟨⟨_, isEntry, .here _⟩, isPluginName_iff.mp isPlugin⟩
            · cases same
              obtain ⟨holds, isPlugin⟩ := ih.mp isFile
              exact ⟨⟨tree, isEntry, holds⟩, (isPluginPath_cons isPlugin.ne_nil name).mpr isPlugin⟩
          · rintro ⟨⟨tree, isEntry, holds⟩, isPlugin⟩
            cases rest with
            | nil =>
                cases holds_nil_iff.mp holds
                exact Or.inl ⟨name, rfl, isEntry, isPluginName_iff.mpr isPlugin⟩
            | cons next others =>
                have isDirectory : tree.isDirectory = true := by
                  cases holds
                  rfl
                have isPluginInside :=
                  (isPluginPath_cons (List.cons_ne_nil next others) name).mp isPlugin
                exact
                  Or.inr
                    ⟨name, tree, _, rfl, isEntry, isDirectory, ih.mpr ⟨holds, isPluginInside⟩⟩

theorem ne_nil_of_mem_pluginFiles
    {tree : FileTree}
    {file : List String × FileContent}
    (isFile : file ∈ tree.pluginFiles) :
    file.1 ≠ [] :=
  (mem_pluginFiles_iff.mp isFile).2.ne_nil

/-! ## The order -/

/-- The code points of a name. -/
def codePoints (name : String) : List Nat :=
  name.toList.map Char.toNat

/-- The order of a walk: names in the order of their code points, and the files of a directory
before those of its subdirectories. -/
inductive Precedes : List String → List String → Prop
  | files
      {first second : String}
      (less : codePoints first < codePoints second) :
      Precedes [first] [second]
  | above
      (file directory : String)
      {inner : List String}
      (isInner : inner ≠ []) :
      Precedes [file] (directory :: inner)
  | directories
      {first second : String}
      (less : codePoints first < codePoints second)
      {inner other : List String}
      (isInner : inner ≠ [])
      (isOther : other ≠ []) :
      Precedes (first :: inner) (second :: other)
  | inside
      (directory : String)
      {inner other : List String}
      (precedes : Precedes inner other) :
      Precedes (directory :: inner) (directory :: other)

theorem Precedes.ne_nil
    {first second : List String}
    (precedes : Precedes first second) :
    first ≠ [] ∧ second ≠ [] := by
  cases precedes with
  | files less => exact ⟨List.cons_ne_nil _ _, List.cons_ne_nil _ _⟩
  | above file directory isInner => exact ⟨List.cons_ne_nil _ _, List.cons_ne_nil _ _⟩
  | directories less isInner isOther => exact ⟨List.cons_ne_nil _ _, List.cons_ne_nil _ _⟩
  | inside directory precedes => exact ⟨List.cons_ne_nil _ _, List.cons_ne_nil _ _⟩

theorem Precedes.asymm
    {first second : List String}
    (precedes : Precedes first second) :
    ¬ Precedes second first := by
  induction precedes with
  | files less =>
      intro reversed
      cases reversed with
      | files greater => exact List.lt_asymm less greater
      | above file directory isInner => exact isInner rfl
      | directories greater isInner isOther => exact isInner rfl
      | inside directory impossible => exact impossible.ne_nil.1 rfl
  | above file directory isInner =>
      intro reversed
      cases reversed with
      | files greater => exact isInner rfl
      | above other outer isOuter => exact isOuter rfl
      | directories greater isFirst isSecond => exact isSecond rfl
      | inside directory impossible => exact impossible.ne_nil.2 rfl
  | directories less isInner isOther =>
      intro reversed
      cases reversed with
      | files greater => exact isInner rfl
      | above other outer isOuter => exact isOther rfl
      | directories greater isFirst isSecond => exact List.lt_asymm less greater
      | inside directory impossible => exact List.lt_irrefl _ less
  | inside directory inner ih =>
      intro reversed
      cases reversed with
      | files greater => exact List.lt_irrefl _ greater
      | above other outer isOuter => exact inner.ne_nil.2 rfl
      | directories greater isFirst isSecond => exact List.lt_irrefl _ greater
      | inside directory reversedInner => exact ih reversedInner

theorem codePoints_lt_of_lt
    {first second : String}
    (less : first < second) :
    codePoints first < codePoints second :=
  List.map_lt (fun _ _ smaller => smaller) (String.lt_iff_toList_lt.mp less)

/-- Things of different names are sorted strictly by their names. -/
theorem pairwise_byName
    {α : Type}
    {list : List (String × α)}
    (distinct : (list.map Prod.fst).Nodup) :
    (byName list).Pairwise fun first second => codePoints first.1 < codePoints second.1 := by
  have sorted :
      (byName list).Pairwise fun first second => decide (first.1 ≤ second.1) = true := by
    apply List.pairwise_mergeSort
    · intro first second third before behind
      exact decide_eq_true (String.le_trans (of_decide_eq_true before) (of_decide_eq_true behind))
    · intro first second
      rw [Bool.or_eq_true, decide_eq_true_iff, decide_eq_true_iff]
      exact String.le_total first.1 second.1
  have apart : (byName list).Pairwise fun first second => first.1 ≠ second.1 := by
    have permuted : ((byName list).map Prod.fst).Nodup :=
      ((List.mergeSort_perm list _).map Prod.fst).nodup_iff.mpr distinct
    exact List.pairwise_map.mp permuted
  refine (sorted.and apart).imp ?_
  rintro first second ⟨notAfter, notSame⟩
  apply codePoints_lt_of_lt
  by_contra notLess
  exact notSame (String.le_antisymm (of_decide_eq_true notAfter) notLess)

theorem sublist_names_ownPluginFiles (entries : List (String × FileTree)) :
    ((ownPluginFiles entries).map Prod.fst).Sublist (entries.map Prod.fst) := by
  induction entries with
  | nil => exact .slnil
  | cons entry rest ih =>
      rw [ownPluginFiles, List.filterMap_cons]
      split
      · exact ih.cons entry.1
      · rename_i file isFile
        have sameName : file.1 = entry.1 := by
          split at isFile
          · split at isFile
            · cases isFile
              rfl
            · cases isFile
          · cases isFile
          · cases isFile
        rw [List.map_cons, List.map_cons, sameName]
        exact ih.cons_cons entry.1

theorem sublist_names_innerPluginFiles (entries : List (String × FileTree)) :
    ((innerPluginFiles entries).map Prod.fst).Sublist (entries.map Prod.fst) := by
  rw [innerPluginFiles_eq, List.map_map]
  exact List.filter_sublist.map Prod.fst

/-- The plugin files of a tree are found in the order of a walk. -/
theorem pairwise_pluginFiles
    {tree : FileTree}
    (distinct : tree.HasDistinctNames) :
    tree.pluginFiles.Pairwise fun earlier later => Precedes earlier.1 later.1 := by
  induction distinct with
  | file content =>
      rw [pluginFiles]
      exact .nil
  | special =>
      rw [pluginFiles]
      exact .nil
  | @directory entries names inside ih =>
      have ownNames := names.sublist (sublist_names_ownPluginFiles entries)
      have innerNames := names.sublist (sublist_names_innerPluginFiles entries)
      -- What stands below a subdirectory is plugin files of it.
      have innerFiles :
          ∀ inner ∈ byName (innerPluginFiles entries),
            ∃ entry ∈ entries, inner.2 = entry.2.pluginFiles := by
        intro inner isInner
        obtain ⟨tree, isEntry, _, isFiles⟩ := mem_innerPluginFiles.mp (mem_byName.mp isInner)
        exact ⟨_, isEntry, isFiles⟩
      have nonempty :
          ∀ inner ∈ byName (innerPluginFiles entries), ∀ file ∈ inner.2, file.1 ≠ [] := by
        intro inner isInner file isFile
        obtain ⟨entry, _, isFiles⟩ := innerFiles inner isInner
        exact ne_nil_of_mem_pluginFiles (isFiles ▸ isFile)
      rw [pluginFiles, List.pairwise_append]
      refine ⟨?_, ?_, ?_⟩
      · rw [List.pairwise_map]
        exact (pairwise_byName ownNames).imp .files
      · rw [List.pairwise_flatMap]
        constructor
        · intro inner isInner
          obtain ⟨entry, isEntry, isFiles⟩ := innerFiles inner isInner
          rw [List.pairwise_map, isFiles]
          exact (ih entry isEntry).imp (.inside inner.1)
        · refine (pairwise_byName innerNames).imp_of_mem ?_
          intro first second isFirst isSecond less file isFile other isOther
          obtain ⟨inner, isInner, rfl⟩ := List.mem_map.mp isFile
          obtain ⟨next, isNext, rfl⟩ := List.mem_map.mp isOther
          exact
            .directories less (nonempty first isFirst inner isInner)
              (nonempty second isSecond next isNext)
      · intro own isOwn below isBelow
        obtain ⟨file, _, rfl⟩ := List.mem_map.mp isOwn
        obtain ⟨inner, isInner, isThere⟩ := List.mem_flatMap.mp isBelow
        obtain ⟨next, isNext, rfl⟩ := List.mem_map.mp isThere
        exact .above file.1 inner.1 (nonempty inner isInner next isNext)

/-! ## Enumerations -/

/-- A sequence has exactly the plugin files of a tree, each once and in the order of a walk. -/
structure Enumerates (tree : FileTree) (files : List (List String × FileContent)) : Prop where
  complete :
    ∀ path content,
      (path, content) ∈ files ↔ Holds tree path (.file content) ∧ IsPluginPath path
  once : (files.map Prod.fst).Nodup
  inOrder : files.Pairwise fun earlier later => Precedes earlier.1 later.1

theorem enumerates_pluginFiles
    {tree : FileTree}
    (distinct : tree.HasDistinctNames) :
    Enumerates tree tree.pluginFiles where
  complete _ _ := mem_pluginFiles_iff
  once := by
    rw [List.Nodup, List.pairwise_map]
    refine (pairwise_pluginFiles distinct).imp ?_
    intro earlier later precedes same
    rw [same] at precedes
    exact precedes.asymm precedes
  inOrder := pairwise_pluginFiles distinct

/-- Two trees that have the same files are enumerated alike. -/
theorem Enumerates.unique
    {tree other : FileTree}
    (sameFiles :
      ∀ path content, Holds tree path (.file content) ↔ Holds other path (.file content))
    {files others : List (List String × FileContent)}
    (enumerates : Enumerates tree files)
    (enumeratesOther : Enumerates other others) :
    files = others := by
  have permuted : files.Perm others := by
    rw [List.perm_ext_iff_of_nodup enumerates.once.of_map enumeratesOther.once.of_map]
    rintro ⟨path, content⟩
    rw [enumerates.complete, enumeratesOther.complete, sameFiles]
  refine
    List.Perm.eq_of_pairwise ?_ enumerates.inOrder enumeratesOther.inOrder permuted
  intro first second _ _ precedes reversed
  exact absurd reversed precedes.asymm

/-! ## Listing directories in another order -/

/-- One directory of a tree, at any depth, lists its entries in another order. -/
inductive Relists : FileTree → FileTree → Prop
  | here
      {entries others : List (String × FileTree)}
      (permuted : entries.Perm others) :
      Relists (.directory entries) (.directory others)
  | inside
      (before after : List (String × FileTree))
      (name : String)
      {tree other : FileTree}
      (relists : Relists tree other) :
      Relists
        (.directory (before ++ (name, tree) :: after))
        (.directory (before ++ (name, other) :: after))

variable {tree other : FileTree}

theorem Relists.symm
    (relists : Relists tree other) :
    Relists other tree := by
  induction relists with
  | here permuted => exact .here permuted.symm
  | inside before after name _ ih => exact .inside before after name ih

theorem Relists.isDirectory
    (relists : Relists tree other) :
    other.isDirectory = true := by
  cases relists with
  | here permuted => rfl
  | inside before after name relists => rfl

theorem Relists.holds
    (relists : Relists tree other)
    {path : List String}
    {content : FileContent}
    (holds : Holds tree path (.file content)) :
    Holds other path (.file content) := by
  induction relists generalizing path with
  | here permuted =>
      cases holds with
      | entry isEntry holds => exact .entry (permuted.mem_iff.mp isEntry) holds
  | inside before after name _ ih =>
      cases holds with
      | entry isEntry holds =>
          rcases List.mem_append.mp isEntry with isBefore | isBehind
          · exact .entry (List.mem_append_left _ isBefore) holds
          · rcases List.mem_cons.mp isBehind with isThis | isAfter
            · cases isThis
              exact .entry (List.mem_append_right _ List.mem_cons_self) (ih holds)
            · exact
                .entry (List.mem_append_right _ (List.mem_cons_of_mem _ isAfter)) holds

theorem Relists.hasDistinctNames
    (relists : Relists tree other)
    (distinct : tree.HasDistinctNames) :
    other.HasDistinctNames := by
  induction relists with
  | here permuted =>
      cases distinct with
      | directory names inside =>
          refine .directory ((permuted.map Prod.fst).nodup_iff.mp names) ?_
          intro entry isEntry
          exact inside entry (permuted.mem_iff.mpr isEntry)
  | inside before after name _ ih =>
      cases distinct with
      | directory names inside =>
          have others := List.forall_mem_append.mp inside
          have behind := List.forall_mem_cons.mp others.2
          refine .directory ?_ ?_
          · rw [List.map_append, List.map_cons] at names ⊢
            exact names
          · exact
              List.forall_mem_append.mpr
                ⟨others.1, List.forall_mem_cons.mpr ⟨ih behind.1, behind.2⟩⟩

/-- Any number of directories may be listed in another order. -/
theorem pluginFiles_of_relists
    (distinct : tree.HasDistinctNames)
    (relists : Relation.ReflTransGen Relists tree other) :
    other.HasDistinctNames ∧ other.pluginFiles = tree.pluginFiles := by
  induction relists with
  | refl => exact ⟨distinct, rfl⟩
  | tail _ relists ih =>
      obtain ⟨distinctBefore, sameBefore⟩ := ih
      have distinctBehind := relists.hasDistinctNames distinctBefore
      refine ⟨distinctBehind, Eq.trans ?_ sameBefore⟩
      apply Enumerates.unique _ (enumerates_pluginFiles distinctBehind)
        (enumerates_pluginFiles distinctBefore)
      exact fun path content => ⟨relists.symm.holds, relists.holds⟩

end FileTree

namespace Repository

open FileTree (Enumerates HasDistinctNames Relists)

theorem filesBelow_of_found
    {place : Workplace}
    {root : FilePath}
    {tree : FileTree}
    (found : place.find? root = some tree)
    (isDirectory : tree.isDirectory = true) :
    filesBelow place root =
      .ok (tree.pluginFiles.map fun file => (root.below file.1, file.2)) := by
  cases tree with
  | file content => cases isDirectory
  | special => cases isDirectory
  | directory entries => rw [filesBelow, found]

/--
Below a directory in which the entries of every directory have different names, a scan finds each
file with a name that ends in `plugin.py` once and nothing else: in every directory the files in
the order of the code points of their names, and then those of the subdirectories, which follow in
the order of their names.  The sequence is the same in every place where directories list their
entries in other orders.
-/
theorem filesBelow_enumerates
    {place : Workplace}
    {root : FilePath}
    {tree : FileTree}
    (found : place.find? root = some tree)
    (isDirectory : tree.isDirectory = true)
    (distinct : tree.HasDistinctNames) :
    ∃ files,
      filesBelow place root = .ok (files.map fun file => (root.below file.1, file.2)) ∧
        Enumerates tree files ∧
        ∀ (elsewhere : Workplace) (other : FileTree),
          elsewhere.find? root = some other →
            Relation.ReflTransGen Relists tree other →
              filesBelow elsewhere root = filesBelow place root := by
  refine
    ⟨tree.pluginFiles, filesBelow_of_found found isDirectory,
      FileTree.enumerates_pluginFiles distinct, ?_⟩
  intro elsewhere other foundOther relists
  have isDirectoryToo : other.isDirectory = true := by
    cases relists.cases_tail with
    | inl same => rwa [same]
    | inr last =>
        obtain ⟨_, _, relists⟩ := last
        exact relists.isDirectory
  rw [filesBelow_of_found found isDirectory, filesBelow_of_found foundOther isDirectoryToo,
    (FileTree.pluginFiles_of_relists distinct relists).2]

/-- A directory with things whose names end in `plugin.py`, of which one is a file, around a
subdirectory that lists some entries. -/
def mixedTree (listed : List (String × FileTree)) : FileTree :=
  .directory
    [("slo", .directory listed), ("my_plugin.py", .special), ("plugin.py", .directory []),
      ("a_plugin.py", .file (.text ""))]

/-- A place with that directory. -/
def mixedPlace (listed : List (String × FileTree)) : Workplace where
  tree := .directory [("plugins", mixedTree listed)]
  current := []
  home := { own := ⟨.top, []⟩ }

/-- The first of two files. -/
def firstEntry : String × FileTree := ("Plugin.py", .file (.text "first"))

/-- The second of two files. -/
def secondEntry : String × FileTree := ("plugin.py", .file (.text "second"))

/-- A file in a subdirectory is found, what is no file is not found, and it does not matter which
of two files is listed first. -/
theorem filesBelow_enumerates_of_mixed :
    ∃ files : List (List String × FileContent),
      filesBelow (mixedPlace [secondEntry, firstEntry]) ⟨.top, ["plugins"]⟩ =
          .ok (files.map fun file => (FilePath.below ⟨.top, ["plugins"]⟩ file.1, file.2)) ∧
        (["slo", "plugin.py"], .text "second") ∈ files ∧
        (∀ content, (["my_plugin.py"], content) ∉ files) ∧
        filesBelow (mixedPlace [firstEntry, secondEntry]) ⟨.top, ["plugins"]⟩ =
          filesBelow (mixedPlace [secondEntry, firstEntry]) ⟨.top, ["plugins"]⟩ := by
  have distinct : (mixedTree [secondEntry, firstEntry]).HasDistinctNames := by
    refine .directory (by decide) ?_
    intro entry isEntry
    simp only [List.mem_cons, List.not_mem_nil, or_false] at isEntry
    rcases isEntry with rfl | rfl | rfl | rfl
    · refine .directory (by decide) ?_
      intro inner isInner
      simp only [List.mem_cons, List.not_mem_nil, or_false] at isInner
      rcases isInner with rfl | rfl
      · exact .file _
      · exact .file _
    · exact .special
    · exact .directory .nil (List.forall_mem_nil _)
    · exact .file _
  obtain ⟨files, found, enumerates, elsewhere⟩ :=
    @filesBelow_enumerates (mixedPlace [secondEntry, firstEntry]) ⟨.top, ["plugins"]⟩ _ rfl rfl
      distinct
  refine ⟨files, found, ?_, ?_, ?_⟩
  · refine (enumerates.complete _ _).mpr ⟨?_, "plugin.py", rfl, [], rfl⟩
    exact .entry List.mem_cons_self (.entry List.mem_cons_self (.here _))
  · intro content isFile
    obtain ⟨holds, _⟩ := (enumerates.complete _ _).mp isFile
    obtain ⟨next, isEntry, isContent⟩ := FileTree.holds_cons_iff.mp holds
    cases FileTree.holds_nil_iff.mp isContent
    simp at isEntry
  · refine elsewhere _ _ rfl (.single ?_)
    exact .inside [] _ "slo" (.here (List.Perm.swap _ _ []))

end Repository

end ServiceLevel
