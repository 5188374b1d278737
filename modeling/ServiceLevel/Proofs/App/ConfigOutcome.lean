import ServiceLevel.App.Config
import ServiceLevel.Proofs.Attempt

/-!
# What becomes of a config document

A document should either be taken as a config, its plugin paths being a list of texts if any
are given, or be reported as a failed configuration.  Some documents slip through this.  The
priority of an entry may be an infinite number; the plugin paths may be no list, and are then
walked through all the same; and an item of theirs may be no text, or begin with the home
directory of nobody.  The main statement is that there are no others, and says what becomes of
each of these.
-/

namespace ServiceLevel

namespace Homes

variable {homes : Homes} {user : String}

theorem find_of_null
    {c : Char}
    (member : c ∈ user.toList)
    (isNull : c.toNat = 0) :
    homes.find user = .error (.fault .value "embedded null byte") := by
  have notEmpty : user ≠ "" := by
    rintro rfl
    cases member
  have hasNull : user.toList.any (fun c => decide (c.toNat = 0)) = true :=
    List.any_eq_true.mpr ⟨c, member, decide_eq_true isNull⟩
  rw [find, String.isEmpty_eq_false_iff.mpr notEmpty, if_neg Bool.false_ne_true, if_pos hasNull]

theorem find_of_noNull
    (homes : Homes)
    (isOther : user ≠ "")
    (noNull : ∀ c ∈ user.toList, c.toNat ≠ 0) :
    homes.find user =
      (homes.others.lookup user).elim
        (.error (.fault .runtime "Could not determine home directory.")) .ok := by
  have hasNone : ¬ user.toList.any (fun c => decide (c.toNat = 0)) = true := by
    intro hasNull
    obtain ⟨c, member, isNull⟩ := List.any_eq_true.mp hasNull
    exact noNull c member (of_decide_eq_true isNull)
  simp only [find, String.isEmpty_eq_false_iff.mpr isOther, Bool.false_eq_true, if_false, hasNone]
  cases homes.others.lookup user with
  | none => rfl
  | some home => rfl

theorem find_cases (homes : Homes) (user : String) :
    (∃ home, homes.find user = .ok home) ∨
      (∃ c ∈ user.toList, c.toNat = 0) ∨
      user ≠ "" ∧ (∀ c ∈ user.toList, c.toNat ≠ 0) ∧ homes.others.lookup user = none := by
  by_cases isOwn : user = ""
  · rw [isOwn]
    exact Or.inl ⟨homes.own, rfl⟩
  by_cases hasNull : ∃ c ∈ user.toList, c.toNat = 0
  · exact Or.inr (Or.inl hasNull)
  have noNull : ∀ c ∈ user.toList, c.toNat ≠ 0 :=
    fun c member isNull => hasNull ⟨c, member, isNull⟩
  cases known : homes.others.lookup user with
  | none => exact Or.inr (Or.inr ⟨isOwn, noNull, rfl⟩)
  | some home =>
      refine Or.inl ⟨home, ?_⟩
      rw [find_of_noNull homes isOwn noNull, known, Option.elim_some]

end Homes

namespace AppConfig

/-! ## Documents -/

/-- The value of a field that counts as given. -/
def given? (data : Json) (name : String) : Option Json :=
  (data.field? name).filter Json.isGiven

/-- The value that stands for the priority of an entry. -/
def priorityOf (item : Json) : Json :=
  ChainEntry.fieldOr item "priority" (.ofInt 0)

/-- An item that describes an entry: it has an identifier, and its priority is an integer or
can be turned into one. -/
structure IsEntry (item : Json) : Prop where
  named : (given? item "id").isSome
  counted : ∃ priority, ChainEntry.integerOf (priorityOf item) = .ok priority

/-- An item whose priority is an infinite number. -/
structure IsUnbounded (item : Json) : Prop where
  named : (given? item "id").isSome
  infinite : ∃ negative, priorityOf item = .number (.float (.infinity negative))

/-- The plugins of a document are a list of entries, if any are given. -/
def HasEntries (data : Json) : Prop :=
  ∀ plugins ∈ given? data "plugins",
    ∃ items, plugins = .array items ∧ ∀ item ∈ items, IsEntry item

/-- The plugin paths of a document are a list of texts, if any are given. -/
def ListsPaths (data : Json) : Prop :=
  ∀ paths ∈ given? data "plugin_paths", ∃ texts : List String, paths = .array (texts.map .text)

/-- An item that names a path, with a home directory that is known if it begins with one. -/
def Resolves (homes : Homes) (item : Json) : Prop :=
  ∃ name path, item = .text name ∧ (FilePath.ofText name).expandHome homes = .ok path

/-- An item that names no path, with the fault that this is. -/
inductive Unresolved (homes : Homes) : Json → Fault → Prop
  | notText {item : Json}
      (noText : item.text? = none) :
      Unresolved homes item .type
  | nullByte {name user : String} {c : Char}
      (tilde : (FilePath.ofText name).user? = some user)
      (member : c ∈ user.toList)
      (isNull : c.toNat = 0) :
      Unresolved homes (.text name) .value
  | noUser {name user : String}
      (tilde : (FilePath.ofText name).user? = some user)
      (isOther : user ≠ "")
      (noNull : ∀ c ∈ user.toList, c.toNat ≠ 0)
      (unknown : homes.others.lookup user = none) :
      Unresolved homes (.text name) .runtime

/-- A document that is neither taken as a config should be nor reported as a failed
configuration, with the fault that escapes, or none if the document is taken. -/
inductive Slip (homes : Homes) (data : Json) : Option Fault → Prop
  | unbounded {before after : List Json} {item : Json}
      (plugins : given? data "plugins" = some (.array (before ++ item :: after)))
      (entries : ∀ earlier ∈ before, IsEntry earlier)
      (infinite : IsUnbounded item) :
      Slip homes data (some .overflow)
  | single {paths : Json}
      (entries : HasEntries data)
      (isGiven : given? data "plugin_paths" = some paths)
      (isSingle : (∃ value, paths = .bool value) ∨ ∃ number, paths = .number number) :
      Slip homes data (some .type)
  | unresolved {paths item : Json} {before after : List Json} {fault : Fault}
      (entries : HasEntries data)
      (isGiven : given? data "plugin_paths" = some paths)
      (walked : Chain.itemsOf paths = .ok (before ++ item :: after))
      (resolved : ∀ earlier ∈ before, Resolves homes earlier)
      (stuck : Unresolved homes item fault) :
      Slip homes data (some fault)
  | spread {paths : Json} {items : List Json}
      (entries : HasEntries data)
      (isGiven : given? data "plugin_paths" = some paths)
      (notListed : ∀ list, paths ≠ .array list)
      (walked : Chain.itemsOf paths = .ok items)
      (resolved : ∀ item ∈ items, Resolves homes item) :
      Slip homes data none

/-- What should become of a document. -/
def Kept (data : Json) : Except Failure AppConfig → Prop
  | .ok _ => ListsPaths data
  | .error failure => failure.kind = .configuration

/-! ## Entries -/

theorem integerOfText_kind
    {text : String}
    {failure : Failure}
    (failed : ChainEntry.integerOfText text = .error failure) :
    failure.kind = .fault .value := by
  simp only [ChainEntry.integerOfText] at failed
  split at failed
  · cases failed
    rfl
  · split at failed
    · cases failed
      rfl
    · cases failed

/-- A value that is no integer is of a wrong type or has a wrong text, unless it is infinite. -/
theorem integerOf_cases (value : Json) :
    (∃ integer, ChainEntry.integerOf value = .ok integer) ∨
      (∃ failure,
        ChainEntry.integerOf value = .error failure ∧
          (failure.kind = .fault .type ∨ failure.kind = .fault .value)) ∨
      ∃ negative, value = .number (.float (.infinity negative)) := by
  cases value with
  | null => exact Or.inr (Or.inl ⟨_, rfl, Or.inl rfl⟩)
  | bool value => exact Or.inl ⟨_, rfl⟩
  | array items => exact Or.inr (Or.inl ⟨_, rfl, Or.inl rfl⟩)
  | object fields => exact Or.inr (Or.inl ⟨_, rfl, Or.inl rfl⟩)
  | text value =>
      cases read : ChainEntry.integerOfText value with
      | ok integer => exact Or.inl ⟨integer, read⟩
      | error failure => exact Or.inr (Or.inl ⟨failure, read, Or.inr (integerOfText_kind read)⟩)
  | number number =>
      cases number with
      | whole value => exact Or.inl ⟨_, rfl⟩
      | float value =>
          cases value with
          | nan => exact Or.inr (Or.inl ⟨_, rfl, Or.inr rfl⟩)
          | infinity negative => exact Or.inr (Or.inr ⟨negative, rfl⟩)
          | finite negative significand exponent => exact Or.inl ⟨_, rfl⟩

/-- Only objects have fields. -/
theorem exists_object_of_given
    {data value : Json}
    {name : String}
    (isGiven : given? data name = some value) :
    ∃ fields, data = .object fields := by
  cases data with
  | object fields => exact ⟨fields, rfl⟩
  | null => cases isGiven
  | bool value => cases isGiven
  | number number => cases isGiven
  | text value => cases isGiven
  | array items => cases isGiven

theorem entryOf_of_counted
    {item : Json}
    (named : (given? item "id").isSome)
    {priority : Int}
    (counted : ChainEntry.integerOf (priorityOf item) = .ok priority)
    (index : Nat) :
    ∃ entry, entryOf index item = .ok entry := by
  obtain ⟨id, isId⟩ := Option.isSome_iff_exists.mp named
  obtain ⟨fields, rfl⟩ := exists_object_of_given isId
  rw [given?] at isId
  rw [priorityOf] at counted
  rw [entryOf, isId, ChainEntry.ofJson, counted]
  exact ⟨_, rfl⟩

theorem entryOf_of_failed
    {item : Json}
    (named : (given? item "id").isSome)
    {cause : Failure}
    (failed : ChainEntry.integerOf (priorityOf item) = .error cause)
    (index : Nat) :
    ∃ failure,
      entryOf index item = .error failure ∧
        failure.kind =
          if cause.kind = .fault .type ∨ cause.kind = .fault .value then .configuration
          else cause.kind := by
  obtain ⟨id, isId⟩ := Option.isSome_iff_exists.mp named
  obtain ⟨fields, rfl⟩ := exists_object_of_given isId
  rw [given?] at isId
  rw [priorityOf] at failed
  rw [entryOf, isId, ChainEntry.ofJson, failed]
  by_cases caught : cause.kind = .fault .type ∨ cause.kind = .fault .value
  · exact ⟨_, if_pos caught, (if_pos caught).symm⟩
  · exact ⟨_, if_neg caught, (if_neg caught).symm⟩

theorem IsEntry.exists_entryOf
    {item : Json}
    (isEntry : IsEntry item)
    (index : Nat) :
    ∃ entry, entryOf index item = .ok entry := by
  obtain ⟨priority, counted⟩ := isEntry.counted
  exact entryOf_of_counted isEntry.named counted index

theorem IsUnbounded.exists_entryOf
    {item : Json}
    (isUnbounded : IsUnbounded item)
    (index : Nat) :
    ∃ failure, entryOf index item = .error failure ∧ failure.kind = .fault .overflow := by
  obtain ⟨negative, infinite⟩ := isUnbounded.infinite
  have failed : ChainEntry.integerOf (priorityOf item) =
      .error (.fault .overflow "cannot convert float infinity to integer") := by
    rw [infinite]
    rfl
  exact entryOf_of_failed isUnbounded.named failed index

/-- An item is taken as an entry, is unbounded, or is reported. -/
theorem entryOf_cases (index : Nat) (item : Json) :
    IsEntry item ∨
      IsUnbounded item ∨
      ∃ failure, entryOf index item = .error failure ∧ failure.kind = .configuration := by
  cases isId : given? item "id" with
  | none =>
      rw [given?] at isId
      rw [entryOf, isId]
      exact Or.inr (Or.inr ⟨_, rfl, rfl⟩)
  | some id =>
      have named : (given? item "id").isSome := by
        rw [isId]
        rfl
      rcases integerOf_cases (priorityOf item) with
        counted | ⟨cause, failed, isCaught⟩ | infinite
      · exact Or.inl ⟨named, counted⟩
      · obtain ⟨failure, reported, kind⟩ := entryOf_of_failed named failed index
        rw [if_pos isCaught] at kind
        exact Or.inr (Or.inr ⟨failure, reported, kind⟩)
      · exact Or.inr (Or.inl ⟨named, infinite⟩)

theorem exists_entriesFrom
    {items : List Json}
    (entries : ∀ item ∈ items, IsEntry item)
    (index : Nat) :
    ∃ taken, entriesFrom index items = .ok taken := by
  induction items generalizing index with
  | nil => exact ⟨[], rfl⟩
  | cons item rest ih =>
      obtain ⟨entry, isFirst⟩ := (entries item List.mem_cons_self).exists_entryOf index
      obtain ⟨others, areRest⟩ :=
        ih (fun other member => entries other (List.mem_cons_of_mem _ member)) (index + 1)
      rw [entriesFrom, isFirst, areRest]
      exact ⟨_, rfl⟩

theorem entriesFrom_of_split
    {before after : List Json}
    {item : Json}
    (entries : ∀ earlier ∈ before, IsEntry earlier)
    {index : Nat}
    {failure : Failure}
    (failed : entryOf (index + before.length) item = .error failure) :
    entriesFrom index (before ++ item :: after) = .error failure := by
  induction before generalizing index with
  | nil =>
      rw [List.length_nil, Nat.add_zero] at failed
      rw [List.nil_append, entriesFrom, failed]
      rfl
  | cons first rest ih =>
      obtain ⟨entry, isFirst⟩ := (entries first List.mem_cons_self).exists_entryOf index
      rw [List.length_cons, Nat.add_comm rest.length, ← Nat.add_assoc] at failed
      rw [List.cons_append, entriesFrom, isFirst,
        ih (fun other member => entries other (List.mem_cons_of_mem _ member)) failed]
      rfl

/-- What becomes of items is decided by the first one that is no entry. -/
theorem entriesFrom_cases (index : Nat) (items : List Json) :
    (∀ item ∈ items, IsEntry item) ∨
      (∃ before item after,
        items = before ++ item :: after ∧
          (∀ earlier ∈ before, IsEntry earlier) ∧
          IsUnbounded item) ∨
      ∃ failure, entriesFrom index items = .error failure ∧ failure.kind = .configuration := by
  rcases Attempt.forall_or_first IsEntry items with
    all | ⟨before, item, after, rfl, entries, isNone⟩
  · exact Or.inl all
  · rcases entryOf_cases (index + before.length) item with
      isEntry | infinite | ⟨failure, failed, kind⟩
    · exact absurd isEntry isNone
    · exact Or.inr (Or.inl ⟨before, item, after, rfl, entries, infinite⟩)
    · exact Or.inr (Or.inr ⟨failure, entriesFrom_of_split entries failed, kind⟩)

/-- The entries of a document. -/
def readEntries (data : Json) : Except Failure (List ChainEntry) :=
  entryItems data >>= entriesFrom 0

theorem HasEntries.exists_readEntries
    {data : Json}
    (entries : HasEntries data) :
    ∃ taken, readEntries data = .ok taken := by
  cases listed : given? data "plugins" with
  | none =>
      rw [given?] at listed
      rw [readEntries, entryItems, listed]
      exact ⟨[], rfl⟩
  | some plugins =>
      obtain ⟨items, rfl, areEntries⟩ := entries plugins listed
      rw [given?] at listed
      rw [readEntries, entryItems, listed]
      exact exists_entriesFrom areEntries 0

theorem readEntries_of_unbounded
    {data item : Json}
    {before after : List Json}
    (plugins : given? data "plugins" = some (.array (before ++ item :: after)))
    (entries : ∀ earlier ∈ before, IsEntry earlier)
    (infinite : IsUnbounded item) :
    ∃ failure, readEntries data = .error failure ∧ failure.kind = .fault .overflow := by
  obtain ⟨failure, failed, kind⟩ := infinite.exists_entryOf (0 + before.length)
  rw [given?] at plugins
  rw [readEntries, entryItems, plugins]
  exact ⟨failure, entriesFrom_of_split entries failed, kind⟩

/-- The plugins of a document are a list of entries, begin as one but have an unbounded item, or
are reported. -/
theorem readEntries_cases (data : Json) :
    HasEntries data ∨
      (∃ before item after,
        given? data "plugins" = some (.array (before ++ item :: after)) ∧
          (∀ earlier ∈ before, IsEntry earlier) ∧
          IsUnbounded item) ∨
      ∃ failure, readEntries data = .error failure ∧ failure.kind = .configuration := by
  cases listed : given? data "plugins" with
  | none =>
      refine Or.inl ?_
      intro plugins isGiven
      rw [listed] at isGiven
      cases isGiven
  | some plugins =>
      have read : readEntries data = entryItems data >>= entriesFrom 0 := rfl
      have filtered := listed
      rw [given?] at filtered
      rw [entryItems, filtered] at read
      cases plugins with
      | array items =>
          rcases entriesFrom_cases 0 items with
            entries | ⟨before, item, after, rfl, entries, infinite⟩ | ⟨failure, failed, kind⟩
          · refine Or.inl ?_
            intro plugins isGiven
            cases listed.symm.trans isGiven
            exact ⟨items, rfl, entries⟩
          · exact Or.inr (Or.inl ⟨before, item, after, rfl, entries, infinite⟩)
          · exact Or.inr (Or.inr ⟨failure, read.trans failed, kind⟩)
      | null => exact Or.inr (Or.inr ⟨_, read, rfl⟩)
      | bool value => exact Or.inr (Or.inr ⟨_, read, rfl⟩)
      | number number => exact Or.inr (Or.inr ⟨_, read, rfl⟩)
      | text value => exact Or.inr (Or.inr ⟨_, read, rfl⟩)
      | object fields => exact Or.inr (Or.inr ⟨_, read, rfl⟩)

/-! ## Paths -/

variable {homes : Homes} {base : Option FilePath}

theorem Resolves.exists_pathOf
    {item : Json}
    (resolves : Resolves homes item)
    (base : Option FilePath) :
    ∃ path, pathOf homes base item = .ok path := by
  obtain ⟨name, path, rfl, expanded⟩ := resolves
  rw [pathOf, expanded]
  exact ⟨_, rfl⟩

theorem Unresolved.exists_pathOf
    {item : Json}
    {fault : Fault}
    (stuck : Unresolved homes item fault)
    (base : Option FilePath) :
    ∃ failure, pathOf homes base item = .error failure ∧ failure.kind = .fault fault := by
  cases stuck with
  | notText noText =>
      cases item with
      | text name => cases noText
      | null => exact ⟨_, rfl, rfl⟩
      | bool value => exact ⟨_, rfl, rfl⟩
      | number number => exact ⟨_, rfl, rfl⟩
      | array items => exact ⟨_, rfl, rfl⟩
      | object fields => exact ⟨_, rfl, rfl⟩
  | nullByte tilde member isNull =>
      rw [pathOf, FilePath.expandHome, tilde]
      simp only [Homes.find_of_null member isNull]
      exact ⟨_, rfl, rfl⟩
  | noUser tilde isOther noNull unknown =>
      rw [pathOf, FilePath.expandHome, tilde]
      simp only [homes.find_of_noNull isOther noNull, unknown]
      exact ⟨_, rfl, rfl⟩

theorem resolves_or_unresolved (homes : Homes) (item : Json) :
    Resolves homes item ∨ ∃ fault, Unresolved homes item fault := by
  cases item with
  | null => exact Or.inr ⟨_, .notText rfl⟩
  | bool value => exact Or.inr ⟨_, .notText rfl⟩
  | number number => exact Or.inr ⟨_, .notText rfl⟩
  | array items => exact Or.inr ⟨_, .notText rfl⟩
  | object fields => exact Or.inr ⟨_, .notText rfl⟩
  | text name =>
      cases tilde : (FilePath.ofText name).user? with
      | none =>
          refine Or.inl ⟨name, FilePath.ofText name, rfl, ?_⟩
          rw [FilePath.expandHome, tilde]
      | some user =>
          rcases homes.find_cases user with
            ⟨home, found⟩ | ⟨c, member, isNull⟩ | ⟨isOther, noNull, unknown⟩
          · refine Or.inl ⟨name, home.below ((FilePath.ofText name).parts.drop 1), rfl, ?_⟩
            rw [FilePath.expandHome, tilde]
            simp only [found]
            rfl
          · exact Or.inr ⟨_, .nullByte tilde member isNull⟩
          · exact Or.inr ⟨_, .noUser tilde isOther noNull unknown⟩

theorem pathsOf_eq_mapM (homes : Homes) (base : Option FilePath) (items : List Json) :
    pathsOf homes base items = items.mapM (pathOf homes base) := by
  induction items with
  | nil => rfl
  | cons item rest ih =>
      rw [pathsOf, ih, Attempt.mapM_cons_eq]
      cases pathOf homes base item with
      | error failure => rfl
      | ok path => cases rest.mapM (pathOf homes base) <;> rfl

/-- The plugin paths of a document, as they are walked through. -/
def readPaths (homes : Homes) (base : Option FilePath) (data : Json) :
    Except Failure (List FilePath) :=
  (match given? data "plugin_paths" with
    | none => .ok []
    | some paths => Chain.itemsOf paths) >>=
    pathsOf homes base

variable {data : Json} {paths : Json}

theorem readPaths_of_missing
    (missing : given? data "plugin_paths" = none) :
    readPaths homes base data = .ok [] := by
  rw [readPaths, missing]
  rfl

theorem readPaths_of_single
    (isGiven : given? data "plugin_paths" = some paths)
    (isSingle : (∃ value, paths = .bool value) ∨ ∃ number, paths = .number number) :
    ∃ failure, readPaths homes base data = .error failure ∧ failure.kind = .fault .type := by
  rw [readPaths, isGiven]
  rcases isSingle with ⟨value, rfl⟩ | ⟨number, rfl⟩
  · exact ⟨_, rfl, rfl⟩
  · exact ⟨_, rfl, rfl⟩

theorem readPaths_of_unresolved
    (isGiven : given? data "plugin_paths" = some paths)
    {before after : List Json}
    {item : Json}
    (walked : Chain.itemsOf paths = .ok (before ++ item :: after))
    (resolved : ∀ earlier ∈ before, Resolves homes earlier)
    {fault : Fault}
    (stuck : Unresolved homes item fault) :
    ∃ failure, readPaths homes base data = .error failure ∧ failure.kind = .fault fault := by
  obtain ⟨failure, failed, kind⟩ := stuck.exists_pathOf base
  refine ⟨failure, ?_, kind⟩
  simp only [readPaths, isGiven, walked]
  show pathsOf homes base (before ++ item :: after) = _
  rw [pathsOf_eq_mapM]
  exact
    Attempt.mapM_eq_error_of_split
      (fun earlier member => (resolved earlier member).exists_pathOf base) failed

theorem readPaths_of_resolved
    (isGiven : given? data "plugin_paths" = some paths)
    {items : List Json}
    (walked : Chain.itemsOf paths = .ok items)
    (resolved : ∀ item ∈ items, Resolves homes item) :
    ∃ pluginPaths, readPaths homes base data = .ok pluginPaths := by
  simp only [readPaths, isGiven, walked]
  show ∃ pluginPaths, pathsOf homes base items = .ok pluginPaths
  rw [pathsOf_eq_mapM]
  exact
    Attempt.exists_mapM_eq_ok
      (fun item member => (resolved item member).exists_pathOf base)

/-- All items name paths, or one of them is the first that does not. -/
theorem resolved_or_stuck (homes : Homes) (items : List Json) :
    (∀ item ∈ items, Resolves homes item) ∨
      ∃ before item after fault,
        items = before ++ item :: after ∧
          (∀ earlier ∈ before, Resolves homes earlier) ∧
          Unresolved homes item fault := by
  rcases Attempt.forall_or_first (Resolves homes) items with
    all | ⟨before, item, after, split, resolved, isStuck⟩
  · exact Or.inl all
  · obtain ⟨fault, stuck⟩ := (resolves_or_unresolved homes item).resolve_left isStuck
    exact Or.inr ⟨before, item, after, fault, split, resolved, stuck⟩

theorem exists_texts_of_resolved
    {items : List Json}
    (resolved : ∀ item ∈ items, Resolves homes item) :
    ∃ texts : List String, items = texts.map .text := by
  induction items with
  | nil => exact ⟨[], rfl⟩
  | cons item rest ih =>
      obtain ⟨name, _, rfl, _⟩ := resolved item List.mem_cons_self
      obtain ⟨texts, rfl⟩ := ih fun other member => resolved other (List.mem_cons_of_mem _ member)
      exact ⟨name :: texts, rfl⟩

/-- A document with entries lists its paths, or slips through. -/
theorem readPaths_cases
    (entries : HasEntries data)
    (homes : Homes)
    (base : Option FilePath) :
    (∃ pluginPaths, readPaths homes base data = .ok pluginPaths ∧ ListsPaths data) ∨
      ∃ slip, Slip homes data slip := by
  cases isGiven : given? data "plugin_paths" with
  | none =>
      refine Or.inl ⟨[], readPaths_of_missing isGiven, ?_⟩
      intro paths isPaths
      rw [isGiven] at isPaths
      cases isPaths
  | some paths =>
      have walk
          {items : List Json}
          (walked : Chain.itemsOf paths = .ok items)
          (notListed : ∀ list, paths ≠ .array list) :
          ∃ slip, Slip homes data slip := by
        rcases resolved_or_stuck homes items with
          resolved | ⟨before, item, after, fault, rfl, resolved, stuck⟩
        · exact ⟨_, .spread entries isGiven notListed walked resolved⟩
        · exact ⟨_, .unresolved entries isGiven walked resolved stuck⟩
      cases paths with
      | null =>
          have impossible := Option.filter_eq_some_iff.mp isGiven
          cases impossible.2
      | bool value => exact Or.inr ⟨_, .single entries isGiven (Or.inl ⟨value, rfl⟩)⟩
      | number number => exact Or.inr ⟨_, .single entries isGiven (Or.inr ⟨number, rfl⟩)⟩
      | text value => exact Or.inr (walk rfl (by simp))
      | object fields => exact Or.inr (walk rfl (by simp))
      | array items =>
          rcases resolved_or_stuck homes items with
            resolved | ⟨before, item, after, fault, rfl, resolved, stuck⟩
          · obtain ⟨pluginPaths, read⟩ :=
              @readPaths_of_resolved homes base data _ isGiven items rfl resolved
            refine Or.inl ⟨pluginPaths, read, ?_⟩
            intro paths isPaths
            cases isGiven.symm.trans isPaths
            obtain ⟨texts, rfl⟩ := exists_texts_of_resolved resolved
            exact ⟨texts, rfl⟩
          · exact Or.inr ⟨_, .unresolved entries isGiven rfl resolved stuck⟩

/-! ## Configs -/

/-- The entries of a document are read in front of its paths. -/
theorem ofJson_object
    (homes : Homes)
    (base : Option FilePath)
    (fields : List (String × Json)) :
    ofJson homes base (.object fields) =
      readEntries (.object fields) >>= fun entries =>
        (readPaths homes base (.object fields)).map
          fun pluginPaths => { entries, pluginPaths } := by
  rw [ofJson, readEntries, readPaths, given?]
  cases entryItems (.object fields) with
  | error failure => rfl
  | ok items =>
      cases taken : entriesFrom 0 items with
      | error failure =>
          show entriesFrom 0 items >>= _ = entriesFrom 0 items >>= _
          rw [taken]
          rfl
      | ok entries =>
          show entriesFrom 0 items >>= _ = entriesFrom 0 items >>= _
          rw [taken]
          cases ((Json.object fields).field? "plugin_paths").filter Json.isGiven with
          | none => rfl
          | some paths =>
              show Chain.itemsOf paths >>= _ = (Chain.itemsOf paths >>= _).map _
              cases Chain.itemsOf paths with
              | error failure => rfl
              | ok listed =>
                  show pathsOf homes base listed >>= _ = (pathsOf homes base listed).map _
                  cases pathsOf homes base listed with
                  | error failure => rfl
                  | ok pluginPaths => rfl

/-- A document without fields is taken as it is, or reported for not being a mapping. -/
theorem ofContent_of_noFields
    {content : FileContent}
    (isDocument : documentOf? content = some data)
    (noFields : ∀ fields, data ≠ .object fields)
    (homes : Homes)
    (path : FilePath) :
    (∃ config, ofContent homes path content = .ok config) ∨
      ∃ failure,
        ofContent homes path content = .error failure ∧ failure.kind = .configuration := by
  rw [ofContent, isDocument]
  cases data with
  | object fields => exact absurd rfl (noFields fields)
  | _ =>
      simp only
      split
      · exact Or.inl ⟨_, rfl⟩
      · exact Or.inr ⟨_, rfl, rfl⟩

theorem ofContent_object
    {content : FileContent}
    {fields : List (String × Json)}
    (isDocument : documentOf? content = some (.object fields))
    (homes : Homes)
    (path : FilePath) :
    ofContent homes path content = ofJson homes (some path.parent) (.object fields) := by
  rw [ofContent, isDocument]
  simp only
  split
  · cases fields with
    | nil => rfl
    | cons first rest => simp_all [Json.isGiven]
  · rfl

variable {content : FileContent} {path : FilePath}

theorem Slip.exists_object
    {slip : Option Fault}
    (slips : Slip homes data slip) :
    ∃ fields, data = .object fields := by
  cases slips with
  | unbounded plugins entries infinite => exact exists_object_of_given plugins
  | single entries isGiven isSingle => exact exists_object_of_given isGiven
  | unresolved entries isGiven walked resolved stuck => exact exists_object_of_given isGiven
  | spread entries isGiven notListed walked resolved => exact exists_object_of_given isGiven

/-- A document that slips through with a fault fails with it. -/
theorem ofContent_of_fault
    (isDocument : documentOf? content = some data)
    {fault : Fault}
    (slips : Slip homes data (some fault)) :
    ∃ failure, ofContent homes path content = .error failure ∧ failure.kind = .fault fault := by
  obtain ⟨fields, rfl⟩ := slips.exists_object
  rw [ofContent_object isDocument, ofJson_object]
  cases slips with
  | unbounded plugins entries infinite =>
      obtain ⟨failure, failed, kind⟩ := readEntries_of_unbounded plugins entries infinite
      rw [failed]
      exact ⟨failure, rfl, kind⟩
  | single entries isGiven isSingle =>
      obtain ⟨taken, areTaken⟩ := entries.exists_readEntries
      obtain ⟨failure, failed, kind⟩ := readPaths_of_single isGiven isSingle
      rw [areTaken, failed]
      exact ⟨failure, rfl, kind⟩
  | unresolved entries isGiven walked resolved stuck =>
      obtain ⟨taken, areTaken⟩ := entries.exists_readEntries
      obtain ⟨failure, failed, kind⟩ := readPaths_of_unresolved isGiven walked resolved stuck
      rw [areTaken, failed]
      exact ⟨failure, rfl, kind⟩

/-- A document that slips through without a fault is taken, though it lists no paths. -/
theorem ofContent_of_spread
    (isDocument : documentOf? content = some data)
    (slips : Slip homes data none) :
    (∃ config, ofContent homes path content = .ok config) ∧ ¬ ListsPaths data := by
  obtain ⟨fields, rfl⟩ := slips.exists_object
  rw [ofContent_object isDocument, ofJson_object]
  cases slips with
  | spread entries isGiven notListed walked resolved =>
      obtain ⟨taken, areTaken⟩ := entries.exists_readEntries
      obtain ⟨pluginPaths, read⟩ := readPaths_of_resolved isGiven walked resolved
      constructor
      · rw [areTaken, read]
        exact ⟨_, rfl⟩
      · intro lists
        obtain ⟨texts, isList⟩ := lists _ isGiven
        exact notListed _ isList

/-- A document is dealt with as it should be, or slips through. -/
theorem kept_or_slip
    (isDocument : documentOf? content = some data)
    (homes : Homes)
    (path : FilePath) :
    Kept data (ofContent homes path content) ∨ ∃ slip, Slip homes data slip := by
  by_cases hasFields : ∃ fields, data = .object fields
  · obtain ⟨fields, rfl⟩ := hasFields
    rw [ofContent_object isDocument, ofJson_object]
    rcases readEntries_cases (.object fields) with
      entries | ⟨before, item, after, plugins, entries, infinite⟩ | ⟨failure, failed, kind⟩
    · obtain ⟨taken, areTaken⟩ := entries.exists_readEntries
      rcases readPaths_cases entries homes (some path.parent) with
        ⟨pluginPaths, read, lists⟩ | slips
      · rw [areTaken, read]
        exact Or.inl lists
      · exact Or.inr slips
    · exact Or.inr ⟨_, .unbounded plugins entries infinite⟩
    · rw [failed]
      exact Or.inl kind
  · have noFields : ∀ fields, data ≠ .object fields :=
      fun fields same => hasFields ⟨fields, same⟩
    refine Or.inl ?_
    rcases ofContent_of_noFields isDocument noFields homes path with
      ⟨config, taken⟩ | ⟨failure, failed, kind⟩
    · rw [taken]
      intro paths isGiven
      exact absurd (exists_object_of_given isGiven) hasFields
    · rw [failed]
      exact kind

theorem load_fst
    {place : Workplace}
    {given : Option FilePath}
    {file : FilePath}
    (found : find? place given = some file)
    (isFile : place.find? file = some (.file content)) :
    (load place given).1 = ofContent place.home file content := by
  rw [load, found]
  simp only [isFile]
  cases ofContent place.home file content with
  | error failure => rfl
  | ok config => rfl

/--
The document of a config file is taken as a config with listed paths or reported as a failed
configuration, unless it slips through.  A document that slips through with a fault fails with
that fault: an infinite priority overflows, plugin paths that are a single value or hold an item
that is no text have a wrong type, a home directory of nobody is a runtime fault, and one with a
null byte is a wrong value.  A text or an object whose characters or names are all paths slips
through without a fault, as if it were a list.
-/
theorem load_kept_iff
    {place : Workplace}
    {given : Option FilePath}
    {file : FilePath}
    {content : FileContent}
    {data : Json}
    (found : find? place given = some file)
    (isFile : place.find? file = some (.file content))
    (isDocument : documentOf? content = some data) :
    (Kept data (load place given).1 ↔ ∀ slip, ¬ Slip place.home data slip) ∧
      (∀ fault,
        Slip place.home data (some fault) →
          ∃ failure, (load place given).1 = .error failure ∧ failure.kind = .fault fault) ∧
      (Slip place.home data none →
        ∃ config, (load place given).1 = .ok config ∧ ¬ ListsPaths data) := by
  rw [load_fst found isFile]
  refine ⟨⟨?_, ?_⟩, ?_, ?_⟩
  · rintro kept (_ | fault) slips
    · obtain ⟨⟨config, taken⟩, notListed⟩ := ofContent_of_spread isDocument slips
      rw [taken] at kept
      exact notListed kept
    · obtain ⟨failure, failed, kind⟩ := ofContent_of_fault isDocument slips
      rw [failed] at kept
      exact absurd (kind.symm.trans kept) (by simp)
  · intro noSlip
    rcases kept_or_slip isDocument place.home file with kept | ⟨slip, slips⟩
    · exact kept
    · exact absurd slips (noSlip slip)
  · intro fault slips
    exact ofContent_of_fault isDocument slips
  · intro slips
    obtain ⟨⟨config, taken⟩, notListed⟩ := ofContent_of_spread isDocument slips
    exact ⟨config, taken, notListed⟩

/-- A directory with a config file. -/
def configPlace (data : Json) : Workplace where
  tree := .directory [("c.yaml", .file (.document data))]
  current := []
  home := { own := ⟨.top, ["home"]⟩ }

/-- A number in place of the paths has the wrong type, and a text is taken letter by letter. -/
theorem load_kept_iff_of_unlisted :
    let path := FilePath.ofText "/c.yaml"
    let number := Json.object [("plugin_paths", .ofInt 5)]
    let text := Json.object [("plugin_paths", .text "ab")]
    (find? (configPlace number) (some path) = some path ∧
        ¬ Kept number (load (configPlace number) (some path)).1 ∧
        ∃ failure,
          (load (configPlace number) (some path)).1 = .error failure ∧
            failure.kind = .fault .type) ∧
      find? (configPlace text) (some path) = some path ∧
        ∃ config,
          (load (configPlace text) (some path)).1 = .ok config ∧ ¬ ListsPaths text := by
  intro path number text
  have found (data : Json) : find? (configPlace data) (some path) = some path := rfl
  have isFile (data : Json) :
      (configPlace data).find? path = some (.file (.document data)) :=
    rfl
  have noPlugins (paths : Json) : HasEntries (.object [("plugin_paths", paths)]) := by
    intro plugins isGiven
    cases isGiven
  have single : Slip (configPlace number).home number (some .type) :=
    .single (noPlugins _) rfl (Or.inr ⟨_, rfl⟩)
  have spread : Slip (configPlace text).home text none := by
    have letters :
        ∀ name ∈ ["a", "b"], Resolves (configPlace text).home (.text name) := by
      intro name member
      have plain : (FilePath.ofText name).user? = none := by
        revert name
        decide
      refine ⟨name, FilePath.ofText name, rfl, ?_⟩
      rw [FilePath.expandHome, plain]
    have walked : Chain.itemsOf (.text "ab") = .ok (["a", "b"].map .text) := rfl
    refine .spread (noPlugins _) rfl (by simp) walked ?_
    intro item member
    obtain ⟨name, isLetter, rfl⟩ := List.mem_map.mp member
    exact letters name isLetter
  obtain ⟨keptIff, faults, _⟩ := load_kept_iff (found number) (isFile number) rfl
  obtain ⟨_, _, taken⟩ := load_kept_iff (found text) (isFile text) rfl
  exact
    ⟨⟨found number, fun kept => keptIff.mp kept _ single, faults _ single⟩, found text,
      taken spread⟩

end AppConfig

end ServiceLevel
