/-!
# Ordered maps

A map from names to values that remembers the order in which its names were
first given.  Giving a name again replaces its value and keeps its place.  The
type carries the invariant that no name occurs twice, and `get?` is the view
through which every operation is described.
-/

namespace ServiceLevel

/-- An ordered map from names to values. -/
structure Entries (α : Type) where
  /-- The names with their values, in order. -/
  pairs : List (String × α)
  /-- No name occurs twice. -/
  distinct : (pairs.map Prod.fst).Nodup

namespace Entries

variable {α β : Type}

instance [DecidableEq α] : DecidableEq (Entries α) := fun left right =>
  decidable_of_iff (left.pairs = right.pairs)
    ⟨fun same => by cases left; cases right; cases same; rfl, fun same => by rw [same]⟩

instance [Repr α] : Repr (Entries α) := ⟨fun entries width => reprPrec entries.pairs width⟩

@[ext]
theorem ext {left right : Entries α} (same : left.pairs = right.pairs) : left = right := by
  cases left; cases right; cases same; rfl

/-- The map without entries. -/
def empty : Entries α := ⟨[], List.nodup_nil⟩

instance : Inhabited (Entries α) := ⟨empty⟩

instance : EmptyCollection (Entries α) := ⟨empty⟩

/-- The names, in order. -/
def keys (entries : Entries α) : List String :=
  entries.pairs.map Prod.fst

/-- Whether there are no entries. -/
def isEmpty (entries : Entries α) : Bool :=
  entries.pairs.isEmpty

/-- The value of a name. -/
def get? (entries : Entries α) (name : String) : Option α :=
  entries.pairs.lookup name

/-- Set the value of a name in a list of pairs. -/
def putPair (name : String) (value : α) : List (String × α) → List (String × α)
  | [] => [(name, value)]
  | (other, old) :: rest =>
    if other = name then (name, value) :: rest else (other, old) :: putPair name value rest

theorem map_fst_putPair (name : String) (value : α) (pairs : List (String × α)) :
    (putPair name value pairs).map Prod.fst =
      if name ∈ pairs.map Prod.fst then pairs.map Prod.fst
      else pairs.map Prod.fst ++ [name] := by
  induction pairs with
  | nil => simp [putPair]
  | cons head rest ih =>
    obtain ⟨other, old⟩ := head
    by_cases same : other = name
    · simp [putPair, same]
    · simp only [putPair, same, if_false, List.map_cons, ih, List.mem_cons, Ne.symm same,
        false_or]
      split <;> simp

theorem lookup_pair (name key : String) (value : α) (rest : List (String × α)) :
    ((key, value) :: rest).lookup name =
      if name = key then some value else rest.lookup name := by
  by_cases same : name = key
  · rw [same, List.lookup_cons_self, if_pos rfl]
  · rw [if_neg same]
    show (match name == key with | true => some value | false => rest.lookup name) = _
    rw [beq_false_of_ne same]

theorem lookup_putPair (name other : String) (value : α) (pairs : List (String × α)) :
    (putPair name value pairs).lookup other =
      if other = name then some value else pairs.lookup other := by
  induction pairs with
  | nil => simp only [putPair, lookup_pair, List.lookup_nil]
  | cons head rest ih =>
    obtain ⟨first, old⟩ := head
    by_cases same : first = name
    · subst same
      simp only [putPair, if_true, lookup_pair]
      split <;> rfl
    · simp only [putPair, same, if_false, lookup_pair, ih]
      by_cases asked : other = first
      · simp [asked, same]
      · simp [asked]

/-- Set the value of a name. -/
def put (entries : Entries α) (name : String) (value : α) : Entries α :=
  ⟨putPair name value entries.pairs, by
    rw [map_fst_putPair]
    split
    · exact entries.distinct
    · rename_i missing
      refine List.nodup_append.mpr ⟨entries.distinct, by simp, ?_⟩
      intro key member other single same
      rw [List.mem_singleton] at single
      exact missing (by rw [← single, ← same]; exact member)⟩

/-- The map of a list of pairs; a later pair replaces an earlier one of its name. -/
def ofList (pairs : List (String × α)) : Entries α :=
  pairs.foldl (fun entries pair => entries.put pair.1 pair.2) empty

/-- Add the entries of a second map, which win over those of the first. -/
def merge (left right : Entries α) : Entries α :=
  right.pairs.foldl (fun entries pair => entries.put pair.1 pair.2) left

/-- The merge of several maps, later ones winning. -/
def mergeAll (maps : List (Entries α)) : Entries α :=
  maps.foldl merge empty

/-- The entries whose name satisfies a condition, in order. -/
def filterKeys (entries : Entries α) (keep : String → Bool) : Entries α :=
  ⟨entries.pairs.filter fun pair => keep pair.1,
    (List.filter_sublist.map Prod.fst).nodup entries.distinct⟩

/-- Replace every value. -/
def map (f : α → β) (entries : Entries α) : Entries β :=
  ⟨entries.pairs.map fun pair => (pair.1, f pair.2), by
    have same : (entries.pairs.map fun pair => (pair.1, f pair.2)).map Prod.fst =
        entries.pairs.map Prod.fst := by simp
    rw [same]
    exact entries.distinct⟩

@[simp]
theorem keys_empty : (empty : Entries α).keys = [] := rfl

@[simp]
theorem get?_empty (name : String) : (empty : Entries α).get? name = none := rfl

@[simp]
theorem get?_put (entries : Entries α) (name other : String) (value : α) :
    (entries.put name value).get? other =
      if other = name then some value else entries.get? other :=
  lookup_putPair name other value entries.pairs

theorem keys_put (entries : Entries α) (name : String) (value : α) :
    (entries.put name value).keys =
      if name ∈ entries.keys then entries.keys else entries.keys ++ [name] :=
  map_fst_putPair name value entries.pairs

@[simp]
theorem mem_keys_put (entries : Entries α) (name other : String) (value : α) :
    other ∈ (entries.put name value).keys ↔ other = name ∨ other ∈ entries.keys := by
  rw [keys_put]
  by_cases present : name ∈ entries.keys
  · rw [if_pos present]
    exact ⟨Or.inr, fun member => member.elim (fun same => same ▸ present) id⟩
  · rw [if_neg present, List.mem_append, List.mem_singleton]
    exact Or.comm

end Entries

end ServiceLevel
