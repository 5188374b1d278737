import ServiceLevel.Entries

/-!
# Look-up in maps

A look-up in a merged map asks the maps from the last one to the first, and one in the map
of a list finds what the list has.
-/

namespace ServiceLevel.Entries

variable {α : Type}

theorem get?_foldl_put
    {pairs : List (String × α)}
    (distinct : (pairs.map Prod.fst).Nodup)
    (start : Entries α)
    (name : String) :
    (pairs.foldl (fun entries pair => entries.put pair.1 pair.2) start).get?
        name =
      (pairs.lookup name).or (start.get? name) := by
  induction pairs generalizing start with
  | nil => rfl
  | cons first rest ih =>
      obtain ⟨key, value⟩ := first
      have ⟨apart, restDistinct⟩ := List.nodup_cons.mp distinct
      rw [List.foldl_cons, ih restDistinct, get?_put, lookup_pair]
      by_cases same : name = key
      · have missing : rest.lookup name = none := by
          rw [List.lookup_eq_none_iff, same]
          intro pair member
          rw [bne_iff_ne]
          intro again
          exact apart (List.mem_map.mpr ⟨pair, member, again.symm⟩)
        rw [if_pos same, if_pos same, missing, Option.none_or, Option.some_or]
      · rw [if_neg same, if_neg same]

@[simp]
theorem get?_merge
    (left right : Entries α)
    (name : String) :
    (left.merge right).get? name =
      (right.get? name).or (left.get? name) :=
  get?_foldl_put right.distinct left name

@[simp]
theorem get?_mergeAll_three
    (first second third : Entries α)
    (name : String) :
    (mergeAll [first, second, third]).get? name =
      (third.get? name).or ((second.get? name).or (first.get? name)) := by
  rw [mergeAll, List.foldl_cons, List.foldl_cons, List.foldl_cons,
    List.foldl_nil, get?_merge, get?_merge, get?_merge, get?_empty,
    Option.or_none]

/-- What is listed under a name is found under it. -/
theorem get?_eq_some_iff
    {entries : Entries α}
    {name : String}
    {value : α} :
    entries.get? name = some value ↔ (name, value) ∈ entries.pairs := by
  obtain ⟨pairs, distinct⟩ := entries
  show pairs.lookup name = some value ↔ (name, value) ∈ pairs
  induction pairs with
  | nil => simp
  | cons first rest ih =>
      obtain ⟨key, held⟩ := first
      have ⟨apart, restDistinct⟩ := List.nodup_cons.mp distinct
      rw [lookup_pair, List.mem_cons, Prod.mk.injEq]
      by_cases same : name = key
      · have notBehind : (name, value) ∉ rest := by
          intro member
          exact apart (List.mem_map.mpr ⟨(name, value), member, same⟩)
        rw [if_pos same, Option.some.injEq]
        constructor
        · intro isHeld
          exact Or.inl ⟨same, isHeld.symm⟩
        · rintro (⟨_, isHeld⟩ | member)
          · exact isHeld.symm
          · exact absurd member notBehind
      · rw [if_neg same, ih restDistinct]
        constructor
        · intro member
          exact Or.inr member
        · rintro (⟨impossible, _⟩ | member)
          · exact absurd impossible same
          · exact member

theorem isSome_get?_iff
    {entries : Entries α}
    {name : String} :
    (entries.get? name).isSome ↔ name ∈ entries.keys := by
  rw [Option.isSome_iff_exists, keys, List.mem_map]
  constructor
  · rintro ⟨value, found⟩
    exact ⟨(name, value), get?_eq_some_iff.mp found, rfl⟩
  · rintro ⟨pair, member, rfl⟩
    exact ⟨pair.2, get?_eq_some_iff.mpr member⟩

theorem get?_eq_none_iff
    {entries : Entries α}
    {name : String} :
    entries.get? name = none ↔ name ∉ entries.keys := by
  rw [← isSome_get?_iff, Option.not_isSome_iff_eq_none]

@[simp]
theorem keys_map
    {β : Type}
    (change : α → β)
    (entries : Entries α) :
    (entries.map change).keys = entries.keys := by
  simp [keys, map]

@[simp]
theorem get?_map
    {β : Type}
    (change : α → β)
    (entries : Entries α)
    (name : String) :
    (entries.map change).get? name = (entries.get? name).map change := by
  show (entries.pairs.map fun pair => (pair.1, change pair.2)).lookup name =
    (entries.pairs.lookup name).map change
  induction entries.pairs with
  | nil => rfl
  | cons first rest ih =>
      rw [List.map_cons, lookup_pair, lookup_pair, ih]
      split
      · rfl
      · rfl

theorem map_put
    {β : Type}
    (change : α → β)
    (entries : Entries α)
    (name : String)
    (value : α) :
    (entries.put name value).map change = (entries.map change).put name (change value) := by
  apply ext
  show (putPair name value entries.pairs).map (fun pair => (pair.1, change pair.2)) =
    putPair name (change value) (entries.pairs.map fun pair => (pair.1, change pair.2))
  induction entries.pairs with
  | nil => rfl
  | cons first rest ih =>
      rw [List.map_cons, putPair, putPair]
      split
      · rfl
      · rw [List.map_cons, ih]

theorem putPair_of_notMem
    {pairs : List (String × α)}
    {name : String}
    (isNew : name ∉ pairs.map Prod.fst)
    (value : α) :
    putPair name value pairs = pairs ++ [(name, value)] := by
  induction pairs with
  | nil => rfl
  | cons first rest ih =>
      rw [List.map_cons, List.mem_cons, not_or] at isNew
      rw [putPair, if_neg (Ne.symm isNew.1), ih isNew.2, List.cons_append]

/-- A new name is listed behind the others. -/
theorem pairs_put_of_notMem
    {entries : Entries α}
    {name : String}
    (isNew : name ∉ entries.keys)
    (value : α) :
    (entries.put name value).pairs = entries.pairs ++ [(name, value)] :=
  putPair_of_notMem isNew value

theorem mem_keys_foldl_put
    {pairs : List (String × α)}
    {start : Entries α}
    {name : String} :
    name ∈
        (pairs.foldl (fun entries pair => entries.put pair.1 pair.2) start).keys ↔
      name ∈ pairs.map Prod.fst ∨ name ∈ start.keys := by
  induction pairs generalizing start with
  | nil => simp
  | cons first rest ih =>
      rw [List.foldl_cons, ih, mem_keys_put, List.map_cons, List.mem_cons,
        or_left_comm, or_assoc]

/-- The map of a list has the names of the list. -/
theorem mem_keys_ofList
    {pairs : List (String × α)}
    {name : String} :
    name ∈ (ofList pairs).keys ↔ name ∈ pairs.map Prod.fst := by
  rw [ofList, mem_keys_foldl_put, keys_empty]
  simp

theorem get?_ofList_eq_some_iff
    {pairs : List (String × α)}
    (distinct : (pairs.map Prod.fst).Nodup)
    {name : String}
    {value : α} :
    (ofList pairs).get? name = some value ↔ (name, value) ∈ pairs := by
  rw [ofList, get?_foldl_put distinct, get?_empty, Option.or_none]
  show (⟨pairs, distinct⟩ : Entries α).get? name = some value ↔ _
  exact get?_eq_some_iff

/-- What a merged map lists is listed in one of the maps. -/
theorem mem_pairs_merge
    {left right : Entries α}
    {pair : String × α}
    (member : pair ∈ (left.merge right).pairs) :
    pair ∈ right.pairs ∨ pair ∈ left.pairs := by
  have found : (left.merge right).get? pair.1 = some pair.2 :=
    get?_eq_some_iff.mpr member
  rw [get?_merge] at found
  rcases Option.or_eq_some_iff.mp found with isRight | ⟨_, isLeft⟩
  · exact Or.inl (get?_eq_some_iff.mp isRight)
  · exact Or.inr (get?_eq_some_iff.mp isLeft)

/-- A merged map has the names of both maps. -/
theorem mem_keys_merge
    {left right : Entries α}
    {name : String} :
    name ∈ (left.merge right).keys ↔ name ∈ right.keys ∨ name ∈ left.keys :=
  mem_keys_foldl_put

theorem get?_filterKeys_eq_some_iff
    {entries : Entries α}
    {keep : String → Bool}
    {name : String}
    {value : α} :
    (entries.filterKeys keep).get? name = some value ↔
      keep name = true ∧ entries.get? name = some value := by
  rw [get?_eq_some_iff, get?_eq_some_iff, filterKeys, List.mem_filter]
  exact and_comm

end ServiceLevel.Entries
