import Mathlib.Data.List.Forall2

/-!
# Attempts

Making processors, objectives and rules are attempts that end with a value or
with a failure, and the lists they work on are walked through item by item, the
first failure ending the walk.  A walk succeeds exactly if every item does, with
the values in their order; if it fails, then with the failure of the first item
that has one.
-/

namespace ServiceLevel.Attempt

variable {α β γ ε : Type}

theorem bind_eq_ok_iff
    {attempt : Except ε α}
    {next : α → Except ε β}
    {result : β} :
    attempt >>= next = .ok result ↔
      ∃ value, attempt = .ok value ∧ next value = .ok result := by
  cases attempt with
  | error failure =>
      constructor
      · intro impossible
        cases impossible
      · rintro ⟨_, impossible, _⟩
        cases impossible
  | ok value =>
      constructor
      · intro continued
        exact ⟨value, rfl, continued⟩
      · rintro ⟨_, same, continued⟩
        cases same
        exact continued

theorem bind_eq_error_iff
    {attempt : Except ε α}
    {next : α → Except ε β}
    {failure : ε} :
    attempt >>= next = .error failure ↔
      attempt = .error failure ∨
        ∃ value, attempt = .ok value ∧ next value = .error failure := by
  cases attempt with
  | error other =>
      constructor
      · intro same
        cases same
        exact Or.inl rfl
      · rintro (same | ⟨_, impossible, _⟩)
        · cases same
          rfl
        · cases impossible
  | ok value =>
      constructor
      · intro continued
        exact Or.inr ⟨value, rfl, continued⟩
      · rintro (impossible | ⟨_, same, continued⟩)
        · cases impossible
        · cases same
          exact continued

/-- A check in front of an attempt has to succeed, and says nothing else. -/
theorem check_eq_ok_iff
    {check : Except ε Unit}
    {next : Except ε α}
    {result : α} :
    (check >>= fun _ => next) = .ok result ↔
      check = .ok () ∧ next = .ok result := by
  rw [bind_eq_ok_iff]
  constructor
  · rintro ⟨_, checked, continued⟩
    exact ⟨checked, continued⟩
  · rintro ⟨checked, continued⟩
    exact ⟨(), checked, continued⟩

/-- Whichever of two attempts is made in front of another, that one has to succeed. -/
theorem exists_of_ite_bind_eq_ok
    {condition : Prop}
    [Decidable condition]
    {left right : Except ε α}
    {next : α → Except ε β}
    {result : β}
    (made :
      (if condition then left >>= next else right >>= next) = .ok result) :
    ∃ value, next value = .ok result := by
  split at made
  · rcases bind_eq_ok_iff.mp made with ⟨value, _, continued⟩
    exact ⟨value, continued⟩
  · rcases bind_eq_ok_iff.mp made with ⟨value, _, continued⟩
    exact ⟨value, continued⟩

theorem map_eq_ok_iff
    {attempt : Except ε α}
    {change : α → β}
    {result : β} :
    attempt.map change = .ok result ↔
      ∃ value, attempt = .ok value ∧ change value = result := by
  cases attempt with
  | error failure =>
      constructor
      · intro impossible
        cases impossible
      · rintro ⟨_, impossible, _⟩
        cases impossible
  | ok value =>
      constructor
      · intro same
        cases same
        exact ⟨value, rfl, rfl⟩
      · rintro ⟨_, same, changed⟩
        cases same
        exact congrArg Except.ok changed

theorem map_eq_error_iff
    {attempt : Except ε α}
    {change : α → β}
    {failure : ε} :
    attempt.map change = .error failure ↔ attempt = .error failure := by
  cases attempt with
  | error other =>
      constructor
      · intro same
        cases same
        rfl
      · intro same
        cases same
        rfl
  | ok value =>
      constructor
      · intro impossible
        cases impossible
      · intro impossible
        cases impossible

theorem exists_of_isOk
    {attempt : Except ε α}
    (isOk : attempt.isOk = true) :
    ∃ value, attempt = .ok value := by
  cases attempt with
  | error failure => cases isOk
  | ok value => exact ⟨value, rfl⟩

theorem toOption_eq_some_iff
    {attempt : Except ε α}
    {value : α} :
    attempt.toOption = some value ↔ attempt = .ok value := by
  cases attempt with
  | error failure => simp [Except.toOption]
  | ok other => simp [Except.toOption]

/-! ## Walks through lists -/

/-- A walk starts with its first item and goes on only if that succeeds. -/
theorem mapM_cons_eq
    (attempt : α → Except ε β)
    (first : α)
    (rest : List α) :
    (first :: rest).mapM attempt =
      attempt first >>= fun value =>
        (rest.mapM attempt).map (value :: ·) := by
  rw [List.mapM_cons]
  cases attempt first with
  | error failure => rfl
  | ok value =>
      cases rest.mapM attempt with
      | error failure => rfl
      | ok values => rfl

/-- A walk succeeds exactly if all its items do. -/
theorem mapM_eq_ok_iff
    {attempt : α → Except ε β}
    {items : List α}
    {values : List β} :
    items.mapM attempt = .ok values ↔
      List.Forall₂ (fun item value => attempt item = .ok value)
        items values := by
  induction items generalizing values with
  | nil =>
      rw [List.forall₂_nil_left_iff, List.mapM_nil]
      constructor
      · intro same
        cases same
        rfl
      · intro empty
        rw [empty]
        rfl
  | cons first rest ih =>
      rw [mapM_cons_eq, bind_eq_ok_iff, List.forall₂_cons_left_iff]
      constructor
      · rintro ⟨value, made, continued⟩
        obtain ⟨others, walked, same⟩ := map_eq_ok_iff.mp continued
        exact ⟨value, others, made, ih.mp walked, same.symm⟩
      · rintro ⟨value, others, made, walked, same⟩
        exact ⟨value, made,
          map_eq_ok_iff.mpr ⟨others, ih.mpr walked, same.symm⟩⟩

/-- A walk that fails does so at its first item that fails. -/
theorem exists_of_mapM_eq_error
    {attempt : α → Except ε β}
    {items : List α}
    {failure : ε}
    (failed : items.mapM attempt = .error failure) :
    ∃ before item after values,
      items = before ++ item :: after ∧
        before.mapM attempt = .ok values ∧
        attempt item = .error failure := by
  induction items with
  | nil => cases failed
  | cons first rest ih =>
      rw [mapM_cons_eq] at failed
      rcases bind_eq_error_iff.mp failed with
        here | ⟨value, made, continued⟩
      · exact ⟨[], first, rest, [], rfl, rfl, here⟩
      · obtain ⟨before, item, after, values, split, walked, there⟩ :=
          ih (map_eq_error_iff.mp continued)
        refine
          ⟨first :: before, item, after, value :: values, ?_, ?_, there⟩
        · rw [split]
          rfl
        · rw [mapM_cons_eq, made, walked]
          rfl

theorem exists_mapM_eq_ok
    {attempt : α → Except ε β}
    {items : List α}
    (each : ∀ item ∈ items, ∃ value, attempt item = .ok value) :
    ∃ values, items.mapM attempt = .ok values := by
  induction items with
  | nil => exact ⟨[], rfl⟩
  | cons first rest ih =>
      obtain ⟨value, made⟩ := each first List.mem_cons_self
      obtain ⟨values, walked⟩ :=
        ih fun item member => each item (List.mem_cons_of_mem first member)
      refine ⟨value :: values, ?_⟩
      rw [mapM_cons_eq, made, walked]
      rfl

/-- A walk fails with the first item that does. -/
theorem mapM_eq_error_of_split
    {attempt : α → Except ε β}
    {before after : List α}
    {item : α}
    (each : ∀ earlier ∈ before, ∃ value, attempt earlier = .ok value)
    {failure : ε}
    (failed : attempt item = .error failure) :
    (before ++ item :: after).mapM attempt = .error failure := by
  obtain ⟨values, walked⟩ := exists_mapM_eq_ok each
  rw [List.mapM_append, walked, mapM_cons_eq, failed]
  rfl

/-- All items are good, or one of them is the first that is not. -/
theorem forall_or_first
    (isGood : α → Prop)
    (items : List α) :
    (∀ item ∈ items, isGood item) ∨
      ∃ before item after,
        items = before ++ item :: after ∧
          (∀ earlier ∈ before, isGood earlier) ∧
          ¬ isGood item := by
  induction items with
  | nil => exact Or.inl (List.forall_mem_nil isGood)
  | cons first rest ih =>
      by_cases isFirst : isGood first
      · rcases ih with all | ⟨before, item, after, split, good, bad⟩
        · exact Or.inl (List.forall_mem_cons.mpr ⟨isFirst, all⟩)
        · refine Or.inr ⟨first :: before, item, after, ?_, ?_, bad⟩
          · rw [split, List.cons_append]
          · exact List.forall_mem_cons.mpr ⟨isFirst, good⟩
      · exact Or.inr ⟨[], first, rest, rfl, List.forall_mem_nil isGood, isFirst⟩

/-- Two walks, the second through what the first has made, are one walk. -/
theorem mapM_bind_mapM_eq_ok_iff
    {first : α → Except ε β}
    {second : β → Except ε γ}
    {items : List α}
    {values : List γ} :
    (items.mapM first >>= fun made => made.mapM second) = .ok values ↔
      List.Forall₂ (fun item value => first item >>= second = .ok value)
        items values := by
  induction items generalizing values with
  | nil =>
      show ([] : List β).mapM second = .ok values ↔ _
      rw [mapM_eq_ok_iff, List.forall₂_nil_left_iff,
        List.forall₂_nil_left_iff]
  | cons item rest ih =>
      rw [bind_eq_ok_iff, List.forall₂_cons_left_iff]
      constructor
      · rintro ⟨made, firstWalk, secondWalk⟩
        rw [mapM_eq_ok_iff, List.forall₂_cons_left_iff] at firstWalk
        obtain ⟨middle, others, here, there, rfl⟩ := firstWalk
        rw [mapM_eq_ok_iff, List.forall₂_cons_left_iff] at secondWalk
        obtain ⟨value, results, last, walked, rfl⟩ := secondWalk
        have joined :
            (rest.mapM first >>= fun made => made.mapM second) =
              .ok results :=
          bind_eq_ok_iff.mpr
            ⟨others, mapM_eq_ok_iff.mpr there, mapM_eq_ok_iff.mpr walked⟩
        exact
          ⟨value, results, bind_eq_ok_iff.mpr ⟨middle, here, last⟩,
            ih.mp joined, rfl⟩
      · rintro ⟨value, results, both, walked, rfl⟩
        obtain ⟨middle, here, last⟩ := bind_eq_ok_iff.mp both
        obtain ⟨others, there, joined⟩ := bind_eq_ok_iff.mp (ih.mpr walked)
        exact
          ⟨middle :: others,
            mapM_eq_ok_iff.mpr (.cons here (mapM_eq_ok_iff.mp there)),
            mapM_eq_ok_iff.mpr (.cons last (mapM_eq_ok_iff.mp joined))⟩

/-- What is related to a divided list is divided in the same way. -/
theorem exists_split_of_forall₂
    {relation : α → β → Prop}
    {items : List α}
    {before after : List β}
    {value : β}
    (related : List.Forall₂ relation items (before ++ value :: after)) :
    ∃ front item back,
      items = front ++ item :: back ∧
        List.Forall₂ relation front before ∧
        relation item value ∧
        List.Forall₂ relation back after := by
  induction before generalizing items with
  | nil =>
      obtain ⟨item, back, here, there, same⟩ :=
        List.forall₂_cons_right_iff.mp related
      exact ⟨[], item, back, same, .nil, here, there⟩
  | cons first rest ih =>
      rw [List.cons_append] at related
      obtain ⟨start, others, atFirst, continued, same⟩ :=
        List.forall₂_cons_right_iff.mp related
      obtain ⟨front, item, back, split, inFront, here, behind⟩ := ih continued
      refine ⟨start :: front, item, back, ?_, .cons atFirst inFront, here, behind⟩
      rw [same, split, List.cons_append]

/-- Each item on the left is related to one on the right. -/
theorem exists_right_of_forall₂
    {relation : α → β → Prop}
    {items : List α}
    {values : List β}
    (related : List.Forall₂ relation items values)
    {item : α}
    (member : item ∈ items) :
    ∃ value ∈ values, relation item value := by
  induction related with
  | nil => cases member
  | cons here there ih =>
      rcases List.mem_cons.mp member with rfl | inRest
      · exact ⟨_, List.mem_cons_self, here⟩
      · obtain ⟨value, found, isRelated⟩ := ih inRest
        exact ⟨value, List.mem_cons_of_mem _ found, isRelated⟩

/-- Each item on the right is related to one on the left. -/
theorem exists_left_of_forall₂
    {relation : α → β → Prop}
    {items : List α}
    {values : List β}
    (related : List.Forall₂ relation items values)
    {value : β}
    (member : value ∈ values) :
    ∃ item ∈ items, relation item value :=
  exists_right_of_forall₂ related.flip member

/-- Items at one position are related. -/
theorem exists_getElem?_of_forall₂
    {relation : α → β → Prop}
    {items : List α}
    {values : List β}
    (related : List.Forall₂ relation items values)
    {position : Nat}
    {item : α}
    (found : items[position]? = some item) :
    ∃ value, values[position]? = some value ∧ relation item value := by
  induction related generalizing position with
  | nil => cases found
  | @cons _ value _ _ here there ih =>
      cases position with
      | zero =>
          cases found
          exact ⟨value, rfl, here⟩
      | succ position => exact ih found

/-! ## Attempts side by side -/

/-- Attempts that fail with the same failure, or succeed with related values. -/
inductive Alike (relation : α → β → Prop) : Except ε α → Except ε β → Prop where
  | failed (failure : ε) : Alike relation (.error failure) (.error failure)
  | done {value : α} {other : β}
      (related : relation value other) :
      Alike relation (.ok value) (.ok other)

theorem Alike.exists_ok
    {relation : α → β → Prop}
    {attempt : Except ε α}
    {other : β}
    (alike : Alike relation attempt (.ok other)) :
    ∃ value, attempt = .ok value ∧ relation value other := by
  cases alike with
  | done related => exact ⟨_, rfl, related⟩

/-- Attempts that are like one and the same are alike. -/
theorem Alike.join
    {left : α → β → Prop}
    {right : α → γ → Prop}
    {attempt : Except ε α}
    {one : Except ε β}
    {other : Except ε γ}
    (here : Alike left attempt one)
    (there : Alike right attempt other) :
    Alike
      (fun value otherValue =>
        ∃ common, attempt = .ok common ∧ left common value ∧ right common otherValue)
      one other := by
  cases here with
  | failed failure =>
      cases there
      exact .failed failure
  | done isLeft =>
      cases there with
      | done isRight => exact .done ⟨_, rfl, isLeft, isRight⟩

theorem Alike.map
    {δ : Type}
    {relation : α → β → Prop}
    {results : γ → δ → Prop}
    {attempt : Except ε α}
    {other : Except ε β}
    {change : α → γ}
    {otherChange : β → δ}
    (alike : Alike relation attempt other)
    (each :
      ∀ value otherValue,
        relation value otherValue → results (change value) (otherChange otherValue)) :
    Alike results (attempt.map change) (other.map otherChange) := by
  cases alike with
  | failed failure => exact .failed failure
  | done related => exact .done (each _ _ related)

theorem Alike.bind
    {δ : Type}
    {relation : α → β → Prop}
    {results : γ → δ → Prop}
    {attempt : Except ε α}
    {other : Except ε β}
    {next : α → Except ε γ}
    {otherNext : β → Except ε δ}
    (alike : Alike relation attempt other)
    (continued :
      ∀ value otherValue,
        relation value otherValue →
          Alike results (next value) (otherNext otherValue)) :
    Alike results (attempt >>= next) (other >>= otherNext) := by
  cases alike with
  | failed failure => exact .failed failure
  | done related => exact continued _ _ related

/-- Walks whose items are alike are alike. -/
theorem Alike.mapM
    {δ : Type}
    {results : γ → δ → Prop}
    {attempt : α → Except ε γ}
    {other : β → Except ε δ}
    {items : List α}
    {others : List β}
    (each :
      List.Forall₂ (fun item otherItem => Alike results (attempt item) (other otherItem))
        items others) :
    Alike (List.Forall₂ results) (items.mapM attempt) (others.mapM other) := by
  induction each with
  | nil => exact .done .nil
  | cons first _ ih =>
      rw [List.mapM_cons, List.mapM_cons]
      refine first.bind fun _ _ here => ih.bind fun _ _ there => ?_
      exact .done (.cons here there)

end ServiceLevel.Attempt
