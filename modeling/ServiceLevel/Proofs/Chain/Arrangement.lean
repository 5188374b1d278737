import Mathlib.Data.List.Basic
import ServiceLevel.Chain

/-!
# The arrangement of chain entries

Entries of plugin chains are declared on three levels and run in ascending order
of priority, those of one priority in the order of their declaration.  Since an
entry may be declared several times, an arrangement orders the entries together
with their places of declaration: each place occurs exactly once.

The main statement says that merging chains arranges what they declare, and that
the entries in front of the built-in processors and those behind them are the two
parts of this arrangement.
-/

namespace ServiceLevel.Chain

/-- A declared entry with its place among the declared ones. -/
abbrev Placed := ChainEntry × Nat

/-- A smaller priority comes first, and of two equal ones the earlier declared. -/
def Precedes (left right : Placed) : Prop :=
  left.1.priority < right.1.priority ∨
    left.1.priority = right.1.priority ∧ left.2 < right.2

theorem Precedes.priority_le
    {left right : Placed}
    (precedes : Precedes left right) :
    left.1.priority ≤ right.1.priority := by
  rcases precedes with less | ⟨same, _⟩
  · exact Int.le_of_lt less
  · exact Int.le_of_eq same

/-- The declared entries, each at its place exactly once, in the order in which they run. -/
structure Arranged (declared : List ChainEntry) (order : List Placed) : Prop where
  complete : order.Perm declared.zipIdx
  ascending : order.Pairwise Precedes

/-- How the sorting of entries compares two of them. -/
def notAfter (left right : ChainEntry) : Bool :=
  decide (left.priority ≤ right.priority)

theorem notAfter_trans
    (first second third : ChainEntry)
    (left : notAfter first second)
    (right : notAfter second third) :
    notAfter first third := by
  simp only [notAfter, decide_eq_true_eq] at left right ⊢
  exact Int.le_trans left right

theorem notAfter_total (left right : ChainEntry) :
    notAfter left right || notAfter right left := by
  simp only [notAfter, Bool.or_eq_true, decide_eq_true_eq]
  exact Int.le_total left.priority right.priority

/--
Entries at different places that are not out of order, ties being decided by the
places, are in order.
-/
theorem precedes_of_zipIdxLE
    {left right : Placed}
    (ordered : List.zipIdxLE notAfter left right)
    (apart : left.2 ≠ right.2) :
    Precedes left right := by
  have inOrder :
      left.1.priority ≤ right.1.priority ∧
        (left.1.priority < right.1.priority ∨ left.2 ≤ right.2) := by
    simpa [List.zipIdxLE, notAfter] using ordered
  obtain ⟨below, less | earlier⟩ := inOrder
  · exact Or.inl less
  · rcases Int.lt_or_eq_of_le below with less | same
    · exact Or.inl less
    · exact Or.inr ⟨same, Nat.lt_of_le_of_ne earlier apart⟩

/-- Sorting entries arranges them. -/
theorem exists_arranged_sortEntries (declared : List ChainEntry) :
    ∃ order,
      Arranged declared order ∧
        order.map Prod.fst = sortEntries declared := by
  let order := declared.zipIdx.mergeSort (List.zipIdxLE notAfter)
  have complete : order.Perm declared.zipIdx :=
    List.mergeSort_perm _ _
  have sorted :
      order.Pairwise fun left right =>
        List.zipIdxLE notAfter left right :=
    List.pairwise_mergeSort
      (List.zipIdxLE_trans notAfter_trans)
      (List.zipIdxLE_total notAfter_total) _
  have placesDiffer : (order.map Prod.snd).Nodup := by
    refine (complete.map Prod.snd).nodup_iff.mpr ?_
    rw [List.zipIdx_map_snd]
    exact List.nodup_range' _
  have apart : order.Pairwise fun left right => left.2 ≠ right.2 :=
    List.pairwise_map.mp placesDiffer
  refine ⟨order, ⟨complete, ?_⟩, List.mergeSort_zipIdx⟩
  exact
    (sorted.and apart).imp fun both =>
      precedes_of_zipIdxLE both.1 both.2

/-! ## The parts around the built-in processors -/

/-- The arranged entries that run before the built-in processors. -/
def placedBefore (order : List Placed) : List Placed :=
  order.filter fun placed => placed.1.priority < 0

/-- The arranged entries that run after the built-in processors. -/
def placedAfter (order : List Placed) : List Placed :=
  order.filter fun placed => 0 ≤ placed.1.priority

theorem map_placedBefore (order : List Placed) :
    (placedBefore order).map Prod.fst = before (order.map Prod.fst) := by
  rw [placedBefore, before, List.filter_map]
  rfl

theorem map_placedAfter (order : List Placed) :
    (placedAfter order).map Prod.fst = after (order.map Prod.fst) := by
  rw [placedAfter, after, List.filter_map]
  rfl

/-- Behind an entry that runs after the built-in processors there is none that runs before. -/
theorem placedBefore_eq_nil
    {rest : List Placed}
    (late : ∀ placed ∈ rest, 0 ≤ placed.1.priority) :
    placedBefore rest = [] := by
  rw [placedBefore, List.filter_eq_nil_iff]
  intro placed member
  have notNegative : ¬ placed.1.priority < 0 :=
    Int.not_lt.mpr (late placed member)
  simpa using notNegative

/-- An arrangement is what runs before followed by what runs after. -/
theorem placedBefore_append_placedAfter
    {order : List Placed}
    (ascending : order.Pairwise Precedes) :
    placedBefore order ++ placedAfter order = order := by
  induction order with
  | nil => rfl
  | cons first rest ih =>
      have ⟨aheadOfRest, restAscending⟩ := List.pairwise_cons.mp ascending
      by_cases negative : first.1.priority < 0
      · have notAfterward : ¬ 0 ≤ first.1.priority :=
          Int.not_le.mpr negative
        have restParts := ih restAscending
        simp only [placedBefore, placedAfter, List.filter_cons, negative,
          notAfterward, decide_true, decide_false, if_true,
          Bool.false_eq_true, if_false, List.cons_append] at restParts ⊢
        rw [restParts]
      · have afterward : 0 ≤ first.1.priority :=
          Int.not_lt.mp negative
        have late :
            ∀ placed ∈ first :: rest, 0 ≤ placed.1.priority := by
          intro placed member
          rcases List.mem_cons.mp member with same | inRest
          · rw [same]
            exact afterward
          · exact Int.le_trans afterward
              (aheadOfRest placed inRest).priority_le
        rw [placedBefore_eq_nil late, List.nil_append, placedAfter,
          List.filter_eq_self]
        intro placed member
        exact decide_eq_true (late placed member)

/--
What runs before the built-in processors and what runs after them are together
the arrangement of all declared entries.
-/
theorem exists_arranged_parts (declared : List ChainEntry) :
    ∃ early late : List Placed,
      Arranged declared (early ++ late) ∧
        (∀ placed ∈ early, placed.1.priority < 0) ∧
        (∀ placed ∈ late, 0 ≤ placed.1.priority) ∧
        early.map Prod.fst = before (sortEntries declared) ∧
        late.map Prod.fst = after (sortEntries declared) := by
  obtain ⟨order, arranged, sorted⟩ := exists_arranged_sortEntries declared
  refine ⟨placedBefore order, placedAfter order, ?_, ?_, ?_, ?_, ?_⟩
  · rw [placedBefore_append_placedAfter arranged.ascending]
    exact arranged
  · intro placed member
    exact of_decide_eq_true (List.mem_filter.mp member).2
  · intro placed member
    exact of_decide_eq_true (List.mem_filter.mp member).2
  · rw [map_placedBefore, sorted]
  · rw [map_placedAfter, sorted]

/-! ## The entries that are kept -/

/-- A list is divided in one way only into items with a property and ones without it behind. -/
theorem eq_of_append_eq
    {α : Type}
    {left right otherLeft otherRight : List α}
    (test : α → Bool)
    (same : left ++ right = otherLeft ++ otherRight)
    (inLeft : ∀ item ∈ left, test item = true)
    (inRight : ∀ item ∈ right, test item = false)
    (inOtherLeft : ∀ item ∈ otherLeft, test item = true)
    (inOtherRight : ∀ item ∈ otherRight, test item = false) :
    left = otherLeft ∧ right = otherRight := by
  have kept := congrArg (List.filter test) same
  rw [List.filter_append, List.filter_append, List.filter_eq_self.mpr inLeft,
    List.filter_eq_self.mpr inOtherLeft,
    List.filter_eq_nil_iff.mpr fun item member => by simp [inRight item member],
    List.filter_eq_nil_iff.mpr fun item member => by simp [inOtherRight item member],
    List.append_nil, List.append_nil] at kept
  rw [kept] at same
  exact ⟨kept, List.append_cancel_left same⟩

/-- Sorting puts an entry behind those that are smaller and in front of the others. -/
theorem exists_sortEntries_cons (entry : ChainEntry) (entries : List ChainEntry) :
    ∃ front back,
      sortEntries (entry :: entries) = front ++ entry :: back ∧
        sortEntries entries = front ++ back ∧
        (∀ earlier ∈ front, notAfter entry earlier = false) ∧
        ∀ later ∈ back, notAfter entry later = true := by
  rcases List.mergeSort_cons notAfter_trans notAfter_total entry entries with
    ⟨front, back, sorted, sortedRest, earlier⟩
  have ascending : (sortEntries (entry :: entries)).Pairwise (notAfter · ·) :=
    List.pairwise_mergeSort notAfter_trans notAfter_total _
  have same : sortEntries (entry :: entries) = front ++ entry :: back := sorted
  rw [same] at ascending
  refine ⟨front, back, sorted, sortedRest, ?_, ?_⟩
  · intro other member
    simpa using earlier other member
  · exact (List.pairwise_cons.mp (List.pairwise_append.mp ascending).2.1).1

/-- Entries that are kept stand among themselves as they do among all. -/
theorem filter_sortEntries (keep : ChainEntry → Bool) (entries : List ChainEntry) :
    (sortEntries entries).filter keep = sortEntries (entries.filter keep) := by
  induction entries with
  | nil => simp [sortEntries]
  | cons entry rest ih =>
      rcases exists_sortEntries_cons entry rest with
        ⟨front, back, sorted, sortedRest, inFront, inBack⟩
      rw [sortedRest, List.filter_append] at ih
      rw [sorted, List.filter_append, List.filter_cons, List.filter_cons]
      split
      · rcases exists_sortEntries_cons entry (rest.filter keep) with
          ⟨keptFront, keptBack, sortedKept, sortedKeptRest, inKeptFront, inKeptBack⟩
        rw [sortedKeptRest] at ih
        rw [sortedKept]
        -- both lists are divided at the priority of the entry
        rcases eq_of_append_eq (fun other => !notAfter entry other) ih
            (fun other member => by simp [inFront other (List.mem_filter.mp member).1])
            (fun other member => by simp [inBack other (List.mem_filter.mp member).1])
            (fun other member => by simp [inKeptFront other member])
            (fun other member => by simp [inKeptBack other member]) with
          ⟨sameFront, sameBack⟩
        rw [sameFront, sameBack]
      · exact ih

end ServiceLevel.Chain
