import Mathlib.Data.List.Nodup
import Mathlib.Data.List.Perm.Basic
import Mathlib.Data.String.Basic
import ServiceLevel.Proofs.Slo.Identifiers

/-!
# Filters and the maps they come from

No value of a label can end its string early, open another pair or close the filter: the
filter of a label map is read back as the pairs of the map, and as nothing else.  So it is well
structured, and two maps have the same filter exactly if they hold the same pairs, in whatever
order these were given.
-/

namespace ServiceLevel

/-! ## Names of labels -/

namespace Dialect

theorem isLabelChar_or_lineEnd
    {name : String}
    (isName : isLabelName name)
    {c : Char}
    (member : c ∈ name.toList) :
    isLabelChar c ∨ c = '\n' := by
  rcases isLabelName_iff.mp isName with ⟨core, isWord, rfl | rfl⟩
  · exact Or.inl (isWord.chars c member)
  · rw [String.toList_append] at member
    rcases List.mem_append.mp member with inCore | inEnd
    · exact Or.inl (isWord.chars c inCore)
    · exact Or.inr (List.mem_singleton.mp inEnd)

end Dialect

namespace Labels

/-- The name of a label is told from its value and from the end of a filter. -/
theorem isPlainName_of_isLabelName
    {name : String}
    (isName : Dialect.isLabelName name) :
    IsPlainName name := by
  have notEquals : Dialect.isLabelChar '=' = false := by decide
  have notBrace : Dialect.isLabelChar '\x7d' = false := by decide
  intro c member
  rw [isNameChar, Bool.and_eq_true, decide_eq_true_eq, decide_eq_true_eq]
  rcases Dialect.isLabelChar_or_lineEnd isName member with isChar | rfl
  · constructor
    · rintro rfl
      rw [notEquals] at isChar
      cases isChar
    · rintro rfl
      rw [notBrace] at isChar
      cases isChar
  · decide

/-- A label map whose names are names of labels. -/
def HasLabelNames (labels : Labels) : Prop :=
  ∀ name ∈ labels.keys, Dialect.isLabelName name

theorem HasLabelNames.hasClosedNames
    {labels : Labels}
    (named : labels.HasLabelNames) :
    Query.HasClosedNames labels := by
  intro name isKey
  apply Query.closed_of_plain
  intro c member
  exact Slo.isPlain_of_isLabelName (named name isKey) member

theorem HasLabelNames.isPlainName
    {labels : Labels}
    (named : labels.HasLabelNames) :
    ∀ name ∈ labels.keys, IsPlainName name := by
  intro name isKey
  exact isPlainName_of_isLabelName (named name isKey)

/-! ## Written pairs -/

/-- Pairs with plain names are told apart by their written form. -/
theorem writtenPair_injOn :
    Set.InjOn writtenPair {pair | IsPlainName pair.1} := by
  intro pair isPlain other otherPlain same
  have read := readPair_writtenPair isPlain []
  rw [same, readPair_writtenPair otherPlain []] at read
  exact (Prod.mk.inj (Option.some.inj read)).1.symm

/-- The pairs of a map are written in strictly ascending order: none is written twice. -/
theorem pairwise_writtenPair
    {labels : Labels}
    {pairs : List (String × String)}
    (areTexts : labels.pairs = asTexts pairs)
    (plainNames : ∀ name ∈ labels.keys, IsPlainName name) :
    ((inWrittenOrder pairs).map writtenPair).Pairwise (· < ·) := by
  have keys : pairs.map Prod.fst = labels.keys := by
    rw [Entries.keys, areTexts, map_fst_asTexts]
  have distinctPairs : pairs.Nodup := by
    apply List.Nodup.of_map Prod.fst
    rw [keys]
    exact labels.distinct
  have distinct : (pairs.map writtenPair).Nodup := by
    apply List.Nodup.map_on ?_ distinctPairs
    intro pair member other otherMember same
    refine writtenPair_injOn ?_ ?_ same
    · exact plainNames _ (keys ▸ List.mem_map_of_mem member)
    · exact plainNames _ (keys ▸ List.mem_map_of_mem otherMember)
  rw [map_writtenPair_inWrittenOrder]
  have distinctSorted := (perm_sortTexts _).nodup_iff.mpr distinct
  exact
    ((pairwise_sortTexts _).and distinctSorted).imp fun both =>
      lt_of_le_of_ne both.1 both.2

/-- What is written sorted does not depend on the order in which it was given. -/
theorem sortTexts_congr
    {left right : List String}
    (perm : left.Perm right) :
    sortTexts left = sortTexts right := by
  have sorted : (sortTexts left).Perm (sortTexts right) :=
    (perm_sortTexts left).trans (perm.trans (perm_sortTexts right).symm)
  refine sorted.eq_of_pairwise ?_ (pairwise_sortTexts left) (pairwise_sortTexts right)
  intro first second _ _ below above
  exact String.le_antisymm below above

/-! ## Filters -/

section Filters

variable {labels other : Labels} {filter : String}

theorem filterText_of_asTexts
    {pairs : List (String × String)}
    (areTexts : labels.pairs = asTexts pairs) :
    labels.filterText =
      .ok ("\x7b" ++ ", ".intercalate (sortTexts (pairs.map writtenPair)) ++ "\x7d") := by
  rw [filterText, areTexts, pairTexts_asTexts]
  rfl

theorem perm_asTexts_inWrittenOrder
    (pairs : List (String × String)) :
    (asTexts (inWrittenOrder pairs)).Perm (asTexts pairs) :=
  (List.mergeSort_perm _ _).map _

/-- A filter is read as one list of pairs. -/
theorem ReadsAs.unique
    {pairs others : List (String × String)}
    (reads : ReadsAs filter pairs)
    (again : ReadsAs filter others) :
    pairs = others := by
  rcases reads with ⟨inner, begins, read⟩
  rcases again with ⟨otherInner, otherBegins, otherRead⟩
  rw [begins] at otherBegins
  cases otherBegins
  have same := read []
  rw [otherRead []] at same
  exact (Prod.mk.inj (Option.some.inj same)).1.symm

theorem perm_pairs_of_filterText_eq
    (named : labels.HasLabelNames)
    (otherNamed : other.HasLabelNames)
    (written : labels.filterText = .ok filter)
    (otherWritten : other.filterText = .ok filter) :
    other.pairs.Perm labels.pairs := by
  rcases readsAs_filterText written named.isPlainName with ⟨pairs, areTexts, reads⟩
  rcases readsAs_filterText otherWritten otherNamed.isPlainName with
    ⟨others, otherTexts, otherReads⟩
  have same := otherReads.unique reads
  rw [areTexts, otherTexts]
  refine (perm_asTexts_inWrittenOrder others).symm.trans ?_
  rw [same]
  exact perm_asTexts_inWrittenOrder pairs

theorem HasTexts.of_asTexts
    {pairs : List (String × String)}
    (areTexts : labels.pairs = asTexts pairs) :
    labels.HasTexts := by
  intro pair member
  rw [areTexts] at member
  rcases List.mem_map.mp member with ⟨⟨name, value⟩, _, rfl⟩
  exact ⟨value, rfl⟩

theorem HasTexts.exists_asTexts
    (hasTexts : labels.HasTexts) :
    ∃ pairs, labels.pairs = asTexts pairs := by
  rcases exists_pairTexts hasTexts with ⟨texts, written⟩
  exact exists_asTexts_of_pairTexts written

theorem filterText_congr
    (hasTexts : labels.HasTexts)
    (perm : other.pairs.Perm labels.pairs) :
    other.filterText = labels.filterText := by
  have otherTexts : other.HasTexts := fun pair member => hasTexts pair (perm.mem_iff.mp member)
  rcases hasTexts.exists_asTexts with ⟨pairs, areTexts⟩
  rcases otherTexts.exists_asTexts with ⟨others, areOthers⟩
  rw [areTexts, areOthers] at perm
  have permPairs : others.Perm pairs :=
    (List.map_perm_map_iff (List.map_injective_iff.mp asTexts_injective)).mp perm
  rw [filterText_of_asTexts areTexts, filterText_of_asTexts areOthers,
    sortTexts_congr (permPairs.map writtenPair)]

/-- Maps hold the same pairs if one is a rearrangement of the other. -/
theorem perm_pairs_iff :
    other.pairs.Perm labels.pairs ↔ ∀ pair, pair ∈ other.pairs ↔ pair ∈ labels.pairs :=
  List.perm_ext_iff_of_nodup (List.Nodup.of_map _ other.distinct)
    (List.Nodup.of_map _ labels.distinct)

/--
A label map with texts as values has a filter.  Read from the left, the filter gives back the
pairs of the map, each once and in ascending order of their written form, and is read to its
end.  Its brackets nest and its strings end.  Another map has the same filter exactly if it
holds the same pairs.
-/
theorem filterText_reads_back
    (named : labels.HasLabelNames)
    (hasTexts : labels.HasTexts) :
    ∃ filter pairs,
      labels.filterText = .ok filter ∧
        ReadsAs filter pairs ∧
        (asTexts pairs).Perm labels.pairs ∧
        (pairs.map writtenPair).Pairwise (· < ·) ∧
        Query.checkStructure filter = .ok () ∧
        ∀ other : Labels,
          other.HasLabelNames →
            (other.filterText = labels.filterText ↔
              ∀ pair, pair ∈ other.pairs ↔ pair ∈ labels.pairs) := by
  rcases hasTexts.exists_filterText with ⟨filter, written⟩
  rcases readsAs_filterText written named.isPlainName with ⟨pairs, areTexts, reads⟩
  refine
    ⟨filter, inWrittenOrder pairs, written, reads, ?readBack,
      pairwise_writtenPair areTexts named.isPlainName, ?wellStructured, ?determines⟩
  case readBack =>
    rw [areTexts]
    exact perm_asTexts_inWrittenOrder pairs
  case wellStructured =>
    exact
      Query.checkStructure_eq_ok_iff.mpr
        (Query.closed_filterText written named.hasClosedNames)
  case determines =>
    intro other otherNamed
    rw [← perm_pairs_iff]
    constructor
    · intro same
      rw [written] at same
      exact perm_pairs_of_filterText_eq named otherNamed written same
    · exact filterText_congr hasTexts

end Filters

/-- Values that try to close the filter, to open another pair and to end their string early. -/
def hostileLabels : List (String × String) :=
  [("team", "\"\x7d or up\x7b"), ("path", "C:\\\"\n\t, b=\"1\\"), ("a", "")]

theorem filterText_reads_back_of_hostile :
    ∃ filter pairs,
      (ofTexts hostileLabels).filterText = .ok filter ∧
        ReadsAs filter pairs ∧
        (asTexts pairs).Perm (asTexts hostileLabels) ∧
        Query.checkStructure filter = .ok () ∧
        (ofTexts hostileLabels.reverse).filterText = .ok filter ∧
        (ofTexts (("b", "1") :: hostileLabels)).filterText ≠ .ok filter := by
  have named :
      (ofTexts hostileLabels).HasLabelNames ∧
        (ofTexts hostileLabels.reverse).HasLabelNames ∧
        (ofTexts (("b", "1") :: hostileLabels)).HasLabelNames := by
    unfold HasLabelNames
    decide +kernel
  have areTexts : (ofTexts hostileLabels).pairs = asTexts hostileLabels := rfl
  rcases filterText_reads_back named.1 (HasTexts.of_asTexts areTexts) with
    ⟨filter, pairs, written, reads, perm, _, structured, determines⟩
  refine ⟨filter, pairs, written, reads, areTexts ▸ perm, structured, ?_, ?_⟩
  · rw [← written, determines _ named.2.1]
    intro pair
    exact (List.reverse_perm (asTexts hostileLabels)).mem_iff
  · rw [← written, Ne, determines _ named.2.2]
    intro same
    have added : ("b", Json.text "1") ∈ (ofTexts hostileLabels).pairs :=
      (same ("b", .text "1")).mp List.mem_cons_self
    exact absurd added (by decide +kernel)

end Labels

end ServiceLevel
