import ServiceLevel.Labels
import ServiceLevel.Proofs.Attempt
import ServiceLevel.Proofs.Entries

/-!
# Reading filters

A filter is read from the left: a name up to its equals sign, a value between
double quotation marks in which a backslash changes the meaning of the next
character, and a comma with a blank between pairs.  Reading the filter of a label
map gives back the pairs of the map in ascending order of their written form,
whatever characters the values have, and leaves what stands behind the filter.

A map has a filter if all its values are texts.
-/

namespace ServiceLevel.Labels

/-! ## Values -/

/-- The character that a backslash and another character stand for. -/
def unescaped (c : Char) : Char :=
  if c = 'n' then '\n'
  else if c = 't' then '\t'
  else c

/-- Put a character in front of a value that was read. -/
def withFirst
    (c : Char)
    (read : List Char × List Char) : List Char × List Char :=
  (c :: read.1, read.2)

/--
Read a value up to the quotation mark that closes it; `marked` tells whether a
backslash stands in front of the text.
-/
def readValue (marked : Bool) : List Char → Option (List Char × List Char)
  | [] => none
  | c :: rest =>
    if marked then (readValue false rest).map (withFirst (unescaped c))
    else if c = '"' then some ([], rest)
    else if c = '\\' then readValue true rest
    else (readValue false rest).map (withFirst c)

theorem readValue_escapeChar
    (c : Char)
    (text : List Char) :
    readValue false (escapeChar c ++ text) =
      (readValue false text).map (withFirst c) := by
  by_cases isBackslash : c = '\\'
  · rw [isBackslash]
    rfl
  by_cases isQuote : c = '"'
  · rw [isQuote]
    rfl
  by_cases isLineBreak : c = '\n'
  · rw [isLineBreak]
    rfl
  by_cases isTab : c = '\t'
  · rw [isTab]
    rfl
  · simp only [escapeChar, isBackslash, isQuote, isLineBreak, isTab, if_false,
      List.singleton_append]
    rw [readValue]
    simp only [Bool.false_eq_true, if_false, isQuote, isBackslash]

/-- A quoted value is read back, whatever characters it has. -/
theorem readValue_quoted
    (value rest : List Char) :
    readValue false (value.flatMap escapeChar ++ '"' :: rest) =
      some (value, rest) := by
  induction value with
  | nil => rfl
  | cons c others ih =>
      rw [List.flatMap_cons, List.append_assoc, readValue_escapeChar, ih]
      rfl

theorem length_readValue
    {marked : Bool}
    {text value rest : List Char}
    (read : readValue marked text = some (value, rest)) :
    rest.length < text.length := by
  induction text generalizing marked value with
  | nil => cases read
  | cons c behind ih =>
      rw [readValue] at read
      apply Nat.lt_succ_of_le
      split at read
      · obtain ⟨inner, step, same⟩ := Option.map_eq_some_iff.mp read
        cases same
        exact Nat.le_of_lt (ih step)
      · split at read
        · cases read
          exact Nat.le_refl _
        · split at read
          · exact Nat.le_of_lt (ih read)
          · obtain ⟨inner, step, same⟩ := Option.map_eq_some_iff.mp read
            cases same
            exact Nat.le_of_lt (ih step)

/-! ## Pairs -/

/-- The characters that may stand in a name that is read. -/
def isNameChar (c : Char) : Bool :=
  c ≠ '=' && c ≠ '\x7d'

/-- Read a name, an equals sign and a quoted value. -/
def readPair (text : List Char) : Option ((String × String) × List Char) :=
  match text.dropWhile isNameChar with
  | '=' :: '"' :: behind =>
    (readValue false behind).map fun read =>
      ((String.ofList (text.takeWhile isNameChar), String.ofList read.1), read.2)
  | _ => none

/-- The written form of a pair. -/
def writtenPair (pair : String × String) : String :=
  pairText pair.1 pair.2

/-- A name that can be told from its value and from the end of its filter. -/
def IsPlainName (name : String) : Prop :=
  ∀ c ∈ name.toList, isNameChar c

theorem readPair_writtenPair
    {pair : String × String}
    (plainName : IsPlainName pair.1)
    (rest : List Char) :
    readPair ((writtenPair pair).toList ++ rest) = some (pair, rest) := by
  have written :
      (writtenPair pair).toList ++ rest =
        pair.1.toList ++
          '=' :: '"' :: (pair.2.toList.flatMap escapeChar ++ '"' :: rest) := by
    simp only [writtenPair, pairText, quoteValue_eq, String.toList_append,
      String.toList_ofList, List.cons_append, List.append_assoc,
      List.nil_append]
    rfl
  rw [written, readPair, List.dropWhile_append_of_pos plainName,
    List.takeWhile_append_of_pos plainName]
  have stops : isNameChar '=' = false := rfl
  simp only [List.dropWhile_cons, List.takeWhile_cons, stops,
    Bool.false_eq_true, if_false, readValue_quoted, Option.map_some,
    List.append_nil, String.ofList_toList]

theorem length_readPair
    {text rest : List Char}
    {pair : String × String}
    (read : readPair text = some (pair, rest)) :
    rest.length < text.length := by
  simp only [readPair] at read
  split at read
  · rename_i behind found
    obtain ⟨⟨value, after⟩, step, same⟩ := Option.map_eq_some_iff.mp read
    cases same
    have shorter : after.length < behind.length := length_readValue step
    have within : (text.dropWhile isNameChar).length ≤ text.length :=
      (List.dropWhile_suffix _).length_le
    rw [found] at within
    simp only [List.length_cons] at within
    exact Nat.lt_of_lt_of_le (Nat.lt_succ_of_lt (Nat.lt_succ_of_lt shorter)) within
  · cases read

/-! ## Filters -/

/-- Read pairs up to the brace that closes their filter. -/
def readPairs (text : List Char) : Option (List (String × String) × List Char) :=
  match _ : readPair text with
  | some (pair, '\x7d' :: rest) => some ([pair], rest)
  | some (pair, ',' :: ' ' :: behind) =>
    (readPairs behind).map fun read => (pair :: read.1, read.2)
  | _ => none
termination_by text.length
decreasing_by
  have shorter := length_readPair ‹_›
  simp only [List.length_cons] at shorter
  omega

theorem readPairs_of_last
    {text rest : List Char}
    {pair : String × String}
    (read : readPair text = some (pair, '\x7d' :: rest)) :
    readPairs text = some ([pair], rest) := by
  rw [readPairs]
  split
  · rename_i found
    rw [read] at found
    cases found
    rfl
  · rename_i found
    rw [read] at found
    cases found
  · rename_i notLast _
    exact absurd read (notLast pair rest)

theorem readPairs_of_more
    {text behind : List Char}
    {pair : String × String}
    (read : readPair text = some (pair, ',' :: ' ' :: behind)) :
    readPairs text =
      (readPairs behind).map fun read => (pair :: read.1, read.2) := by
  rw [readPairs]
  split
  · rename_i found
    rw [read] at found
    cases found
  · rename_i found
    rw [read] at found
    cases found
    rfl
  · rename_i _ notMore
    exact absurd read (notMore pair behind)

/-- Read the pairs of a filter behind its opening brace. -/
def readFilter (text : List Char) : Option (List (String × String) × List Char) :=
  if text.head? = some '\x7d' then some ([], text.tail)
  else readPairs text

theorem readFilter_writtenPair
    {pair : String × String}
    (plainName : IsPlainName pair.1)
    (rest : List Char) :
    readFilter ((writtenPair pair).toList ++ rest) =
      readPairs ((writtenPair pair).toList ++ rest) := by
  rw [readFilter, if_neg]
  simp only [writtenPair, pairText, String.toList_append]
  cases name : pair.1.toList with
  | nil =>
      intro impossible
      cases impossible
  | cons c others =>
      have notBrace : isNameChar c := plainName c (by rw [name]; exact List.mem_cons_self)
      intro same
      cases same
      cases notBrace

theorem length_readPairs
    {text rest : List Char}
    {pairs : List (String × String)}
    (read : readPairs text = some (pairs, rest)) :
    rest.length < text.length := by
  induction text using readPairs.induct generalizing pairs with
  | case1 text pair behind found =>
      rw [readPairs_of_last found] at read
      cases read
      exact Nat.lt_of_succ_lt (length_readPair found)
  | case2 text pair behind found ih =>
      rw [readPairs_of_more found] at read
      obtain ⟨⟨others, after⟩, step, same⟩ := Option.map_eq_some_iff.mp read
      cases same
      have within : behind.length < text.length :=
        Nat.lt_of_succ_lt (Nat.lt_of_succ_lt (length_readPair found))
      exact Nat.lt_trans (ih step) within
  | case3 text notLast notMore =>
      rw [readPairs] at read
      split at read
      · rename_i found
        exact absurd found (notLast _ _)
      · rename_i found
        exact absurd found (notMore _ _)
      · cases read

theorem length_readFilter
    {text rest : List Char}
    {pairs : List (String × String)}
    (read : readFilter text = some (pairs, rest)) :
    rest.length ≤ text.length := by
  rw [readFilter] at read
  split at read
  · cases read
    rw [List.length_tail]
    exact Nat.sub_le _ _
  · exact Nat.le_of_lt (length_readPairs read)

theorem perm_sortTexts (texts : List String) : (sortTexts texts).Perm texts :=
  List.mergeSort_perm _ _

theorem pairwise_sortTexts (texts : List String) :
    (sortTexts texts).Pairwise fun left right => left ≤ right := by
  have sorted :
      (sortTexts texts).Pairwise fun left right => decide (left ≤ right) = true := by
    apply List.pairwise_mergeSort
    · intro first second third below above
      exact
        decide_eq_true
          (String.le_trans (of_decide_eq_true below) (of_decide_eq_true above))
    · intro first second
      rw [Bool.or_eq_true, decide_eq_true_eq, decide_eq_true_eq]
      exact String.le_total first second
  exact sorted.imp fun ordered => of_decide_eq_true ordered

/-- The pairs of a filter in ascending order of their written form. -/
def inWrittenOrder (pairs : List (String × String)) : List (String × String) :=
  pairs.mergeSort fun left right =>
    decide (writtenPair left ≤ writtenPair right)

theorem map_writtenPair_inWrittenOrder (pairs : List (String × String)) :
    (inWrittenOrder pairs).map writtenPair =
      sortTexts (pairs.map writtenPair) :=
  List.map_mergeSort fun _ _ _ _ => rfl

theorem readPairs_writtenPairs
    {pairs : List (String × String)}
    (some : pairs ≠ [])
    (plainNames : ∀ pair ∈ pairs, IsPlainName pair.1)
    (rest : List Char) :
    readPairs
        ((", ".intercalate (pairs.map writtenPair)).toList ++ '\x7d' :: rest) =
      .some (pairs, rest) := by
  induction pairs with
  | nil => exact absurd rfl some
  | cons pair others ih =>
      have here : IsPlainName pair.1 := plainNames pair List.mem_cons_self
      have there : ∀ other ∈ others, IsPlainName other.1 := by
        intro other member
        exact plainNames other (List.mem_cons_of_mem pair member)
      cases others with
      | nil =>
          rw [List.map_cons, List.map_nil, String.intercalate_singleton]
          exact readPairs_of_last (readPair_writtenPair here _)
      | cons second others =>
          have next := ih (List.cons_ne_nil _ _) there
          have written :
              (", ".intercalate
                    ((pair :: second :: others).map writtenPair)).toList ++
                  '\x7d' :: rest =
                (writtenPair pair).toList ++
                  ',' :: ' ' ::
                    ((", ".intercalate
                      ((second :: others).map writtenPair)).toList ++
                        '\x7d' :: rest) := by
            rw [List.map_cons, List.map_cons, String.intercalate_cons_cons,
              String.toList_append, String.toList_append, List.append_assoc,
              List.append_assoc]
            rfl
          rw [written, readPairs_of_more (readPair_writtenPair here _), next]
          rfl

theorem exists_behind_first
    (first : String)
    (others : List String) :
    ∃ behind,
      (", ".intercalate (first :: others)).toList = first.toList ++ behind := by
  cases others with
  | nil =>
      refine ⟨[], ?_⟩
      rw [String.intercalate_singleton, List.append_nil]
  | cons second rest =>
      refine ⟨(", " ++ ", ".intercalate (second :: rest)).toList, ?_⟩
      rw [String.intercalate_cons_cons, String.append_assoc,
        String.toList_append]

/-- A filter is read back as its pairs, and reading stops behind it. -/
theorem readFilter_writtenPairs
    {pairs : List (String × String)}
    (plainNames : ∀ pair ∈ pairs, IsPlainName pair.1)
    (rest : List Char) :
    readFilter
        ((", ".intercalate (pairs.map writtenPair)).toList ++ '\x7d' :: rest) =
      some (pairs, rest) := by
  cases pairs with
  | nil => rfl
  | cons first others =>
      have asPairs :=
        readPairs_writtenPairs (List.cons_ne_nil first others) plainNames rest
      obtain ⟨behind, begins⟩ :=
        exists_behind_first (writtenPair first) (others.map writtenPair)
      rw [List.map_cons, begins, List.append_assoc] at asPairs ⊢
      rw [readFilter_writtenPair (plainNames first List.mem_cons_self), asPairs]

/-! ## Label maps -/

/-- Pairs of texts as pairs of a label map. -/
def asTexts (pairs : List (String × String)) : List (String × Json) :=
  pairs.map fun pair => (pair.1, .text pair.2)

theorem asTexts_injective : Function.Injective asTexts := by
  intro left right same
  refine List.map_injective_iff.mpr ?_ same
  rintro ⟨name, value⟩ ⟨other, otherValue⟩ samePair
  cases samePair
  rfl

theorem pairTexts_asTexts (pairs : List (String × String)) :
    pairTexts (asTexts pairs) = .ok (pairs.map writtenPair) := by
  induction pairs with
  | nil => rfl
  | cons first rest ih =>
      rw [asTexts, List.map_cons, pairTexts, ← asTexts, ih]
      rfl

/-- Only texts can be written. -/
theorem exists_asTexts_of_pairTexts
    {pairs : List (String × Json)}
    {texts : List String}
    (written : pairTexts pairs = .ok texts) :
    ∃ plain, pairs = asTexts plain := by
  induction pairs generalizing texts with
  | nil => exact ⟨[], rfl⟩
  | cons first rest ih =>
      obtain ⟨name, value⟩ := first
      cases value with
      | text value =>
          obtain ⟨others, step, _⟩ := Attempt.map_eq_ok_iff.mp written
          obtain ⟨plain, isPlain⟩ := ih step
          refine ⟨(name, value) :: plain, ?_⟩
          rw [isPlain]
          rfl
      | null => cases written
      | bool value => cases written
      | number value => cases written
      | array items => cases written
      | object fields => cases written

theorem map_fst_asTexts (pairs : List (String × String)) :
    (asTexts pairs).map Prod.fst = pairs.map Prod.fst := by
  rw [asTexts, List.map_map]
  rfl

/-- What a filter is made of. -/
theorem exists_pairs_of_filterText
    {labels : Labels}
    {filter : String}
    (written : labels.filterText = .ok filter) :
    ∃ pairs,
      labels.pairs = asTexts pairs ∧
        filter =
          "\x7b" ++ ", ".intercalate (sortTexts (pairs.map writtenPair)) ++ "\x7d" := by
  obtain ⟨texts, pairsWritten, rfl⟩ := Attempt.map_eq_ok_iff.mp written
  obtain ⟨pairs, isPlain⟩ := exists_asTexts_of_pairTexts pairsWritten
  rw [isPlain, pairTexts_asTexts] at pairsWritten
  cases pairsWritten
  exact ⟨pairs, isPlain, rfl⟩

/-- A text that begins with a filter of these pairs, and is read so before any other text. -/
def ReadsAs (filter : String) (pairs : List (String × String)) : Prop :=
  ∃ inner,
    filter.toList = '\x7b' :: inner ∧
      ∀ rest, readFilter (inner ++ rest) = some (pairs, rest)

/-- The filter of a label map is read as the pairs of the map. -/
theorem readsAs_filterText
    {labels : Labels}
    {filter : String}
    (written : labels.filterText = .ok filter)
    (plainNames : ∀ name ∈ labels.keys, IsPlainName name) :
    ∃ pairs,
      labels.pairs = asTexts pairs ∧
        ReadsAs filter (inWrittenOrder pairs) := by
  obtain ⟨pairs, isPlain, rfl⟩ := exists_pairs_of_filterText written
  have allPlain : ∀ pair ∈ inWrittenOrder pairs, IsPlainName pair.1 := by
    intro pair member
    apply plainNames
    rw [Entries.keys, isPlain, map_fst_asTexts]
    exact List.mem_map.mpr ⟨pair, List.mem_mergeSort.mp member, rfl⟩
  refine
    ⟨pairs, isPlain,
      (", ".intercalate ((inWrittenOrder pairs).map writtenPair)).toList ++
        ['\x7d'], ?_, ?_⟩
  · rw [map_writtenPair_inWrittenOrder, String.toList_append,
      String.toList_append]
    rfl
  · intro rest
    rw [List.append_assoc, List.singleton_append]
    exact readFilter_writtenPairs allPlain rest

/-! ## Maps that can be written -/

/-- A label map whose values are texts. -/
def HasTexts (labels : Labels) : Prop :=
  ∀ pair ∈ labels.pairs, ∃ text, pair.2 = .text text

theorem exists_pairTexts
    {pairs : List (String × Json)}
    (areTexts : ∀ pair ∈ pairs, ∃ text, pair.2 = .text text) :
    ∃ texts, pairTexts pairs = .ok texts := by
  induction pairs with
  | nil => exact ⟨[], rfl⟩
  | cons first rest ih =>
      rcases first with ⟨name, value⟩
      rcases areTexts (name, value) List.mem_cons_self with ⟨text, rfl⟩
      rcases ih fun pair member => areTexts pair (List.mem_cons_of_mem _ member)
        with ⟨texts, written⟩
      exact ⟨_, Attempt.map_eq_ok_iff.mpr ⟨texts, written, rfl⟩⟩

theorem HasTexts.exists_filterText
    {labels : Labels}
    (hasTexts : labels.HasTexts) :
    ∃ filter, labels.filterText = .ok filter := by
  rcases exists_pairTexts hasTexts with ⟨texts, written⟩
  exact ⟨_, Attempt.map_eq_ok_iff.mpr ⟨texts, written, rfl⟩⟩

theorem HasTexts.merge
    {left right : Labels}
    (isLeft : left.HasTexts)
    (isRight : right.HasTexts) :
    HasTexts (left.merge right) := by
  intro pair member
  rcases Entries.mem_pairs_merge member with inRight | inLeft
  · exact isRight pair inRight
  · exact isLeft pair inLeft

end ServiceLevel.Labels
