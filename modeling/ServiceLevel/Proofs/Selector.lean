import ServiceLevel.Proofs.Labels.FilterReader

/-!
# The selectors of an expression

An expression is scanned from the left for the name of a metric with a filter
directly behind it.  Texts without braces hold no selectors, so that those of a
generated expression are found by following the texts it is put together from.
-/

namespace ServiceLevel

/-- A selector as it stands in an expression: a metric and the pairs of its filter. -/
structure Selector where
  metric : String
  pairs : List (String × String)
  deriving DecidableEq, Repr

namespace Selector

/-- A character that may stand in the name of a metric. -/
def isMetricChar (c : Char) : Bool :=
  c.isAlphanum || c = '_' || c = ':'

/-- The name that ends with a character, if the name in front of it is given. -/
def extendName (name : List Char) (c : Char) : List Char :=
  if isMetricChar c then name ++ [c] else []

/-- The selectors of a text behind the given name. -/
def scan (name text : List Char) : List Selector :=
  match text with
  | [] => []
  | c :: rest =>
    if c = '\x7b' then
      match _ : Labels.readFilter rest with
      | some (pairs, behind) => ⟨String.ofList name, pairs⟩ :: scan [] behind
      | none => scan [] rest
    else scan (extendName name c) rest
termination_by text.length
decreasing_by
  · exact Nat.lt_succ_of_le (Labels.length_readFilter ‹_›)
  · exact Nat.lt_succ_self _
  · exact Nat.lt_succ_self _

/-- The selectors of an expression, in their order. -/
def allIn (expression : String) : List Selector :=
  scan [] expression.toList

/-! ## Texts without selectors -/

theorem scan_append_of_notMem
    {plain : List Char}
    (noBrace : '\x7b' ∉ plain)
    (name rest : List Char) :
    scan name (plain ++ rest) = scan (plain.foldl extendName name) rest := by
  induction plain generalizing name with
  | nil => rfl
  | cons c others ih =>
      have ⟨notBrace, noneBehind⟩ := not_or.mp (List.mem_cons.not.mp noBrace)
      rw [List.cons_append, scan, if_neg (Ne.symm notBrace), ih noneBehind]
      rfl

/-- A text that holds no selector and is no part of one that follows. -/
structure Separates (text : String) : Prop where
  noBrace : '\x7b' ∉ text.toList
  ends : text.toList.getLast?.map isMetricChar = some false

instance (text : String) : Decidable (Separates text) :=
  decidable_of_iff
    ('\x7b' ∉ text.toList ∧
      text.toList.getLast?.map isMetricChar = some false)
    ⟨fun both => ⟨both.1, both.2⟩, fun separates => ⟨separates.1, separates.2⟩⟩

theorem Separates.append
    {plain text : String}
    (noBrace : '\x7b' ∉ plain.toList)
    (separates : Separates text) :
    Separates (plain ++ text) where
  noBrace := by
    rw [String.toList_append, List.mem_append, not_or]
    exact ⟨noBrace, separates.noBrace⟩
  ends := by
    obtain ⟨last, isLast, _⟩ := Option.map_eq_some_iff.mp separates.ends
    rw [String.toList_append, List.getLast?_append, isLast, Option.some_or,
      ← isLast]
    exact separates.ends

theorem Separates.scan_append
    {text : String}
    (separates : Separates text)
    (name : List Char)
    (rest : String) :
    scan name (text ++ rest).toList = scan [] rest.toList := by
  obtain ⟨last, isLast, notMetric⟩ := Option.map_eq_some_iff.mp separates.ends
  obtain ⟨front, split⟩ := List.getLast?_eq_some_iff.mp isLast
  rw [String.toList_append, scan_append_of_notMem separates.noBrace, split,
    List.foldl_append, List.foldl_cons, List.foldl_nil, extendName, notMetric,
    if_neg]
  exact Bool.false_ne_true

/-! ## Selectors behind each other -/

/-- A name with no other characters than those of metrics. -/
def IsMetric (metric : String) : Prop :=
  ∀ c ∈ metric.toList, isMetricChar c

theorem foldl_extendName
    {metric : List Char}
    (isMetric : ∀ c ∈ metric, isMetricChar c)
    (name : List Char) :
    metric.foldl extendName name = name ++ metric := by
  induction metric generalizing name with
  | nil => exact (List.append_nil name).symm
  | cons c others ih =>
      have here : isMetricChar c := isMetric c List.mem_cons_self
      have there : ∀ other ∈ others, isMetricChar other := by
        intro other member
        exact isMetric other (List.mem_cons_of_mem c member)
      rw [List.foldl_cons, extendName, if_pos here, ih there, List.append_assoc,
        List.singleton_append]

/-- A metric with its filter is found as a selector of the pairs of the filter. -/
theorem scan_selector
    {metric filter : String}
    {pairs : List (String × String)}
    (isMetric : IsMetric metric)
    (reads : Labels.ReadsAs filter pairs)
    (rest : String) :
    scan [] (metric ++ (filter ++ rest)).toList =
      ⟨metric, pairs⟩ :: scan [] rest.toList := by
  have noBrace : '\x7b' ∉ metric.toList := by
    intro member
    cases isMetric _ member
  obtain ⟨inner, begins, readBack⟩ := reads
  rw [String.toList_append, scan_append_of_notMem noBrace,
    foldl_extendName isMetric, List.nil_append, String.toList_append, begins, List.cons_append,
    scan, if_pos rfl]
  split
  · rename_i found behind read
    rw [readBack] at read
    cases read
    rw [String.ofList_toList]
  · rename_i read
    rw [readBack] at read
    cases read

end Selector

end ServiceLevel
