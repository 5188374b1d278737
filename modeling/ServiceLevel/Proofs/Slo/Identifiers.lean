import ServiceLevel.Proofs.Slo.Dialects

/-!
# The identifiers of accepted objectives

The identifier, the name and the service of an objective, and the names of its labels and
annotations, are written into rules as they are.  What the Prometheus dialect accepts as
such a text is described exactly: a clean text, which for identifiers begins and ends with
a letter or digit, or a clean text with one line break behind it.

So the texts of an accepted objective are clean exactly if none of them holds a line break,
and an identifier or a name that ends with one is accepted and carried into the rules.
-/

namespace ServiceLevel

/-! ## Texts up to a final line break -/

namespace Duration

theorem dropLineEnd_append_lineEnd (text : List Char) :
    dropLineEnd (text ++ ['\n']) = text := by
  rw [dropLineEnd, List.reverse_append]
  exact List.reverse_reverse text

theorem dropLineEnd_of_getLast?_ne
    {text : List Char}
    (ends : text.getLast? ≠ some '\n') :
    dropLineEnd text = text := by
  rw [dropLineEnd]
  split
  · rename_i rest isReversed
    rw [List.getLast?_eq_head?_reverse, isReversed] at ends
    exact absurd rfl ends
  · rfl

theorem eq_dropLineEnd_or (text : List Char) :
    text = dropLineEnd text ∨ text = dropLineEnd text ++ ['\n'] := by
  by_cases ends : text.getLast? = some '\n'
  · rcases List.getLast?_eq_some_iff.mp ends with ⟨front, rfl⟩
    rw [dropLineEnd_append_lineEnd]
    exact Or.inr rfl
  · exact Or.inl (dropLineEnd_of_getLast?_ne ends).symm

end Duration

/-- A text that is given, or the given text with one line break behind it. -/
def IsUpToLineEnd (core text : String) : Prop :=
  text = core ∨ text = core ++ "\n"

theorem isUpToLineEnd_ofList_dropLineEnd (text : String) :
    IsUpToLineEnd (String.ofList (Duration.dropLineEnd text.toList)) text := by
  rcases Duration.eq_dropLineEnd_or text.toList with same | behind
  · left
    rw [← same, String.ofList_toList]
  · right
    rw [← String.toList_inj, String.toList_append, String.toList_ofList]
    exact behind

theorem IsUpToLineEnd.eq_of_noLineEnd
    {core text : String}
    (isUpTo : IsUpToLineEnd core text)
    (noLineEnd : '\n' ∉ text.toList) :
    text = core := by
  rcases isUpTo with same | behind
  · exact same
  · rw [behind, String.toList_append] at noLineEnd
    exact absurd (List.mem_append_right _ (List.mem_singleton_self '\n')) noLineEnd

theorem IsUpToLineEnd.dropLineEnd_eq
    {core text : String}
    (isUpTo : IsUpToLineEnd core text)
    (noLineEnd : '\n' ∉ core.toList) :
    Duration.dropLineEnd text.toList = core.toList := by
  rcases isUpTo with rfl | rfl
  · apply Duration.dropLineEnd_of_getLast?_ne
    intro ends
    exact noLineEnd (List.mem_of_getLast? ends)
  · rw [String.toList_append]
    exact Duration.dropLineEnd_append_lineEnd core.toList

/-! ## Clean texts -/

namespace Slo

/-- A character that may stand anywhere in an identifier. -/
def isIdentifierChar (c : Char) : Bool :=
  c.isAlphanum || c = '-' || c = '_' || c = '.'

/-- Letters, digits, `-`, `_` and `.`, with a letter or digit at both ends. -/
structure IsIdentifier (text : String) : Prop where
  chars : ∀ c ∈ text.toList, isIdentifierChar c
  first : ∃ c ∈ text.toList.head?, c.isAlphanum
  last : ∃ c ∈ text.toList.getLast?, c.isAlphanum

/-- The texts that identify an objective. -/
def identifiers (slo : Slo) : List String :=
  [slo.id, slo.name, slo.service]

theorem IsIdentifier.noLineEnd
    {text : String}
    (isIdentifier : IsIdentifier text) :
    '\n' ∉ text.toList := by
  intro member
  exact absurd (isIdentifier.chars '\n' member) (by decide)

theorem isName_iff_of_dropLineEnd
    {name core : String}
    (isCore : Duration.dropLineEnd name.toList = core.toList) :
    isName name ↔ IsIdentifier core ∧ 2 ≤ core.length := by
  rw [isName, isCore, ← String.length_toList]
  rcases chars : core.toList with _ | ⟨first, rest⟩
  · constructor
    · intro impossible
      cases impossible
    · rintro ⟨isIdentifier, _⟩
      rcases isIdentifier.first with ⟨c, isFirst, _⟩
      rw [chars] at isFirst
      cases isFirst
  · have ends : core.toList.getLast? = some (rest.getLast?.getD first) := by
      rw [chars, List.getLast?_cons]
    have begins : core.toList.head? = some first := by
      rw [chars, List.head?_cons]
    rw [List.getLast?_cons]
    simp only [Bool.and_eq_true, List.all_eq_true, Bool.not_eq_true', List.length_cons]
    constructor
    · rintro ⟨⟨⟨isFirst, isLast⟩, goesOn⟩, others⟩
      refine ⟨⟨?_, ⟨first, begins, isFirst⟩, ⟨_, ends, isLast⟩⟩, ?_⟩
      · rw [chars, List.forall_mem_cons]
        refine ⟨?_, others⟩
        rw [isIdentifierChar, isFirst]
        rfl
      · have notEmpty := List.length_pos_of_ne_nil (List.isEmpty_eq_false_iff.mp goesOn)
        omega
    · rintro ⟨⟨allowed, ⟨c, isFirst, cFirst⟩, ⟨d, isLast, dLast⟩⟩, isLong⟩
      rw [begins] at isFirst
      rw [ends] at isLast
      cases isFirst
      cases isLast
      rw [chars, List.forall_mem_cons] at allowed
      refine ⟨⟨⟨cFirst, dLast⟩, ?_⟩, allowed.2⟩
      rw [List.isEmpty_eq_false_iff, ← List.length_pos_iff_ne_nil]
      omega

/--
A name is accepted exactly if it is an identifier of two or more characters, up to a line break.
-/
theorem isName_iff {name : String} :
    isName name ↔
      ∃ core, IsIdentifier core ∧ 2 ≤ core.length ∧ IsUpToLineEnd core name := by
  constructor
  · intro accepted
    have isUpTo := isUpToLineEnd_ofList_dropLineEnd name
    have isCore := (isName_iff_of_dropLineEnd String.toList_ofList.symm).mp accepted
    exact ⟨_, isCore.1, isCore.2, isUpTo⟩
  · rintro ⟨core, isIdentifier, isLong, isUpTo⟩
    have isCore := isUpTo.dropLineEnd_eq isIdentifier.noLineEnd
    exact (isName_iff_of_dropLineEnd isCore).mpr ⟨isIdentifier, isLong⟩

theorem exists_identifier_of_checkName
    {name : String}
    (checked : checkName name = .ok ()) :
    ∃ core, IsIdentifier core ∧ IsUpToLineEnd core name := by
  rw [checkName] at checked
  split_ifs at checked with isEmpty accepted
  rcases isName_iff.mp accepted with ⟨core, isIdentifier, _, isUpTo⟩
  exact ⟨core, isIdentifier, isUpTo⟩

end Slo

namespace Dialect

/-- A character that the name of a label may begin with. -/
def beginsLabel (c : Char) : Bool :=
  c.isAlpha || c = '_'

/-- A character that may stand anywhere in the name of a label. -/
def isLabelChar (c : Char) : Bool :=
  c.isAlphanum || c = '_'

/-- Letters, digits and `_`, with a letter or `_` in front. -/
structure IsLabelWord (text : String) : Prop where
  chars : ∀ c ∈ text.toList, isLabelChar c
  first : ∃ c ∈ text.toList.head?, beginsLabel c

theorem isLabelChar_of_beginsLabel
    {c : Char}
    (begins : beginsLabel c) :
    isLabelChar c := by
  rw [isLabelChar, Char.isAlphanum]
  rcases Bool.or_eq_true_iff.mp begins with isLetter | isLine
  · rw [isLetter, Bool.true_or, Bool.true_or]
  · rw [isLine, Bool.or_true]

theorem IsLabelWord.noLineEnd
    {text : String}
    (isWord : IsLabelWord text) :
    '\n' ∉ text.toList := by
  intro member
  exact absurd (isWord.chars '\n' member) (by decide)

theorem isLabelName_iff_of_dropLineEnd
    {name core : String}
    (isCore : Duration.dropLineEnd name.toList = core.toList) :
    isLabelName name ↔ IsLabelWord core := by
  rw [isLabelName, isCore]
  rcases chars : core.toList with _ | ⟨first, rest⟩
  · constructor
    · intro impossible
      cases impossible
    · intro isWord
      rcases isWord.first with ⟨c, isFirst, _⟩
      rw [chars] at isFirst
      cases isFirst
  · have begins : core.toList.head? = some first := by
      rw [chars, List.head?_cons]
    simp only [Bool.and_eq_true, List.all_eq_true]
    constructor
    · rintro ⟨isFirst, others⟩
      refine ⟨?_, first, begins, isFirst⟩
      rw [chars, List.forall_mem_cons]
      exact ⟨isLabelChar_of_beginsLabel isFirst, others⟩
    · rintro ⟨allowed, c, isC, cBegins⟩
      rw [begins] at isC
      cases isC
      rw [chars, List.forall_mem_cons] at allowed
      exact ⟨cBegins, allowed.2⟩

/-- A name of a label is accepted exactly if it is a label word, up to a line break. -/
theorem isLabelName_iff {name : String} :
    isLabelName name ↔ ∃ core, IsLabelWord core ∧ IsUpToLineEnd core name := by
  constructor
  · intro accepted
    have isUpTo := isUpToLineEnd_ofList_dropLineEnd name
    exact
      ⟨_, (isLabelName_iff_of_dropLineEnd String.toList_ofList.symm).mp accepted, isUpTo⟩
  · rintro ⟨core, isWord, isUpTo⟩
    have isCore := isUpTo.dropLineEnd_eq isWord.noLineEnd
    exact (isLabelName_iff_of_dropLineEnd isCore).mpr isWord

end Dialect

/-! ## Accepted objectives -/

/-- The names of the labels of a class of alerts, if it is enabled. -/
def AlertSettings.labelNames (alert : AlertSettings) : List String :=
  if alert.disabled then [] else alert.labels.keys

/-- The names of all labels that an objective gives to its rules. -/
def Slo.labelNames (slo : Slo) : List String :=
  slo.labels.keys ++ slo.pageAlert.labelNames ++ slo.ticketAlert.labelNames

namespace Slo

theorem nameLabel_notMem_keys
    {dialect : Dialect}
    {labels : Labels}
    (checked : checkLabels dialect labels.pairs = .ok ()) :
    Promql.nameLabel ∉ labels.keys := by
  intro isKey
  rcases List.mem_map.mp isKey with ⟨pair, member, isName⟩
  have keyChecked := (checkLabels_eq_ok_iff.mp checked pair member).1
  unfold Dialect.checkLabelKey at keyChecked
  rw [isName, if_pos rfl] at keyChecked
  cases keyChecked

theorem nameLabel_notMem_labelNames
    {dialect : Dialect}
    {alert : AlertSettings}
    (checked : checkAlert dialect alert = .ok ()) :
    Promql.nameLabel ∉ alert.labelNames := by
  rw [checkAlert] at checked
  rw [AlertSettings.labelNames]
  split_ifs at checked ⊢ with isDisabled isUnnamed
  · exact List.not_mem_nil
  · exact nameLabel_notMem_keys (Attempt.check_eq_ok_iff.mp checked).1

/-- No accepted label takes the place of the name of a metric. -/
theorem Accepted.nameLabel_notMem
    {dialect : Dialect}
    {slo : Slo}
    (accepted : slo.Accepted dialect) :
    Promql.nameLabel ∉ slo.labelNames := by
  rw [labelNames, List.mem_append, List.mem_append, not_or, not_or]
  exact
    ⟨⟨nameLabel_notMem_keys accepted.labels,
        nameLabel_notMem_labelNames accepted.pageAlert⟩,
      nameLabel_notMem_labelNames accepted.ticketAlert⟩

/-- The identifiers of an accepted objective, up to a line break. -/
theorem Accepted.exists_identifier
    {dialect : Dialect}
    {slo : Slo}
    (accepted : slo.Accepted dialect) :
    ∀ text ∈ slo.identifiers, ∃ core, IsIdentifier core ∧ IsUpToLineEnd core text := by
  simp only [identifiers, List.forall_mem_cons]
  refine
    ⟨exists_identifier_of_checkName accepted.id,
      exists_identifier_of_checkName accepted.name,
      exists_identifier_of_checkName accepted.service, ?_⟩
  intro text impossible
  cases impossible

/-- The names of labels and annotations that Prometheus accepts. -/
theorem Accepted.isLabelName
    {accepts : String → Bool}
    {slo : Slo}
    (accepted : slo.Accepted (.promql accepts)) :
    ∀ name ∈ slo.names, Dialect.isLabelName name := by
  rw [names, List.forall_mem_append, List.forall_mem_append]
  exact
    ⟨⟨(checkLabels_promql_iff.mp accepted.labels).2,
        (checkAlert_promql_iff.mp accepted.pageAlert).2⟩,
      (checkAlert_promql_iff.mp accepted.ticketAlert).2⟩

/--
The texts of an objective that Prometheus accepts are clean up to one line break: its
identifier, its name and its service, and the names of its labels and of the labels and
annotations of its enabled alerts.  No label is called like the name of a metric.  All
of these texts are clean exactly if none of them holds a line break.
-/
theorem clean_iff_noLineEnd
    {accepts : String → Bool}
    {slo : Slo}
    (accepted : slo.validate (.promql accepts) = .ok ()) :
    (∀ text ∈ slo.identifiers, ∃ core, IsIdentifier core ∧ IsUpToLineEnd core text) ∧
      (∀ name ∈ slo.names,
        ∃ core, Dialect.IsLabelWord core ∧ IsUpToLineEnd core name) ∧
      Promql.nameLabel ∉ slo.labelNames ∧
      ((∀ text ∈ slo.identifiers, IsIdentifier text) ∧
          (∀ name ∈ slo.names, Dialect.IsLabelWord name) ↔
        ∀ text ∈ slo.identifiers ++ slo.names, '\n' ∉ text.toList) := by
  have isAccepted := validate_eq_ok_iff.mp accepted
  have ofIdentifiers := isAccepted.exists_identifier
  have ofNames :
      ∀ name ∈ slo.names, ∃ core, Dialect.IsLabelWord core ∧ IsUpToLineEnd core name := by
    intro name member
    exact Dialect.isLabelName_iff.mp (isAccepted.isLabelName name member)
  refine ⟨ofIdentifiers, ofNames, isAccepted.nameLabel_notMem, ?_⟩
  rw [List.forall_mem_append]
  constructor
  · rintro ⟨identifiersClean, namesClean⟩
    exact
      ⟨fun text member => (identifiersClean text member).noLineEnd,
        fun name member => (namesClean name member).noLineEnd⟩
  · rintro ⟨identifiersPlain, namesPlain⟩
    constructor
    · intro text member
      rcases ofIdentifiers text member with ⟨core, isIdentifier, isUpTo⟩
      rw [isUpTo.eq_of_noLineEnd (identifiersPlain text member)]
      exact isIdentifier
    · intro name member
      rcases ofNames name member with ⟨core, isWord, isUpTo⟩
      rw [isUpTo.eq_of_noLineEnd (namesPlain name member)]
      exact isWord

/-- An objective whose identifier and label have a text behind them. -/
def endedSlo (ending : String) : Slo where
  id := "shop-orders" ++ ending
  name := "orders"
  service := "shop"
  indicator := ⟨some "rate(errors[\x7b\x7b.window\x7d\x7d])", none⟩
  period := ⟨3600000000⟩
  objective := .whole 99
  labels := Labels.ofTexts [("team" ++ ending, "red")]
  pageAlert := { name := "OrdersPage" }
  ticketAlert := { disabled := true }

theorem clean_iff_noLineEnd_of_ended :
    ((endedSlo "").validate .prometheus = .ok () ∧
        IsIdentifier (endedSlo "").id ∧
        ∀ name ∈ (endedSlo "").names, Dialect.IsLabelWord name) ∧
      (endedSlo "\n").validate .prometheus = .ok () ∧
      ¬ ((∀ text ∈ (endedSlo "\n").identifiers, IsIdentifier text) ∧
        ∀ name ∈ (endedSlo "\n").names, Dialect.IsLabelWord name) := by
  have accepted : (endedSlo "").validate .prometheus = .ok () := by
    decide +kernel
  have acceptedToo : (endedSlo "\n").validate .prometheus = .ok () := by
    decide +kernel
  have noLineEnd :
      ∀ text ∈ (endedSlo "").identifiers ++ (endedSlo "").names, '\n' ∉ text.toList := by
    decide
  have clean := (clean_iff_noLineEnd accepted).2.2.2.mpr noLineEnd
  refine ⟨⟨accepted, clean.1 _ List.mem_cons_self, clean.2⟩, acceptedToo, ?_⟩
  intro cleanToo
  have plain := (clean_iff_noLineEnd acceptedToo).2.2.2.mp cleanToo
  exact absurd (plain (endedSlo "\n").id List.mem_cons_self) (by decide)

end Slo

end ServiceLevel
