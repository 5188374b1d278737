import ServiceLevel.Proofs.Template.Rendering

/-!
# Actions that stand for variables

An action stands for a variable if it is a dot and a word, with nothing but white space
around.  Since no character is white space and stands in a word at once, the word is what
trimming leaves behind the dot, and an action names one variable at most.
-/

namespace ServiceLevel

/-! ## White space around a text -/

namespace Text

theorem Ranges.exists_of_has
    {ranges : Ranges}
    {code : Nat}
    (within : ranges.has code) :
    ∃ range ∈ ranges, range.1 ≤ code ∧ code ≤ range.2 := by
  induction ranges with
  | nil => cases within
  | cons first rest ih =>
      rw [Ranges.has] at within
      split_ifs at within with below
      rcases Bool.or_eq_true_iff.mp within with inFirst | inRest
      · exact ⟨first, List.mem_cons_self, Nat.not_lt.mp below, of_decide_eq_true inFirst⟩
      · rcases ih inRest with ⟨range, member, bounds⟩
        exact ⟨range, List.mem_cons_of_mem first member, bounds⟩

/-- White space does not stand in words. -/
theorem isWordChar_of_isBlank
    {c : Char}
    (blank : isBlank c) :
    isWordChar c = false := by
  have apart :
      ∀ range ∈ blankRanges,
        ∀ code ∈ List.range' range.1 (range.2 + 1 - range.1),
          wordRanges.has code = false := by
    decide +kernel
  rcases Ranges.exists_of_has blank with ⟨range, isRange, above, below⟩
  apply apart range isRange
  rw [List.mem_range'_1]
  omega

theorem isBlank_of_isWordChar
    {c : Char}
    (isWord : isWordChar c) :
    isBlank c = false := by
  rw [Bool.eq_false_iff]
  intro blank
  rw [isWordChar_of_isBlank blank] at isWord
  cases isWord

theorem trimLeft_append
    {before : List Char}
    (blank : ∀ c ∈ before, isBlank c)
    (text : List Char) :
    trimLeft (before ++ text) = trimLeft text :=
  List.dropWhile_append_of_pos blank

theorem trimLeft_cons
    {c : Char}
    (notBlank : isBlank c = false)
    (text : List Char) :
    trimLeft (c :: text) = c :: text := by
  rw [trimLeft, List.dropWhile_cons_of_neg]
  rw [notBlank]
  exact Bool.false_ne_true

/-- What stands between two characters that are no blanks is left by trimming. -/
theorem trim_margins
    {before after middle : List Char}
    {first last : Char}
    (blankBefore : ∀ c ∈ before, isBlank c)
    (blankAfter : ∀ c ∈ after, isBlank c)
    (firstNotBlank : isBlank first = false)
    (lastNotBlank : isBlank last = false) :
    trim (before ++ first :: (middle ++ last :: after)) = first :: (middle ++ [last]) := by
  have blankReverse : ∀ c ∈ after.reverse, isBlank c := by
    intro c member
    exact blankAfter c (List.mem_reverse.mp member)
  have reversed :
      (first :: (middle ++ last :: after)).reverse =
        after.reverse ++ last :: (first :: middle).reverse := by
    simp
  rw [trim, trimLeft_append blankBefore, trimLeft_cons firstNotBlank, reversed,
    trimLeft_append blankReverse, trimLeft_cons lastNotBlank]
  simp

/-- Trimming takes white space from the ends of a text. -/
theorem exists_margins (text : List Char) :
    ∃ before after,
      text = before ++ (trim text ++ after) ∧
        (∀ c ∈ before, isBlank c) ∧ ∀ c ∈ after, isBlank c := by
  have parts := List.takeWhile_append_dropWhile (p := isBlank) (l := text)
  have others :=
    List.takeWhile_append_dropWhile (p := isBlank) (l := (trimLeft text).reverse)
  refine
    ⟨text.takeWhile isBlank, ((trimLeft text).reverse.takeWhile isBlank).reverse, ?_, ?_, ?_⟩
  · have rest :
        trim text ++ ((trimLeft text).reverse.takeWhile isBlank).reverse =
          trimLeft text := by
      rw [trim, ← List.reverse_append]
      exact (congrArg List.reverse others).trans (List.reverse_reverse _)
    rw [rest]
    exact parts.symm
  · intro c member
    exact List.mem_takeWhile_imp member
  · intro c member
    exact List.mem_takeWhile_imp (List.mem_reverse.mp member)

end Text

namespace Template

/-! ## The name of an action -/

/-- An action is white space, a dot, a word and white space; the word is its name. -/
def Names (action : List Char) (name : String) : Prop :=
  ∃ before after,
    action = before ++ '.' :: (name.toList ++ after) ∧
      (∀ c ∈ before, Text.isBlank c) ∧ (∀ c ∈ after, Text.isBlank c) ∧
      name.toList ≠ [] ∧ ∀ c ∈ name.toList, Text.isWordChar c

theorem variableName?_eq_some_iff
    {action : List Char}
    {name : String} :
    variableName? action = some name ↔ Names action name := by
  constructor
  · intro isVariable
    rcases Text.exists_margins action with ⟨before, after, parts, blankBefore, blankAfter⟩
    rw [variableName?] at isVariable
    split at isVariable
    · rename_i word trimmed
      split_ifs at isVariable with isWord
      cases isVariable
      rcases Bool.and_eq_true_iff.mp isWord with ⟨nonempty, wordChars⟩
      rw [trimmed] at parts
      refine ⟨before, after, ?_, blankBefore, blankAfter, ?_, ?_⟩
      · rw [String.toList_ofList]
        exact parts
      · rw [String.toList_ofList]
        rintro rfl
        cases nonempty
      · rw [String.toList_ofList]
        exact List.all_eq_true.mp wordChars
    · cases isVariable
  · rintro ⟨before, after, rfl, blankBefore, blankAfter, nonempty, wordChars⟩
    rcases List.eq_nil_or_concat' name.toList with empty | ⟨middle, last, parts⟩
    · exact absurd empty nonempty
    · have lastNotBlank : Text.isBlank last = false := by
        apply Text.isBlank_of_isWordChar
        apply wordChars
        rw [parts]
        exact List.mem_append_right _ List.mem_cons_self
      have trimmed :
          Text.trim (before ++ '.' :: (name.toList ++ after)) = '.' :: name.toList := by
        rw [parts, List.append_assoc]
        exact Text.trim_margins blankBefore blankAfter (by decide) lastNotBlank
      have isWord : (!name.toList.isEmpty && name.toList.all Text.isWordChar) = true := by
        rw [Bool.and_eq_true_iff, List.all_eq_true]
        refine ⟨?_, wordChars⟩
        simpa using nonempty
      rw [variableName?, trimmed]
      simp only [isWord, if_true, String.ofList_toList]

theorem Names.unique
    {action : List Char}
    {name other : String}
    (names : Names action name)
    (again : Names action other) :
    name = other := by
  rw [← variableName?_eq_some_iff] at names again
  exact Option.some.inj (names.symm.trans again)

theorem variableName?_eq_none_iff {action : List Char} :
    variableName? action = none ↔ ∀ name, ¬ Names action name := by
  rw [Option.eq_none_iff_forall_ne_some]
  exact forall_congr' fun name => not_congr variableName?_eq_some_iff

/-- An action that names a variable holds no other characters, in particular no braces. -/
theorem Names.notMem
    {action : List Char}
    {name : String}
    (names : Names action name)
    {c : Char}
    (foreign : Foreign c) :
    c ∉ action := by
  intro member
  rw [← variableName?_eq_some_iff, variableName?_of_foreign foreign member] at names
  cases names

theorem foreign_opening : Foreign '\x7b' := by
  constructor <;> decide

theorem foreign_closing : Foreign '\x7d' := by
  constructor <;> decide

end Template

end ServiceLevel
