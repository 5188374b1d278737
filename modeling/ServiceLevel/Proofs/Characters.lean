import ServiceLevel.Duration.Basic
import ServiceLevel.Quantity.Text

/-!
# The characters of numbers and durations

Texts of durations consist of letters and digits, and texts of numbers of these,
points and signs.  So neither can open a string, a selector or an action of a
template, wherever in an expression they stand.
-/

namespace ServiceLevel

/-- A text of letters and digits that is not empty. -/
structure IsWord (text : List Char) : Prop where
  nonempty : text ≠ []
  alphanum : ∀ c ∈ text, c.isAlphanum

/-! ## Durations -/

namespace Duration

theorem isDigit_of_mem_integerText
    {count : Nat}
    {c : Char}
    (member : c ∈ (Quantity.integerText count).toList) :
    c.isDigit := by
  have notNegative : ¬ ((count : Int) < 0) := Int.not_lt.mpr (Int.natCast_nonneg count)
  rw [Quantity.integerText, String.toList_ofList, Decimal.sign] at member
  simp only [notNegative, decide_false, Bool.false_eq_true, if_false,
    List.nil_append] at member
  exact Nat.isDigit_of_mem_toDigits (by decide) (by decide) member

/-- The counts of units are of units that were given. -/
theorem snd_mem_of_mem_parts
    {units : List DurationUnit}
    {total : Nat}
    {part : Nat × DurationUnit}
    (member : part ∈ parts units total) :
    part.2 ∈ units := by
  induction units generalizing total with
  | nil => cases member
  | cons unit rest ih =>
      rw [parts] at member
      split at member
      · exact List.mem_cons_of_mem unit (ih member)
      · split at member
        · exact List.mem_cons_of_mem unit (ih member)
        · rcases List.mem_cons.mp member with same | inRest
          · rw [same]
            exact List.mem_cons_self
          · exact List.mem_cons_of_mem unit (ih inRest)

theorem isAlphanum_of_mem_symbol :
    ∀ unit ∈ units, ∀ c ∈ unit.symbol.toList, c.isAlphanum := by
  have symbols : ∀ unit ∈ units, unit.symbol.toList.all Char.isAlphanum := by decide
  intro unit isUnit
  exact List.all_eq_true.mp (symbols unit isUnit)

theorem isAlphanum_of_mem_millisecondsText
    {total : Nat}
    {c : Char}
    (member : c ∈ (millisecondsText total).toList) :
    c.isAlphanum := by
  rw [millisecondsText] at member
  split at member
  · have ofZero : "0s".toList.all Char.isAlphanum := by decide
    exact List.all_eq_true.mp ofZero c member
  · rw [String.toList_join, List.mem_flatMap] at member
    obtain ⟨text, isText, inText⟩ := member
    obtain ⟨part, isPart, rfl⟩ := List.mem_map.mp isText
    rw [partText, String.toList_append] at inText
    rcases List.mem_append.mp inText with inCount | inSymbol
    · rw [Char.isAlphanum, isDigit_of_mem_integerText inCount, Bool.or_true]
    · exact isAlphanum_of_mem_symbol _ (snd_mem_of_mem_parts isPart) c inSymbol

/-- The text of a duration consists of letters and digits. -/
theorem isAlphanum_of_prometheus
    {duration : Duration}
    {text : String}
    (written : duration.prometheus = .ok text) :
    ∀ c ∈ text.toList, c.isAlphanum := by
  intro c member
  simp only [prometheus] at written
  split at written
  · cases written
  · cases written
    exact isAlphanum_of_mem_millisecondsText member

/-- Only nothing has no count of any unit, where milliseconds are counted. -/
theorem eq_zero_of_parts_eq_nil
    {units : List DurationUnit}
    {total : Nat}
    (counted :
      ∃ unit ∈ units, unit.exact = false ∧ unit.milliseconds = 1)
    (empty : parts units total = []) :
    total = 0 := by
  induction units with
  | nil =>
      rcases counted with ⟨unit, member, _⟩
      cases member
  | cons first rest ih =>
      rcases counted with ⟨unit, member, inexact, single⟩
      rw [parts] at empty
      split at empty
      · rename_i left
        rcases List.mem_cons.mp member with rfl | inRest
        · rw [inexact] at left
          cases left
        · exact ih ⟨unit, inRest, inexact, single⟩ empty
      · split at empty
        · rename_i small
          rcases List.mem_cons.mp member with rfl | inRest
          · rw [single, Nat.div_one] at small
            exact small
          · exact ih ⟨unit, inRest, inexact, single⟩ empty
        · cases empty

/-- Milliseconds are counted one by one. -/
theorem exists_single_unit :
    ∃ unit ∈ units, unit.exact = false ∧ unit.milliseconds = 1 := by
  decide

theorem millisecondsText_ne_nil (total : Nat) :
    (millisecondsText total).toList ≠ [] := by
  have symbols : ∀ unit ∈ units, unit.symbol.toList ≠ [] := by decide
  rw [millisecondsText]
  split
  · decide
  · rename_i notZero
    rw [String.toList_join]
    cases split : parts units total with
    | nil => exact absurd (eq_zero_of_parts_eq_nil exists_single_unit split) notZero
    | cons part others =>
        have isUnit : part.2 ∈ units := by
          have member : part ∈ parts units total := by
            rw [split]
            exact List.mem_cons_self
          exact snd_mem_of_mem_parts member
        rw [List.map_cons, List.flatMap_cons, partText, String.toList_append]
        intro empty
        rw [List.append_eq_nil_iff, List.append_eq_nil_iff] at empty
        exact symbols part.2 isUnit empty.1.2

theorem isWord_of_prometheus
    {duration : Duration}
    {text : String}
    (written : duration.prometheus = .ok text) :
    IsWord text.toList where
  nonempty := by
    simp only [prometheus] at written
    split at written
    · cases written
    · cases written
      exact millisecondsText_ne_nil _
  alphanum := isAlphanum_of_prometheus written

end Duration

/-! ## Numbers -/

namespace Decimal

/-- A character that may stand in the text of a number. -/
def isNumberChar (c : Char) : Bool :=
  c.isAlphanum || c = '.' || c = '+' || c = '-'

/-- A text with no other characters than those of numbers. -/
def OfNumberChars (text : List Char) : Prop :=
  ∀ c ∈ text, isNumberChar c

theorem OfNumberChars.append
    {left right : List Char}
    (ofLeft : OfNumberChars left)
    (ofRight : OfNumberChars right) :
    OfNumberChars (left ++ right) := by
  intro c member
  rcases List.mem_append.mp member with inLeft | inRight
  · exact ofLeft c inLeft
  · exact ofRight c inRight

theorem OfNumberChars.cons
    {first : Char}
    {rest : List Char}
    (isFirst : isNumberChar first)
    (ofRest : OfNumberChars rest) :
    OfNumberChars (first :: rest) := by
  intro c member
  rcases List.mem_cons.mp member with same | inRest
  · rw [same]
    exact isFirst
  · exact ofRest c inRest

theorem OfNumberChars.subset
    {part whole : List Char}
    (ofWhole : OfNumberChars whole)
    (subset : part ⊆ whole) :
    OfNumberChars part := by
  intro c member
  exact ofWhole c (subset member)

theorem ofNumberChars_replicate (count : Nat) :
    OfNumberChars (List.replicate count '0') := by
  intro c member
  rw [List.eq_of_mem_replicate member]
  rfl

theorem ofNumberChars_toDigits (value : Nat) :
    OfNumberChars (Nat.toDigits 10 value) := by
  intro c member
  have isDigit : c.isDigit :=
    Nat.isDigit_of_mem_toDigits (by decide) (by decide) member
  rw [isNumberChar, Char.isAlphanum, isDigit, Bool.or_true, Bool.true_or,
    Bool.true_or, Bool.true_or]

theorem ofNumberChars_sign (negative : Bool) :
    OfNumberChars (sign negative) := by
  cases negative with
  | true => exact .cons rfl (fun _ impossible => by cases impossible)
  | false => exact fun _ impossible => by cases impossible

theorem ofNumberChars_positional
    {digits : List Char}
    (ofDigits : OfNumberChars digits)
    (exponent : Int) :
    OfNumberChars (positional digits exponent) := by
  simp only [positional]
  split
  · exact ofDigits.append (ofNumberChars_replicate _)
  · split
    · exact
        (ofDigits.subset (List.take_subset _ _)).append
          (.cons rfl (ofDigits.subset (List.drop_subset _ _)))
    · exact
        .cons rfl (.cons rfl ((ofNumberChars_replicate _).append ofDigits))

theorem ofNumberChars_scientific
    {digits : List Char}
    (ofDigits : OfNumberChars digits)
    (leading : Int) :
    OfNumberChars (scientific digits leading) := by
  have ofExponent : OfNumberChars (exponentText leading) := by
    have ofValue :
        OfNumberChars
          (List.replicate (2 - (Nat.toDigits 10 leading.natAbs).length) '0' ++
            Nat.toDigits 10 leading.natAbs) :=
      (ofNumberChars_replicate _).append (ofNumberChars_toDigits _)
    rw [exponentText]
    split
    · exact .cons rfl ofValue
    · exact .cons rfl ofValue
  simp only [scientific]
  apply OfNumberChars.append
  · split
    · rename_i first second rest
      have ofFirst : isNumberChar first := ofDigits first List.mem_cons_self
      exact
        .cons ofFirst
          (.cons rfl (ofDigits.subset (List.subset_cons_self first _)))
    · exact ofDigits
  · exact .cons rfl ofExponent

theorem ofNumberChars_concise (decimal : Decimal) :
    OfNumberChars decimal.concise := by
  have ofDigits : OfNumberChars decimal.digitChars := ofNumberChars_toDigits _
  rw [concise]
  split
  · exact (ofNumberChars_sign _).append (ofNumberChars_scientific ofDigits _)
  · exact (ofNumberChars_sign _).append (ofNumberChars_positional ofDigits _)

end Decimal

namespace Quantity

theorem ofNumberChars_specialName (value : Binary64) :
    Decimal.OfNumberChars value.specialName.toList := by
  have ofNames :
      ∀ name ∈ ["-inf", "inf", "nan"],
        name.toList.all Decimal.isNumberChar := by
    decide
  apply List.all_eq_true.mp
  apply ofNames
  cases value with
  | infinity negative => cases negative <;> decide
  | nan => decide
  | finite negative significand exponent =>
      show "nan" ∈ ["-inf", "inf", "nan"]
      decide

/-- The concise text of a number consists of letters, digits, points and signs. -/
theorem ofNumberChars_conciseBinary64 (value : Binary64) :
    Decimal.OfNumberChars (conciseBinary64 value).toList := by
  rw [conciseBinary64]
  split
  · exact List.all_eq_true.mp (by decide : "0".toList.all Decimal.isNumberChar)
  · cases value.shortest? with
    | none => exact ofNumberChars_specialName value
    | some decimal =>
        show Decimal.OfNumberChars (String.ofList decimal.concise).toList
        rw [String.toList_ofList]
        exact Decimal.ofNumberChars_concise decimal

end Quantity

end ServiceLevel
