import Mathlib.Data.List.TakeWhile
import ServiceLevel.Source.Header

/-!
# Declared module names

A source declares the name of its module on a line that holds nothing else: the beginning,
blanks, the name and blanks.  The first such line counts, and a line feed alone ends a line.
So a carriage return in front of it belongs to the line and spoils the declaration: a source
whose lines end with both declares no name at all.
-/

namespace ServiceLevel.Source

/-! ## One line -/

/-- A line that declares a name, with the blanks in front of the name and behind it. -/
inductive Declares : List Char → String → Prop
  | line {gap behind rest : List Char} {first : Char}
      (blankGap : ∀ c ∈ gap, c = ' ')
      (begins : isNameStart first)
      (continues : ∀ c ∈ rest, isNamePart c)
      (blankBehind : ∀ c ∈ behind, c = ' ') :
      Declares
        (declaration ++ (gap ++ (first :: rest ++ behind)))
        (String.ofList (first :: rest))

theorem isNamePart_of_isNameStart
    {c : Char}
    (begins : isNameStart c) :
    isNamePart c := by
  rw [isNameStart, Bool.or_eq_true] at begins
  rw [isNamePart, Char.isAlphanum, Bool.or_eq_true, Bool.or_eq_true]
  rcases begins with isLetter | isLine
  · exact Or.inl (Or.inl isLetter)
  · exact Or.inr isLine

theorem ne_blank_of_isNamePart
    {c : Char}
    (isPart : isNamePart c) :
    c ≠ ' ' := by
  rintro rfl
  exact absurd isPart (by decide)

theorem takeWhile_isNamePart_of_blank
    {behind : List Char}
    (blank : ∀ c ∈ behind, c = ' ') :
    behind.takeWhile isNamePart = [] ∧ behind.dropWhile isNamePart = behind := by
  cases behind with
  | nil => exact ⟨rfl, rfl⟩
  | cons c rest =>
      have noPart : ¬ isNamePart c = true := by
        intro isPart
        exact ne_blank_of_isNamePart isPart (blank c List.mem_cons_self)
      exact ⟨List.takeWhile_cons_of_neg noPart, List.dropWhile_cons_of_neg noPart⟩

theorem declaredName?_of_declares
    {line : List Char}
    {name : String}
    (declares : Declares line name) :
    declaredName? line = some name := by
  cases declares with
  | @line gap behind rest first blankGap begins continues blankBehind =>
      have isPart : ∀ c ∈ first :: rest, isNamePart c := by
        rintro c (_ | ⟨_, member⟩)
        · exact isNamePart_of_isNameStart begins
        · exact continues c member
      have noBlank : first ≠ ' ' := ne_blank_of_isNamePart (isPart first List.mem_cons_self)
      have behindGap :
          (gap ++ (first :: rest ++ behind)).dropWhile (fun c => decide (c = ' ')) =
            first :: rest ++ behind := by
        rw [List.dropWhile_append_of_pos fun c member => by simp [blankGap c member],
          List.cons_append, List.dropWhile_cons_of_neg (by simpa using noBlank)]
      obtain ⟨noMore, allBehind⟩ := takeWhile_isNamePart_of_blank blankBehind
      have isDeclaration :
          declaration.isPrefixOf (declaration ++ (gap ++ (first :: rest ++ behind))) := by
        rw [List.isPrefixOf_iff_prefix]
        exact List.prefix_append _ _
      rw [declaredName?, if_pos isDeclaration]
      simp only [List.drop_left, behindGap, List.takeWhile_append_of_pos isPart,
        List.dropWhile_append_of_pos isPart, noMore, allBehind, List.append_nil]
      rw [if_pos]
      rw [List.head?_cons, Option.any_some, begins, Bool.true_and, List.all_eq_true]
      intro c member
      exact decide_eq_true (blankBehind c member)

theorem declares_of_declaredName?
    {line : List Char}
    {name : String}
    (declared : declaredName? line = some name) :
    Declares line name := by
  rw [declaredName?] at declared
  split at declared
  · rename_i isDeclaration
    obtain ⟨text, rfl⟩ := List.isPrefixOf_iff_prefix.mp isDeclaration
    simp only [List.drop_left] at declared
    split at declared
    · rename_i isName
      cases declared
      rw [Bool.and_eq_true] at isName
      obtain ⟨begins, blankBehind⟩ := isName
      have gapped := List.takeWhile_append_dropWhile (p := fun c => decide (c = ' ')) (l := text)
      generalize text.dropWhile (fun c => decide (c = ' ')) = held at *
      have named := List.takeWhile_append_dropWhile (p := isNamePart) (l := held)
      have areParts : ∀ c ∈ held.takeWhile isNamePart, isNamePart c :=
        fun c member => List.mem_takeWhile_imp member
      generalize held.dropWhile isNamePart = behind at *
      generalize held.takeWhile isNamePart = parts at *
      cases parts with
      | nil => cases begins
      | cons first rest =>
          rw [← gapped, ← named]
          refine .line ?_ begins ?_ ?_
          · intro c member
            exact of_decide_eq_true (List.mem_takeWhile_imp (p := fun c => decide (c = ' ')) member)
          · intro c member
            exact areParts c (List.mem_cons_of_mem first member)
          · intro c member
            exact of_decide_eq_true (List.all_eq_true.mp blankBehind c member)
    · cases declared
  · cases declared

theorem declaredName?_eq_some_iff
    {line : List Char}
    {name : String} :
    declaredName? line = some name ↔ Declares line name :=
  ⟨declares_of_declaredName?, declaredName?_of_declares⟩

/-! ## The first line -/

/-- The first of some lines that declares a name declares this one. -/
inductive FirstDeclares : List (List Char) → String → Prop
  | intro {front back : List (List Char)} {line : List Char} {name : String}
      (declares : Declares line name)
      (first : ∀ earlier ∈ front, ∀ other, ¬ Declares earlier other) :
      FirstDeclares (front ++ line :: back) name

theorem findSome?_declaredName?_eq_some_iff
    {lines : List (List Char)}
    {name : String} :
    lines.findSome? declaredName? = some name ↔ FirstDeclares lines name := by
  rw [List.findSome?_eq_some_iff]
  constructor
  · rintro ⟨front, line, back, rfl, declared, silent⟩
    refine .intro (declaredName?_eq_some_iff.mp declared) ?_
    intro earlier member other declares
    have isSilent := silent earlier member
    rw [declaredName?_eq_some_iff.mpr declares] at isSilent
    cases isSilent
  · rintro ⟨declares, first⟩
    refine ⟨_, _, _, rfl, declaredName?_eq_some_iff.mpr declares, ?_⟩
    intro earlier member
    rw [Option.eq_none_iff_forall_ne_some]
    intro other declared
    exact first earlier member other (declaredName?_eq_some_iff.mp declared)

/-- A source has a module name exactly if a line of its text declares one: the first does. -/
theorem moduleName_eq_ok_iff
    {source : Source}
    {name : String} :
    source.moduleName = .ok name ↔ FirstDeclares (lines source.outline) name := by
  rw [← findSome?_declaredName?_eq_some_iff, moduleName, moduleNameOf, moduleNameOf?]
  cases (lines source.outline).findSome? declaredName? with
  | none => simp
  | some other => simp

/-! ## The ends of lines -/

theorem lines_append_feed (front back : List Char) :
    lines (front ++ '\n' :: back) = lines front ++ lines back := by
  induction front with
  | nil => simp [lines]
  | cons c rest ih =>
      rw [List.cons_append, lines, lines, ih]
      by_cases isFeed : c = '\n'
      · rw [if_pos isFeed, if_pos isFeed, List.cons_append]
      · rw [if_neg isFeed, if_neg isFeed]
        cases split : lines rest with
        | nil => exact absurd split (lines_ne_nil rest)
        | cons first others => simp

theorem lines_of_noFeed
    {text : List Char}
    (noFeed : '\n' ∉ text) :
    lines text = [text] := by
  induction text with
  | nil => rfl
  | cons c rest ih =>
      rw [List.mem_cons, not_or] at noFeed
      rw [lines, if_neg (Ne.symm noFeed.1), ih noFeed.2]

theorem noFeed_of_mem_lines
    {text line : List Char}
    (member : line ∈ lines text) :
    '\n' ∉ line := by
  induction text generalizing line with
  | nil =>
      rw [lines, List.mem_singleton] at member
      rw [member]
      exact List.not_mem_nil
  | cons c rest ih =>
      rw [lines] at member
      split at member
      · rcases List.mem_cons.mp member with rfl | behind
        · exact List.not_mem_nil
        · exact ih behind
      · rename_i noFeed
        split at member
        · rename_i impossible
          exact absurd impossible (lines_ne_nil rest)
        · rename_i first others split
          rcases List.mem_cons.mp member with rfl | behind
          · rw [List.mem_cons, not_or]
            exact ⟨Ne.symm noFeed, ih (split ▸ List.mem_cons_self)⟩
          · exact ih (split ▸ List.mem_cons_of_mem first behind)

/-- A line as it is found in a text, with what of its end belongs to it. -/
def LineEnd.found (lineEnd : LineEnd) (line : List Char) : List Char :=
  match lineEnd with
  | .feed => line
  | .returnAndFeed => line ++ ['\r']

theorem LineEnd.close_eq (lineEnd : LineEnd) (line : List Char) :
    lineEnd.close line = lineEnd.found line ++ ['\n'] := by
  cases lineEnd with
  | feed => rfl
  | returnAndFeed => simp [close, found]

theorem LineEnd.noFeed_found
    (lineEnd : LineEnd)
    {line : List Char}
    (noFeed : '\n' ∉ line) :
    '\n' ∉ lineEnd.found line := by
  cases lineEnd with
  | feed => exact noFeed
  | returnAndFeed => simp [found, noFeed]

theorem lines_flatMap_close
    (lineEnd : LineEnd)
    {written : List (List Char)}
    (areLines : ∀ line ∈ written, '\n' ∉ line) :
    lines (written.flatMap lineEnd.close) = written.map lineEnd.found ++ [[]] := by
  induction written with
  | nil => rfl
  | cons line rest ih =>
      have noFeed := lineEnd.noFeed_found (areLines line List.mem_cons_self)
      rw [List.flatMap_cons, lineEnd.close_eq, List.append_assoc, List.singleton_append,
        lines_append_feed, lines_of_noFeed noFeed,
        ih fun other member => areLines other (List.mem_cons_of_mem line member),
        List.singleton_append, List.map_cons, List.cons_append]

/-- The lines that the statements of a source are written on, without their ends. -/
def writtenLines (source : Source) : List (List Char) :=
  match source.statements with
  | [] => [[]]
  | statements => statements.flatMap fun statement => lines statement.outline

theorem noFeed_of_mem_writtenLines
    {source : Source}
    {line : List Char}
    (member : line ∈ source.writtenLines) :
    '\n' ∉ line := by
  rw [writtenLines] at member
  split at member
  · rw [List.mem_singleton.mp member]
    exact List.not_mem_nil
  · obtain ⟨statement, _, isLine⟩ := List.mem_flatMap.mp member
    exact noFeed_of_mem_lines isLine

/-- The lines of a source's text are those of its statements, and an empty one at the end. -/
theorem lines_outline (source : Source) :
    lines source.outline = source.writtenLines.map source.lineEnd.found ++ [[]] := by
  have sameText : source.outline = source.writtenLines.flatMap source.lineEnd.close := by
    rw [outline, writtenLines]
    cases source.statements with
    | nil => simp
    | cons first rest => exact List.flatMap_assoc.symm
  rw [sameText, lines_flatMap_close source.lineEnd fun line => noFeed_of_mem_writtenLines]

theorem noReturn_of_declares
    {line : List Char}
    {name : String}
    (declares : Declares line name) :
    '\r' ∉ line := by
  cases declares with
  | line blankGap begins continues blankBehind =>
      intro member
      rcases List.mem_append.mp member with inDeclaration | inRest
      · exact absurd inDeclaration (by decide)
      rcases List.mem_append.mp inRest with inGap | inRest
      · exact absurd (blankGap _ inGap) (by decide)
      rcases List.mem_append.mp inRest with inName | inBehind
      · rcases List.mem_cons.mp inName with rfl | inName
        · exact absurd begins (by decide)
        · exact absurd (continues _ inName) (by decide)
      · exact absurd (blankBehind _ inBehind) (by decide)

theorem declaredName?_nil : declaredName? [] = none := by decide

/--
Only line feeds end lines: a source has a module name exactly if no carriage returns stand in
front of them and one of the lines on which its statements are written declares a name.
-/
theorem moduleName_eq_ok_iff_written
    {source : Source}
    {name : String} :
    source.moduleName = .ok name ↔
      source.lineEnd = .feed ∧ FirstDeclares source.writtenLines name := by
  rw [moduleName_eq_ok_iff, lines_outline, ← findSome?_declaredName?_eq_some_iff,
    ← findSome?_declaredName?_eq_some_iff, List.findSome?_append, List.findSome?_singleton,
    declaredName?_nil, Option.or_none]
  cases source.lineEnd with
  | feed =>
      show (source.writtenLines.map id).findSome? declaredName? = some name ↔ _
      rw [List.map_id]
      simp
  | returnAndFeed =>
      have silent :
          (source.writtenLines.map LineEnd.returnAndFeed.found).findSome? declaredName? =
            none := by
        rw [List.findSome?_eq_none_iff]
        intro line member
        obtain ⟨written, _, rfl⟩ := List.mem_map.mp member
        rw [Option.eq_none_iff_forall_ne_some]
        intro other declared
        exact noReturn_of_declares (declares_of_declaredName? declared) (by simp [LineEnd.found])
      rw [silent]
      simp

end ServiceLevel.Source
