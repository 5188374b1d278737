import Mathlib.Logic.Function.Basic
import ServiceLevel.Labels
import ServiceLevel.Query.Structure
import ServiceLevel.Proofs.Characters
import ServiceLevel.Proofs.Entries
import ServiceLevel.Proofs.Template.Rendering

/-!
# Scanning the structure of joined texts

A query is scanned character by character, and where the scan stands depends only on
where it stood before and on the text in between.  Brackets that were open below those a
text closes are never looked at, so that a text which is well structured on its own can
be put between any others.

A text without quotation marks, brackets and backslashes leaves the scan where it is,
unless it stands behind a backslash, which takes its first character.  So a template with
actions replaced by one word is well structured if it is so for any other word.
-/

namespace ServiceLevel.Query

/-! ## The scan as a run of steps -/

/-- Where a scan stands: with respect to strings, and the open brackets. -/
abbrev Reading := Mode × List Char

/-- Read one character inside of a string. -/
def inString (quote c : Char) : Mode :=
  if c = '\\' then .escaped quote
  else if c = quote then .outside
  else .inside quote

/-- Close the innermost bracket, which has to be the given one. -/
def closeBracket (opening : Char) : List Char → Option Reading
  | [] => none
  | top :: below => if top = opening then some (.outside, below) else none

/-- Read one character outside of strings. -/
def outOfString (stack : List Char) (c : Char) : Option Reading :=
  if isQuote c then some (.inside c, stack)
  else if isOpening c then some (.outside, c :: stack)
  else
    match partner? c with
    | none => some (.outside, stack)
    | some opening => closeBracket opening stack

/-- Read one character. -/
def step : Reading → Char → Option Reading
  | (.escaped quote, stack), _ => some (.inside quote, stack)
  | (.inside quote, stack), c => some (inString quote c, stack)
  | (.outside, stack), c => outOfString stack c

/-- Read a text. -/
def advance (reading : Reading) (text : List Char) : Option Reading :=
  text.foldlM step reading

@[simp]
theorem advance_nil (reading : Reading) : advance reading [] = some reading :=
  rfl

theorem advance_cons (reading : Reading) (c : Char) (text : List Char) :
    advance reading (c :: text) =
      (step reading c).bind fun next => advance next text :=
  rfl

theorem advance_append (reading : Reading) (left right : List Char) :
    advance reading (left ++ right) =
      (advance reading left).bind fun next => advance next right :=
  List.foldlM_append

/-- A scan succeeds exactly if the text is read to its end, with nothing left open. -/
theorem scan_eq_ok_iff
    {mode : Mode}
    {stack text : List Char} :
    scan mode stack text = .ok () ↔
      advance (mode, stack) text = some (.outside, []) := by
  induction text generalizing mode stack with
  | nil =>
      cases mode with
      | outside => cases stack <;> simp [scan]
      | inside quote => simp [scan]
      | escaped quote => simp [scan]
  | cons c rest ih =>
      rw [advance_cons]
      cases mode with
      | escaped quote =>
          rw [scan, ih]
          rfl
      | inside quote =>
          show _ ↔ advance (inString quote c, stack) rest = _
          rw [scan, inString]
          split_ifs
          · exact ih
          · exact ih
          · exact ih
      | outside =>
          show _ ↔ (outOfString stack c).bind _ = _
          rw [scan, outOfString]
          split_ifs
          · exact ih
          · exact ih
          · cases partner? c with
            | none => exact ih
            | some opening =>
                cases stack with
                | nil => simp [closeBracket]
                | cons top below =>
                    simp only [closeBracket]
                    split_ifs
                    · exact ih
                    · simp

/-! ## Brackets below -/

theorem step_append
    {mode next : Mode}
    {stack left : List Char}
    {c : Char}
    (read : step (mode, stack) c = some (next, left))
    (below : List Char) :
    step (mode, stack ++ below) c = some (next, left ++ below) := by
  cases mode with
  | escaped quote =>
      cases read
      rfl
  | inside quote =>
      cases read
      rfl
  | outside =>
      rw [step, outOfString] at read ⊢
      split_ifs at read ⊢
      · cases read
        rfl
      · cases read
        rfl
      · cases isClosing : partner? c with
        | none =>
            rw [isClosing] at read
            cases read
            rfl
        | some opening =>
            rw [isClosing] at read
            cases stack with
            | nil => cases read
            | cons top rest =>
                simp only [closeBracket, List.cons_append] at read ⊢
                split_ifs at read ⊢
                cases read
                rfl

/-- Brackets below those that a text closes stay open. -/
theorem advance_frame
    {mode last : Mode}
    {stack left text : List Char}
    (read : advance (mode, stack) text = some (last, left))
    (below : List Char) :
    advance (mode, stack ++ below) text = some (last, left ++ below) := by
  induction text generalizing mode stack with
  | nil =>
      cases read
      rfl
  | cons c rest ih =>
      rw [advance_cons] at read ⊢
      rcases Option.bind_eq_some_iff.mp read with ⟨⟨next, open_⟩, first, others⟩
      rw [step_append first below]
      exact ih others

/--
A text that, outside of strings, closes the brackets of the first list and leaves those of
the second open.
-/
def Leads (before after text : List Char) : Prop :=
  advance (.outside, before) text = some (.outside, after)

instance (before after text : List Char) : Decidable (Leads before after text) :=
  inferInstanceAs (Decidable (_ = _))

/-- A text whose brackets nest and whose strings end. -/
abbrev Closed (text : List Char) : Prop :=
  Leads [] [] text

theorem checkStructure_eq_ok_iff {query : String} :
    checkStructure query = .ok () ↔ Closed query.toList := by
  rw [Closed, Leads, ← scan_eq_ok_iff, checkStructure, check]
  cases scan .outside [] query.toList with
  | error problem => simp
  | ok done => simp

theorem Leads.append
    {before middle after left right : List Char}
    (first : Leads before middle left)
    (second : Leads middle after right) :
    Leads before after (left ++ right) := by
  rw [Leads, advance_append, first]
  exact second

theorem Leads.append_text
    {before middle after : List Char}
    {left right : String}
    (first : Leads before middle left.toList)
    (second : Leads middle after right.toList) :
    Leads before after (left ++ right).toList := by
  rw [String.toList_append]
  exact first.append second

/-- A well structured text can stand between any brackets. -/
theorem Closed.within
    {text : List Char}
    (closed : Closed text)
    (opened : List Char) :
    Leads opened opened text :=
  advance_frame closed opened

/-- Behind a well structured text the rest is read as if it came first. -/
theorem Closed.append_iff
    {left right : List Char}
    (closed : Closed left) :
    Closed (left ++ right) ↔ Closed right := by
  rw [Closed, Leads, advance_append, closed]
  exact Iff.rfl

/-! ## Pieces of expressions -/

/-- A character that the scan passes over outside of strings. -/
def isPlain (c : Char) : Bool :=
  !isQuote c && !isOpening c && (partner? c).isNone

theorem closed_of_plain
    {text : List Char}
    (plain : ∀ c ∈ text, isPlain c) :
    Closed text := by
  induction text with
  | nil => rfl
  | cons c rest ih =>
      have isHere : isPlain c := plain c List.mem_cons_self
      have others : Closed rest :=
        ih fun other member => plain other (List.mem_cons_of_mem c member)
      rw [isPlain, Bool.and_eq_true, Bool.and_eq_true, Bool.not_eq_true',
        Bool.not_eq_true', Option.isNone_iff_eq_none] at isHere
      rcases isHere with ⟨⟨notQuote, notOpening⟩, notClosing⟩
      rw [Closed, Leads, advance_cons, step, outOfString]
      simp only [notQuote, notOpening, notClosing, Bool.false_eq_true, if_false]
      exact others

theorem advance_escapeChar (c : Char) (stack : List Char) :
    advance (.inside '"', stack) (Labels.escapeChar c) =
      some (.inside '"', stack) := by
  rw [Labels.escapeChar]
  split_ifs with isBackslash isQuote isLineBreak isTab
  · rfl
  · rfl
  · rfl
  · rfl
  · rw [advance_cons, step, inString, if_neg isBackslash, if_neg isQuote]
    rfl

/-- A quoted value is a string, whatever characters it has. -/
theorem closed_quoteValue (value : List Char) :
    Closed (Labels.quoteValue value) := by
  have inString :
      advance (.inside '"', []) (value.flatMap Labels.escapeChar) =
        some (.inside '"', []) := by
    induction value with
    | nil => rfl
    | cons c rest ih =>
        rw [List.flatMap_cons, advance_append, advance_escapeChar]
        exact ih
  rw [Labels.quoteValue_eq, Closed, Leads, List.cons_append, advance_cons]
  show advance (.inside '"', []) _ = _
  rw [advance_append, inString]
  rfl

theorem closed_pairText
    {name : String}
    (isName : Closed name.toList)
    (value : String) :
    Closed (Labels.pairText name value).toList := by
  have equals : Closed "=".toList := by decide
  have quoted := closed_quoteValue value.toList
  unfold Labels.pairText
  simp only [String.toList_append, String.toList_ofList]
  exact (isName.append equals).append quoted

theorem closed_intercalate
    {texts : List String}
    (closed : ∀ text ∈ texts, Closed text.toList) :
    Closed (", ".intercalate texts).toList := by
  have comma : Closed ", ".toList := by decide
  induction texts with
  | nil => rfl
  | cons first rest ih =>
      have here : Closed first.toList := closed first List.mem_cons_self
      have behind : Closed (", ".intercalate rest).toList :=
        ih fun text member => closed text (List.mem_cons_of_mem first member)
      cases rest with
      | nil =>
          rw [String.intercalate_singleton]
          exact here
      | cons second others =>
          rw [String.intercalate_cons_cons, String.toList_append,
            String.toList_append]
          exact (here.append comma).append behind

theorem pairText_of_mem_pairTexts
    {pairs : List (String × Json)}
    {texts : List String}
    (written : Labels.pairTexts pairs = .ok texts)
    {text : String}
    (member : text ∈ texts) :
    ∃ pair ∈ pairs, ∃ value, text = Labels.pairText pair.1 value := by
  induction pairs generalizing texts with
  | nil =>
      cases written
      cases member
  | cons first rest ih =>
      rcases first with ⟨name, json⟩
      cases json with
      | text value =>
          rcases Attempt.map_eq_ok_iff.mp written with ⟨others, step, rfl⟩
          rcases List.mem_cons.mp member with rfl | inOthers
          · exact ⟨_, List.mem_cons_self, value, rfl⟩
          · rcases ih step inOthers with ⟨pair, isPair, found⟩
            exact ⟨pair, List.mem_cons_of_mem _ isPair, found⟩
      | null => cases written
      | bool value => cases written
      | number value => cases written
      | array items => cases written
      | object fields => cases written

/-- A label map with well structured names. -/
def HasClosedNames (labels : Labels) : Prop :=
  ∀ name ∈ labels.keys, Closed name.toList

theorem HasClosedNames.merge
    {left right : Labels}
    (isLeft : HasClosedNames left)
    (isRight : HasClosedNames right) :
    HasClosedNames (left.merge right) := by
  intro name isKey
  rcases List.mem_map.mp isKey with ⟨pair, member, rfl⟩
  rcases Entries.mem_pairs_merge member with inRight | inLeft
  · exact isRight _ (List.mem_map.mpr ⟨pair, inRight, rfl⟩)
  · exact isLeft _ (List.mem_map.mpr ⟨pair, inLeft, rfl⟩)

/-- A filter is well structured if its names are. -/
theorem closed_filterText
    {labels : Labels}
    {filter : String}
    (written : labels.filterText = .ok filter)
    (closedNames : HasClosedNames labels) :
    Closed filter.toList := by
  rcases Attempt.map_eq_ok_iff.mp written with ⟨texts, pairsWritten, rfl⟩
  have opens : Leads [] ['\x7b'] "\x7b".toList := by decide
  have closes : Leads ['\x7b'] [] "\x7d".toList := by decide
  have inside :
      Closed (", ".intercalate (Labels.sortTexts texts)).toList := by
    apply closed_intercalate
    intro text member
    rcases pairText_of_mem_pairTexts pairsWritten
        (List.mem_mergeSort.mp member) with ⟨pair, isPair, value, rfl⟩
    apply closed_pairText
    exact closedNames _ (List.mem_map.mpr ⟨pair, isPair, rfl⟩)
  rw [String.toList_append, String.toList_append]
  exact (opens.append (inside.within _)).append closes

theorem closed_groupText
    {labels : Labels}
    (closedNames : HasClosedNames labels) :
    Closed labels.groupText.toList := by
  apply closed_intercalate
  intro name member
  exact closedNames name (List.mem_mergeSort.mp member)

/-! ## Inert texts -/

/-- The character that ends the string that is being read, if there is one. -/
def Mode.quote? : Mode → Option Char
  | .outside => none
  | .inside quote => some quote
  | .escaped quote => some quote

/-- A scan in a string stands behind a quotation mark. -/
def Mode.Proper (mode : Mode) : Prop :=
  ∀ quote ∈ mode.quote?, isQuote quote

theorem Mode.proper_outside : Mode.outside.Proper := by
  intro quote impossible
  cases impossible

/-- Outside of strings only a quotation mark leads into one. -/
theorem mode_of_outOfString
    {next : Mode}
    {stack left : List Char}
    {c : Char}
    (read : outOfString stack c = some (next, left)) :
    next = .outside ∨ isQuote c ∧ next = .inside c := by
  rw [outOfString] at read
  split_ifs at read with isQuote
  · cases read
    exact Or.inr ⟨isQuote, rfl⟩
  · cases read
    exact Or.inl rfl
  · split at read
    · cases read
      exact Or.inl rfl
    · cases stack with
      | nil => cases read
      | cons top below =>
          simp only [closeBracket] at read
          split_ifs at read
          cases read
          exact Or.inl rfl

theorem Mode.Proper.step
    {mode next : Mode}
    {stack left : List Char}
    {c : Char}
    (proper : mode.Proper)
    (read : Query.step (mode, stack) c = some (next, left)) :
    next.Proper := by
  cases mode with
  | escaped quote =>
      cases read
      exact proper
  | inside quote =>
      cases read
      rw [inString]
      split_ifs
      · exact proper
      · intro other impossible
        cases impossible
      · exact proper
  | outside =>
      rcases mode_of_outOfString read with rfl | ⟨isQuote, rfl⟩
      · exact Mode.proper_outside
      · intro quote same
        cases same
        exact isQuote

theorem Mode.Proper.advance
    {mode last : Mode}
    {stack left text : List Char}
    (proper : mode.Proper)
    (read : Query.advance (mode, stack) text = some (last, left)) :
    last.Proper := by
  induction text generalizing mode stack with
  | nil =>
      cases read
      exact proper
  | cons c rest ih =>
      rw [advance_cons] at read
      rcases Option.bind_eq_some_iff.mp read with ⟨⟨next, open_⟩, first, others⟩
      exact ih (proper.step first) others

/-- Where a scan stands once an inert text was read. -/
def Mode.behindInert : Mode → Mode
  | .escaped quote => .inside quote
  | mode => mode

/-- A character that changes nothing, in strings and outside of them. -/
def isInert (c : Char) : Bool :=
  isPlain c && c ≠ '\\'

/-- Only a backslash lets the scan skip a character. -/
theorem behindInert_of_step
    {mode next : Mode}
    {stack left : List Char}
    {c : Char}
    (notBackslash : c ≠ '\\')
    (read : step (mode, stack) c = some (next, left)) :
    next.behindInert = next := by
  cases mode with
  | escaped quote =>
      cases read
      rfl
  | inside quote =>
      rw [step, inString, if_neg notBackslash] at read
      split_ifs at read <;> cases read <;> rfl
  | outside => rcases mode_of_outOfString read with rfl | ⟨_, rfl⟩ <;> rfl

theorem behindInert_of_advance
    {mode next : Mode}
    {stack left text : List Char}
    {c : Char}
    (notBackslash : c ≠ '\\')
    (read : advance (mode, stack) (text ++ [c]) = some (next, left)) :
    next.behindInert = next := by
  rw [advance_append] at read
  rcases Option.bind_eq_some_iff.mp read with ⟨⟨middle, open_⟩, _, last⟩
  rw [advance_cons] at last
  rcases Option.bind_eq_some_iff.mp last with ⟨reading, isStep, same⟩
  cases same
  exact behindInert_of_step notBackslash isStep

theorem isPlain_of_isAlphanum
    {c : Char}
    (alphanum : c.isAlphanum) :
    isPlain c := by
  have apart : ∀ other : Char, other.isAlphanum = false → c ≠ other := by
    rintro other notAlphanum rfl
    rw [alphanum] at notAlphanum
    cases notAlphanum
  simp [isPlain, isQuote, isOpening, partner?, apart]

theorem isInert_of_isAlphanum
    {c : Char}
    (alphanum : c.isAlphanum) :
    isInert c := by
  have notBackslash : c ≠ '\\' := by
    rintro rfl
    cases alphanum
  rw [isInert, isPlain_of_isAlphanum alphanum, Bool.true_and]
  exact decide_eq_true notBackslash

theorem step_of_isInert
    {mode : Mode}
    {c : Char}
    (proper : mode.Proper)
    (inert : isInert c)
    (stack : List Char) :
    step (mode, stack) c = some (mode.behindInert, stack) := by
  rcases Bool.and_eq_true_iff.mp inert with ⟨plain, isOther⟩
  cases mode with
  | escaped quote => rfl
  | inside quote =>
      have notBackslash : c ≠ '\\' := of_decide_eq_true isOther
      have notQuote : c ≠ quote := by
        rintro rfl
        rw [isPlain, proper c rfl] at plain
        cases plain
      rw [step, inString, if_neg notBackslash, if_neg notQuote]
      rfl
  | outside =>
      have closed : Closed [c] := by
        apply closed_of_plain
        intro other member
        rw [List.mem_singleton.mp member]
        exact plain
      have read : advance (.outside, stack) [c] = some (.outside, stack) :=
        closed.within stack
      rw [advance_cons] at read
      rcases Option.bind_eq_some_iff.mp read with ⟨next, first, same⟩
      rw [first]
      exact same

/-- An inert text leaves the scan where it is, but ends what a backslash in front began. -/
theorem advance_inert
    {mode : Mode}
    {text : List Char}
    (proper : mode.Proper)
    (nonempty : text ≠ [])
    (inert : ∀ c ∈ text, isInert c)
    (stack : List Char) :
    advance (mode, stack) text = some (mode.behindInert, stack) := by
  induction text generalizing mode with
  | nil => exact absurd rfl nonempty
  | cons c rest ih =>
      have first := step_of_isInert proper (inert c List.mem_cons_self) stack
      rw [advance_cons, first]
      cases rest with
      | nil => rfl
      | cons second others =>
          have settled : mode.behindInert.behindInert = mode.behindInert := by
            cases mode <;> rfl
          have next :=
            ih (proper.step first) (List.cons_ne_nil second others)
              fun other member => inert other (List.mem_cons_of_mem c member)
          rw [settled] at next
          exact next

theorem advance_append_inert
    {mode : Mode}
    {stack inert : List Char}
    {c : Char}
    (proper : mode.Proper)
    (notBackslash : c ≠ '\\')
    (isInert : ∀ other ∈ inert, isInert other)
    (text : List Char) :
    advance (mode, stack) (text ++ [c] ++ inert) =
      advance (mode, stack) (text ++ [c]) := by
  rcases List.eq_nil_or_concat' inert with rfl | ⟨front, last, rfl⟩
  · rw [List.append_nil]
  · rw [advance_append]
    cases read : advance (mode, stack) (text ++ [c]) with
    | none => rfl
    | some reading =>
        rcases reading with ⟨next, open_⟩
        have settled : next.behindInert = next :=
          behindInert_of_advance notBackslash read
        have skipped :=
          advance_inert (proper.advance read) (List.concat_ne_nil _ _) isInert open_
        rw [settled] at skipped
        exact skipped

/-- Behind any character but a backslash an inert text does not matter. -/
theorem closed_inert_append_iff
    {text inert right : List Char}
    {c : Char}
    (notBackslash : c ≠ '\\')
    (isInert : ∀ other ∈ inert, isInert other) :
    Closed (text ++ [c] ++ inert ++ right) ↔ Closed (text ++ [c] ++ right) := by
  rw [Closed, Leads, Closed, Leads, advance_append,
    advance_append_inert Mode.proper_outside notBackslash isInert, ← advance_append]

/-- At the end an inert text does not matter. -/
theorem closed_append_inert_iff
    {text inert : List Char}
    (isInert : ∀ c ∈ inert, isInert c) :
    Closed (text ++ inert) ↔ Closed text := by
  rw [Closed, Leads, Closed, Leads, advance_append]
  cases read : advance (.outside, []) text with
  | none => exact Iff.rfl
  | some reading =>
      rcases reading with ⟨mode, stack⟩
      have proper : mode.Proper := Mode.proper_outside.advance read
      rcases eq_or_ne inert [] with rfl | nonempty
      · exact Iff.rfl
      · show advance (mode, stack) inert = _ ↔ _
        rw [advance_inert proper nonempty isInert]
        cases mode <;> simp [Mode.behindInert]

/-! ## Words in place of each other -/

theorem advance_word
    {mode : Mode}
    {word : List Char}
    (proper : mode.Proper)
    (isWord : IsWord word)
    (stack : List Char) :
    advance (mode, stack) word = some (mode.behindInert, stack) := by
  apply advance_inert proper isWord.nonempty
  intro c member
  exact isInert_of_isAlphanum (isWord.alphanum c member)

/-- A template is read alike whichever word its actions are replaced by. -/
theorem advance_substitute
    {mode : Mode}
    {word other : List Char}
    (proper : mode.Proper)
    (isWord : IsWord word)
    (isOther : IsWord other)
    (template : Template)
    (stack : List Char) :
    advance (mode, stack) (template.substitute word) =
      advance (mode, stack) (template.substitute other) := by
  rcases template with ⟨lead, actions⟩
  induction actions generalizing mode lead stack with
  | nil => rfl
  | cons first rest ih =>
      rw [Template.substitute, Template.substitute, advance_append,
        advance_append]
      cases read : advance (mode, stack) lead with
      | none => rfl
      | some reading =>
          rcases reading with ⟨next, open_⟩
          have properNext : next.Proper := proper.advance read
          have properBehind : next.behindInert.Proper :=
            properNext.advance (advance_word properNext isWord open_)
          have behind := ih properBehind open_ first.2
          simp only [Option.bind_some, List.flatMap_cons, List.append_assoc]
          rw [advance_append, advance_append _ other, advance_word properNext isWord,
            advance_word properNext isOther]
          exact behind

theorem closed_substitute_of_word
    {template : Template}
    {word other : List Char}
    (isWord : IsWord word)
    (isOther : IsWord other)
    (closed : Closed (template.substitute word)) :
    Closed (template.substitute other) := by
  rw [Closed, Leads, ← advance_substitute Mode.proper_outside isWord isOther]
  exact closed

end ServiceLevel.Query
