import ServiceLevel.Proofs.Query.Scanning

/-!
# The grammar of well structured texts

A text is well structured if a grammar derives it: it is empty, or it begins with a
character that is neither a bracket nor a quotation mark, with a pair of brackets around
such a text, or with a string, and goes on with such a text.  In a string a backslash
takes the next character with it, and the first other quotation mark of its kind ends it.

The scan keeps the open brackets in a stack and has no notion of such a derivation.  Where
it stands below open brackets, what is left to read consists of one sentence for each of
them, each with the bracket that closes it, and of a last sentence.  This carries the
induction, and the main statement says that the scan accepts exactly the sentences.
-/

namespace ServiceLevel.Query

/-- The pairs of brackets. -/
def bracketPairs : List (Char × Char) :=
  [('(', ')'), ('[', ']'), ('\x7b', '\x7d')]

/-- The quotation marks. -/
def quotationMarks : List Char :=
  ['"', '\x27', '\x60']

/-- What can stand between two quotation marks. -/
inductive StringBody (quote : Char) : List Char → Prop where
  | nil : StringBody quote []
  | escaped (c : Char) {rest : List Char}
      (others : StringBody quote rest) :
      StringBody quote ('\\' :: c :: rest)
  | char {c : Char} {rest : List Char}
      (notBackslash : c ≠ '\\')
      (notQuote : c ≠ quote)
      (others : StringBody quote rest) :
      StringBody quote (c :: rest)

/-- The texts that the grammar derives. -/
inductive Sentence : List Char → Prop where
  | nil : Sentence []
  | plain {c : Char} {rest : List Char}
      (notQuote : c ∉ quotationMarks)
      (notBracket : ∀ pair ∈ bracketPairs, c ≠ pair.1 ∧ c ≠ pair.2)
      (others : Sentence rest) :
      Sentence (c :: rest)
  | bracketed {pair : Char × Char} {inner rest : List Char}
      (isPair : pair ∈ bracketPairs)
      (inside : Sentence inner)
      (others : Sentence rest) :
      Sentence (pair.1 :: (inner ++ pair.2 :: rest))
  | quoted {quote : Char} {body rest : List Char}
      (isQuote : quote ∈ quotationMarks)
      (inside : StringBody quote body)
      (others : Sentence rest) :
      Sentence (quote :: (body ++ quote :: rest))

/-! ## Classes of characters -/

theorem isQuote_iff {c : Char} : isQuote c ↔ c ∈ quotationMarks := by
  simp [isQuote, quotationMarks, or_assoc]

theorem isOpening_iff {c : Char} :
    isOpening c ↔ ∃ closing, (c, closing) ∈ bracketPairs := by
  simp [isOpening, bracketPairs, exists_or, or_assoc]

theorem partner?_eq_some_iff {c opening : Char} :
    partner? c = some opening ↔ (opening, c) ∈ bracketPairs := by
  rw [partner?]
  split_ifs <;> simp_all [bracketPairs, eq_comm]

theorem isPlain_iff {c : Char} :
    isPlain c ↔
      c ∉ quotationMarks ∧ ∀ pair ∈ bracketPairs, c ≠ pair.1 ∧ c ≠ pair.2 := by
  simp only [isPlain, Bool.and_eq_true, Bool.not_eq_true', Bool.eq_false_iff, ne_eq,
    isQuote_iff, isOpening_iff, Option.isNone_iff_eq_none, Option.eq_none_iff_forall_ne_some,
    partner?_eq_some_iff]
  constructor
  · rintro ⟨⟨notQuote, notOpening⟩, notClosing⟩
    refine ⟨notQuote, ?_⟩
    intro pair isPair
    constructor
    · rintro rfl
      exact notOpening ⟨pair.2, isPair⟩
    · rintro rfl
      exact notClosing pair.1 isPair
  · rintro ⟨notQuote, apart⟩
    refine ⟨⟨notQuote, ?_⟩, ?_⟩
    · rintro ⟨closing, isPair⟩
      exact (apart (c, closing) isPair).1 rfl
    · intro opening isPair
      exact (apart (opening, c) isPair).2 rfl

/-! ## Sentences are well structured -/

/-- A scan reads what can stand in a string and stays in the string. -/
theorem StringBody.advance_inside
    {quote : Char}
    {body : List Char}
    (inString : StringBody quote body)
    (stack : List Char) :
    advance (.inside quote, stack) body = some (.inside quote, stack) := by
  induction inString with
  | nil => rfl
  | escaped c others ih => exact ih
  | char notBackslash notQuote others ih =>
      rw [advance_cons, step, inString, if_neg notBackslash, if_neg notQuote]
      exact ih

theorem closed_quoted
    {quote : Char}
    {body : List Char}
    (isMark : quote ∈ quotationMarks)
    (inString : StringBody quote body) :
    Closed (quote :: (body ++ [quote])) := by
  have notBackslash : quote ≠ '\\' := by
    rintro rfl
    revert isMark
    decide
  rw [Closed, Leads, advance_cons, step, outOfString, if_pos (isQuote_iff.mpr isMark)]
  show advance (.inside quote, []) (body ++ [quote]) = _
  rw [advance_append, inString.advance_inside, Option.bind_some, advance_cons, step,
    Query.inString, if_neg notBackslash, if_pos rfl]
  rfl

/-- Brackets around a well structured text nest. -/
theorem closed_bracketed
    {pair : Char × Char}
    {inner : List Char}
    (isPair : pair ∈ bracketPairs)
    (closed : Closed inner) :
    Closed (pair.1 :: (inner ++ [pair.2])) := by
  have both : Leads [] [pair.1] [pair.1] ∧ Leads [pair.1] [] [pair.2] := by
    revert pair
    decide
  exact both.1.append ((closed.within [pair.1]).append both.2)

theorem Sentence.closed
    {text : List Char}
    (sentence : Sentence text) :
    Closed text := by
  induction sentence with
  | nil => rfl
  | @plain c rest notQuote notBracket others ih =>
      have here : Closed [c] := by
        apply closed_of_plain
        intro other member
        rw [List.mem_singleton.mp member]
        exact isPlain_iff.mpr ⟨notQuote, notBracket⟩
      exact here.append_iff.mpr ih
  | @bracketed pair inner rest isPair inside others insideClosed ih =>
      have here := closed_bracketed isPair insideClosed
      rw [List.append_cons, ← List.cons_append]
      exact here.append_iff.mpr ih
  | @quoted quote body rest isQuote inside others ih =>
      have here := closed_quoted isQuote inside
      rw [List.append_cons, ← List.cons_append]
      exact here.append_iff.mpr ih

/-! ## Well structured texts are sentences -/

/--
What is left to read below open brackets, the innermost first: for each of them a sentence
and the bracket that closes it, and a last sentence.
-/
inductive Completes : List Char → List Char → Prop where
  | nil {text : List Char}
      (last : Sentence text) :
      Completes [] text
  | cons {pair : Char × Char} {inner below rest : List Char}
      (isPair : pair ∈ bracketPairs)
      (inside : Sentence inner)
      (others : Completes below rest) :
      Completes (pair.1 :: below) (inner ++ pair.2 :: rest)

/-- What can stand in front of any sentence can stand in front of what is left to read. -/
theorem Completes.prepend
    {stack piece text : List Char}
    (fits : ∀ sentence, Sentence sentence → Sentence (piece ++ sentence))
    (completes : Completes stack text) :
    Completes stack (piece ++ text) := by
  cases completes with
  | nil last => exact .nil (fits _ last)
  | cons isPair inside others =>
      rw [← List.append_assoc]
      exact .cons isPair (fits _ inside) others

/-- A bracket that closes the innermost one ends an empty sentence. -/
theorem Completes.close
    {pair : Char × Char}
    {below rest : List Char}
    (isPair : pair ∈ bracketPairs)
    (others : Completes below rest) :
    Completes (pair.1 :: below) (pair.2 :: rest) :=
  .cons isPair .nil others

/-- What completes one more bracket is a pair of brackets and what completes the others. -/
theorem Completes.open
    {opening : Char}
    {stack rest : List Char}
    (completes : Completes (opening :: stack) rest) :
    Completes stack (opening :: rest) := by
  cases completes with
  | @cons pair inner below behind isPair inside others =>
      have piece : ∀ sentence, Sentence sentence →
          Sentence (pair.1 :: (inner ++ [pair.2]) ++ sentence) := by
        intro sentence isSentence
        rw [List.cons_append, ← List.append_cons]
        exact .bracketed isPair inside isSentence
      have completed := others.prepend piece
      rw [List.cons_append, ← List.append_cons] at completed
      exact completed

/-- What is left to read from where a scan stands. -/
def Continues : Mode → List Char → List Char → Prop
  | .outside, stack, text => Completes stack text
  | .inside quote, stack, text =>
      ∃ body rest,
        text = body ++ quote :: rest ∧ StringBody quote body ∧ Completes stack rest
  | .escaped quote, stack, text =>
      ∃ c body rest,
        text = c :: (body ++ quote :: rest) ∧
          StringBody quote body ∧ Completes stack rest

/-- A string that is read to its end leaves what is left to read behind it. -/
theorem Continues.quoted
    {quote : Char}
    {stack text : List Char}
    (isQuote : quote ∈ quotationMarks)
    (continues : Continues (.inside quote) stack text) :
    Completes stack (quote :: text) := by
  rcases continues with ⟨body, rest, rfl, inside, completes⟩
  have piece : ∀ sentence, Sentence sentence →
      Sentence (quote :: (body ++ [quote]) ++ sentence) := by
    intro sentence isSentence
    rw [List.cons_append, ← List.append_cons]
    exact .quoted isQuote inside isSentence
  have completed := completes.prepend piece
  rw [List.cons_append, ← List.append_cons] at completed
  exact completed

/-- One more character outside of strings is one more step of a derivation. -/
theorem completes_of_outOfString
    {c : Char}
    {mode : Mode}
    {stack left rest : List Char}
    (read : outOfString stack c = some (mode, left))
    (continues : Continues mode left rest) :
    Completes stack (c :: rest) := by
  rw [outOfString] at read
  split_ifs at read with isMark opens
  · cases read
    exact continues.quoted (isQuote_iff.mp isMark)
  · cases read
    exact Completes.open continues
  · cases closes : partner? c with
    | none =>
        rw [closes] at read
        cases read
        have isPlain : isPlain c := by
          simp [isPlain, isMark, opens, closes]
        rcases isPlain_iff.mp isPlain with ⟨notQuote, notBracket⟩
        have piece : ∀ sentence, Sentence sentence → Sentence ([c] ++ sentence) := by
          intro sentence isSentence
          exact .plain notQuote notBracket isSentence
        exact Completes.prepend piece continues
    | some opening =>
        rw [closes] at read
        have isPair := partner?_eq_some_iff.mp closes
        cases stack with
        | nil => cases read
        | cons top below =>
            simp only [closeBracket] at read
            split_ifs at read with same
            cases read
            rw [same]
            exact Completes.close isPair continues

/-- A scan that ends well has read a derivation of what was left. -/
theorem continues_of_advance
    {mode : Mode}
    {stack text : List Char}
    (read : advance (mode, stack) text = some (.outside, [])) :
    Continues mode stack text := by
  induction text generalizing mode stack with
  | nil =>
      cases read
      exact .nil .nil
  | cons c rest ih =>
      rw [advance_cons] at read
      rcases Option.bind_eq_some_iff.mp read with ⟨⟨next, left⟩, first, others⟩
      have continues := ih others
      cases mode with
      | outside => exact completes_of_outOfString first continues
      | escaped quote =>
          cases first
          rcases continues with ⟨body, behind, rfl, inside, completes⟩
          exact ⟨c, body, behind, rfl, inside, completes⟩
      | inside quote =>
          cases first
          rw [inString] at continues
          split_ifs at continues with isBackslash isQuote
          · rcases continues with ⟨other, body, behind, rfl, inside, completes⟩
            rw [isBackslash]
            exact ⟨'\\' :: other :: body, behind, rfl, .escaped other inside, completes⟩
          · rw [isQuote]
            exact ⟨[], rest, rfl, .nil, continues⟩
          · rcases continues with ⟨body, behind, rfl, inside, completes⟩
            exact
              ⟨c :: body, behind, rfl, .char isBackslash isQuote inside, completes⟩

theorem Closed.sentence
    {text : List Char}
    (closed : Closed text) :
    Sentence text := by
  cases continues_of_advance closed with
  | nil last => exact last

instance : DecidablePred Sentence := fun text =>
  decidable_of_iff (Closed text) ⟨Closed.sentence, Sentence.closed⟩

/-- The structure of a query is accepted exactly if the grammar derives the query. -/
theorem checkStructure_eq_ok_iff_sentence (query : String) :
    checkStructure query = .ok () ↔ Sentence query.toList := by
  rw [checkStructure_eq_ok_iff]
  exact ⟨Closed.sentence, Sentence.closed⟩

example :
    Sentence "sum(rate(errors\x7bpath=\"(\\\")\"\x7d[5m]))".toList ∧
      ¬ Sentence "(]".toList := by
  decide

end ServiceLevel.Query
