import ServiceLevel.Entries
import ServiceLevel.Failure

/-!
# Labels

Label maps and their two Prometheus forms.  A filter lists the pairs with
quoted values, sorted by their written form; a grouping lists the sorted names.
Values come from documents and need not be texts: only texts can be written in a
filter.
-/

namespace ServiceLevel

/-- An ordered map from label names to values. -/
abbrev Labels := Entries Json

namespace Labels

/-- A text with another text in place of each occurrence of a character. -/
def replaceChar (old : Char) (new text : List Char) : List Char :=
  text.flatMap fun c => if c = old then new else [c]

/-- A label value with escapes.  Backslashes come first, as the other escapes add some. -/
def escapeValue (value : List Char) : List Char :=
  let value := replaceChar '\\' ['\\', '\\'] value
  let value := replaceChar '"' ['\\', '"'] value
  let value := replaceChar '\n' ['\\', 'n'] value
  replaceChar '\t' ['\\', 't'] value

/-- A label value between double quotation marks. -/
def quoteValue (value : List Char) : List Char :=
  '"' :: escapeValue value ++ ['"']

/-- How one character of a label value is written between double quotation marks. -/
def escapeChar (c : Char) : List Char :=
  if c = '\\' then ['\\', '\\']
  else if c = '"' then ['\\', '"']
  else if c = '\n' then ['\\', 'n']
  else if c = '\t' then ['\\', 't']
  else [c]

theorem replaceChar_append (old : Char) (new left right : List Char) :
    replaceChar old new (left ++ right) =
      replaceChar old new left ++ replaceChar old new right :=
  List.flatMap_append

theorem escapeValue_append (left right : List Char) :
    escapeValue (left ++ right) = escapeValue left ++ escapeValue right := by
  simp only [escapeValue, replaceChar_append]

theorem escapeValue_singleton (c : Char) : escapeValue [c] = escapeChar c := by
  by_cases isBackslash : c = '\\'
  · rw [isBackslash]
    rfl
  by_cases isQuote : c = '"'
  · rw [isQuote]
    rfl
  by_cases isLineBreak : c = '\n'
  · rw [isLineBreak]
    rfl
  by_cases isTab : c = '\t'
  · rw [isTab]
    rfl
  simp [escapeValue, escapeChar, replaceChar, isBackslash, isQuote, isLineBreak, isTab]

/-- The replacements, made one after another, write each character for itself. -/
theorem escapeValue_eq_flatMap (value : List Char) :
    escapeValue value = value.flatMap escapeChar := by
  induction value with
  | nil => rfl
  | cons c rest ih =>
      rw [← List.singleton_append, escapeValue_append, escapeValue_singleton, ih,
        List.singleton_append, List.flatMap_cons]

theorem quoteValue_eq (value : List Char) :
    quoteValue value = '"' :: value.flatMap escapeChar ++ ['"'] := by
  rw [quoteValue, escapeValue_eq_flatMap]

/-- A name, an equals sign and the quoted value. -/
def pairText (name value : String) : String :=
  name ++ "=" ++ String.ofList (quoteValue value.toList)

/-- The failure of a value that is not a text. -/
def notText (value : Json) : Failure :=
  .fault .attribute ("'" ++ value.typeName ++ "' object has no attribute 'replace'")

/-- The written pairs, in the order of the map. -/
def pairTexts : List (String × Json) → Except Failure (List String)
  | [] => .ok []
  | (name, .text value) :: rest => (pairTexts rest).map (pairText name value :: ·)
  | (_, value) :: _ => .error (notText value)

/-- Texts in ascending order of their code points. -/
def sortTexts (texts : List String) : List String :=
  texts.mergeSort fun left right => decide (left ≤ right)

/-- The selector filter of a label map. -/
def filterText (labels : Labels) : Except Failure String :=
  (pairTexts labels.pairs).map fun texts =>
    "\x7b" ++ ", ".intercalate (sortTexts texts) ++ "\x7d"

/-- The grouping list of a label map. -/
def groupText (labels : Labels) : String :=
  ", ".intercalate (sortTexts labels.keys)

/-- A label map whose values are texts. -/
def ofTexts (pairs : List (String × String)) : Labels :=
  Entries.ofList (pairs.map fun pair => (pair.1, Json.text pair.2))

end Labels

end ServiceLevel
