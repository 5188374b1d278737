import ServiceLevel.Text.Printable

/-!
# Quoted texts in messages

Messages show a text between quotation marks so that its ends and its
invisible characters can be seen.  Single marks are used unless the text holds
one and no double mark; a backslash, the chosen mark and every unprintable
character are written as escapes.  Code points outside the characters, which
ill-formed texts may hold, are escaped as well.
-/

namespace ServiceLevel.Text

/-- A hexadecimal digit in lower case. -/
def hexDigit (value : Nat) : Char :=
  if value < 10 then Char.ofNat (48 + value) else Char.ofNat (87 + value)

/-- The lowest `width` hexadecimal digits of a number. -/
def hexDigits : Nat → Nat → List Char
  | 0, _ => []
  | width + 1, value => hexDigits width (value / 16) ++ [hexDigit (value % 16)]

@[simp]
theorem length_hexDigits (width value : Nat) : (hexDigits width value).length = width := by
  induction width generalizing value with
  | zero => rfl
  | succ width ih => simp [hexDigits, ih]

/-- The mark a text is quoted with. -/
def quotationMark (codes : List Nat) : Nat :=
  if codes.contains 39 && !codes.contains 34 then 34 else 39

/-- How one code point is written inside quotation marks. -/
def escapeCode (mark code : Nat) : List Char :=
  if code = mark || code = 92 then ['\\', Char.ofNat code]
  else if code = 10 then ['\\', 'n']
  else if code = 13 then ['\\', 'r']
  else if code = 9 then ['\\', 't']
  else if printableRanges.has code then [Char.ofNat code]
  else if code < 256 then '\\' :: 'x' :: hexDigits 2 code
  else if code < 65536 then '\\' :: 'u' :: hexDigits 4 code
  else '\\' :: 'U' :: hexDigits 8 code

/-- A sequence of code points between quotation marks. -/
def quotedCodes (codes : List Nat) : String :=
  let mark := quotationMark codes
  String.ofList
    (Char.ofNat mark :: codes.flatMap (escapeCode mark) ++ [Char.ofNat mark])

/-- A text between quotation marks. -/
def quoted (text : String) : String :=
  quotedCodes (text.toList.map Char.toNat)

/-- One character between quotation marks. -/
def quotedChar (c : Char) : String :=
  quotedCodes [c.toNat]

end ServiceLevel.Text
