import ServiceLevel.Text.Ranges

/-!
# White space

The blank characters are the white space of the Unicode standard together
with the four information separators.  Trimming removes blanks from the ends
of a text and nothing else.
-/

namespace ServiceLevel.Text

/-- The code points of the blank characters. -/
def blankRanges : Ranges :=
  [
   (9, 13), (28, 32), (133, 133), (160, 160), (5760, 5760), (8192, 8202), (8232, 8233),
   (8239, 8239), (8287, 8287), (12288, 12288)
  ]

/-- Whether a character is white space. -/
def isBlank (c : Char) : Bool :=
  blankRanges.has c.toNat

/-- Drop the blanks at the left end. -/
def trimLeft (text : List Char) : List Char :=
  text.dropWhile isBlank

/-- Drop the blanks at both ends. -/
def trim (text : List Char) : List Char :=
  (trimLeft (trimLeft text).reverse).reverse

@[simp]
theorem trim_nil : trim [] = [] := rfl

end ServiceLevel.Text
