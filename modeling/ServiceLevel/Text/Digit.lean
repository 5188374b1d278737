/-!
# Decimal digits

Every script with a positional decimal notation has ten consecutive digit
characters; the table holds the zeros.  A run of digits of any scripts, mixed
as they come, denotes a natural number.
-/

namespace ServiceLevel.Text

/-- The code points of the zeros (Unicode 14). -/
def zeros : List Nat :=
  [
   48, 1632, 1776, 1984, 2406, 2534, 2662, 2790, 2918, 3046, 3174, 3302, 3430, 3558, 3664, 3792,
   3872, 4160, 4240, 6112, 6160, 6470, 6608, 6784, 6800, 6992, 7088, 7232, 7248, 42528, 43216,
   43264, 43472, 43504, 43600, 44016, 65296, 66720, 68912, 69734, 69872, 69942, 70096, 70384,
   70736, 70864, 71248, 71360, 71472, 71904, 72016, 72784, 73040, 73120, 92768, 92864, 93008,
   120782, 120792, 120802, 120812, 120822, 123200, 123632, 125264, 130032
  ]

/-- The value of a decimal digit of any script. -/
def digitValue? (c : Char) : Option Nat :=
  (zeros.find? fun base => base ≤ c.toNat && c.toNat ≤ base + 9).map (c.toNat - ·)

/-- Whether a character is a decimal digit of any script. -/
def isDigit (c : Char) : Bool :=
  (digitValue? c).isSome

/-- The number that a run of digits denotes, continuing from `start`. -/
def digitsValue (start : Nat) : List Char → Nat
  | [] => start
  | c :: rest => digitsValue (start * 10 + (digitValue? c).getD 0) rest

@[simp]
theorem digitsValue_nil (start : Nat) : digitsValue start [] = start := rfl

/-- The longest number, in digits, that texts are read into. -/
def digitLimit : Nat := 4300

end ServiceLevel.Text
