/-!
# Sets of characters given by code point ranges

A character class of a text standard is data: an ascending list of closed
ranges of code points.  `Ranges.has` looks a character up and stops at the
first range that begins above it, so the common small code points are found
without walking the table.
-/

namespace ServiceLevel.Text

/-- An ascending list of closed, disjoint code point ranges. -/
abbrev Ranges := List (Nat × Nat)

namespace Ranges

/-- Whether a code point lies in one of the ranges. -/
def has : Ranges → Nat → Bool
  | [], _ => false
  | (low, high) :: rest, code =>
    if code < low then false else code ≤ high || has rest code

/-- Whether the ranges are well formed, disjoint and ascending. -/
def ascending : Ranges → Bool
  | [] => true
  | [(low, high)] => low ≤ high
  | (low, high) :: (next, last) :: rest =>
    low ≤ high && high < next && ascending ((next, last) :: rest)

@[simp]
theorem has_nil (code : Nat) : has [] code = false := rfl

end Ranges

end ServiceLevel.Text
