/-! # Ranges of code points

A class of characters is given by the ranges of its code points, in ascending order.
-/

namespace TriviaStore.Text

/-- The first and the last code point of a range. -/
abbrev Range := Nat × Nat

/-- Whether a character lies in one of the ranges. -/
def inRanges (ranges : List Range) (c : Char) : Bool :=
  ranges.any fun r => r.1 ≤ c.toNat && c.toNat ≤ r.2

end TriviaStore.Text
