/-!
# Sets of characters as ranges

A property of characters is kept as its ranges of code points, in ascending order. Membership
looks through the ranges.
-/

namespace LayerPress.Text

/-- Closed ranges of code points. -/
abbrev CodeRanges := List (Nat × Nat)

/-- A character belongs to the set when a range holds its code point. -/
def CodeRanges.has (ranges : CodeRanges) (c : Char) : Bool :=
  ranges.any fun range => range.1 ≤ c.toNat && c.toNat ≤ range.2

end LayerPress.Text
