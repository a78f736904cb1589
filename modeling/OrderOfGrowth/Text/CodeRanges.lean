/-! # Code ranges — character classes as sorted ranges of code points -/

namespace OrderOfGrowth

/-- A set of characters: closed ranges of code points, in increasing order and apart. -/
abbrev CodeRanges := List (Nat × Nat)

/-- Is the code point in one of the ranges?  The ranges are in order, so the search ends at the
    first range that starts above it. -/
def CodeRanges.has : CodeRanges → Nat → Bool
  | [], _ => false
  | (first, last) :: rest, n => first ≤ n && (n ≤ last || CodeRanges.has rest n)

end OrderOfGrowth
