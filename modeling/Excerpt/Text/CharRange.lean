/-! # Tables of characters

A property of characters is given by closed ranges of code points in increasing order. -/

namespace Excerpt

/-- A closed range of code points. -/
abbrev CharRange := Nat × Nat

/-- Whether a code point lies in one of the ranges. The search ends at the first range above it. -/
def inRanges (n : Nat) : List CharRange → Bool
  | [] => false
  | (low, high) :: rest =>
    if n < low then false
    else if n ≤ high then true
    else inRanges n rest

end Excerpt
