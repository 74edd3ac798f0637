/-!
# Sets of code points

A character class of the Unicode standard is kept as the list of its ranges of code points, both
ends included, in ascending order. Membership walks the list and stops at the first range that
lies beyond the code point, so a question about a small code point is answered by the first few
ranges however long the table is. Where a table does not say otherwise it follows version 17.0 of
the standard.
-/

namespace Snippet.Unicode

/-- A set of code points as ascending ranges, both ends included. -/
abbrev Ranges := List (Nat × Nat)

def Ranges.contains : Ranges → Nat → Bool
  | [], _ => false
  | (first, last) :: rest, n =>
    if n < first then false else if n ≤ last then true else Ranges.contains rest n

end Snippet.Unicode
