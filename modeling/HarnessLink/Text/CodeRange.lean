/-!
# Ranges of code points

Sets of characters as tables of closed ranges in increasing order.
-/
namespace HarnessLink.Text

/-- Closed ranges of code points, in increasing order. -/
abbrev CodeRanges := List (Nat × Nat)

/-- A code point is in one of the ranges. Only the first range that does not end
before it can hold it. -/
def CodeRanges.holds : CodeRanges → Nat → Bool
  | [], _ => false
  | (first, last) :: rest, n => if n ≤ last then first ≤ n else holds rest n

end HarnessLink.Text
