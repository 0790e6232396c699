/-!
# `StateTree.Text.Interval`: sets of code points as closed intervals

A character class is a list of closed intervals of code points, ascending and disjoint. The search
for a code point stops at the first interval that begins past it.
-/

set_option autoImplicit false

namespace StateTree.Text

/-- The code points from the first to the second number, both included. -/
abbrev Interval := Nat × Nat

/-- Whether `n` lies in one of the ascending, disjoint intervals. -/
def inIntervals : List Interval → Nat → Bool
  | [], _ => false
  | (first, last) :: rest, n =>
    if n < first then false else n ≤ last || inIntervals rest n

end StateTree.Text
