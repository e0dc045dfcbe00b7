/-!
# Sets of code points

A property of characters that Unicode lists is kept as the ranges of the code points that have it,
in increasing order.

* `inRanges` — membership in such a list.
-/

namespace Hiring.Text

/-- Membership of a code point in a list of ranges, both ends included. -/
def inRanges (ranges : List (Nat × Nat)) (n : Nat) : Bool :=
  ranges.any fun r => r.1 ≤ n && n ≤ r.2

theorem inRanges_iff {ranges : List (Nat × Nat)} {n : Nat} :
    inRanges ranges n = true ↔ ∃ r ∈ ranges, r.1 ≤ n ∧ n ≤ r.2 := by
  simp [inRanges]

end Hiring.Text
