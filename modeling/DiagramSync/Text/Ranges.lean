/-!
# Ranges of code points

A class of characters that follows no rule is given as a table of inclusive ranges.

* `inRanges` — a code point lies in one of the ranges
-/

namespace DiagramSync.Text

/-- A code point lies in one of the ranges. -/
def inRanges (ranges : List (Nat × Nat)) (n : Nat) : Bool :=
  ranges.any fun (lo, hi) => lo ≤ n && n ≤ hi

end DiagramSync.Text
