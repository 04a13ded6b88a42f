/-!
Sets of characters given as ranges of code points, both ends included.
-/

namespace LineShell.Text

/-- Whether a code point lies in one of the ranges. -/
def inRanges (ranges : List (Nat × Nat)) (n : Nat) : Bool :=
  ranges.any fun r => r.1 ≤ n && n ≤ r.2

end LineShell.Text
