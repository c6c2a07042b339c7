/-!
# Ascending ranges of code points

Membership in a property table. The scan stops at the first range that starts beyond the code
point sought, so common characters are decided early.
-/

namespace Groundplan.Text

/-- Whether a code point lies in one of the closed ranges, which must be ascending. -/
def inRanges : List (Nat × Nat) → Nat → Bool
  | [], _ => false
  | (low, high) :: ranges, n =>
    if n < low then false else if n ≤ high then true else inRanges ranges n

end Groundplan.Text
