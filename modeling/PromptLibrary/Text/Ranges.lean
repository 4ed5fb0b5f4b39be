/-!
# Character sets as ranges

The character classes of the Unicode Standard are kept as ascending lists of
ranges of code points. Membership stops at the first range that lies above.
-/

namespace PromptLibrary.Text

/-- Ascending ranges of code points, both ends included. -/
abbrev Ranges := List (Nat × Nat)

namespace Ranges

/-- Whether `n` lies in one of the ranges. -/
def contains : Ranges → Nat → Bool
  | [], _ => false
  | (low, high) :: rest, n => decide (low ≤ n) && (decide (n ≤ high) || contains rest n)

/-- The first range that holds `n`. -/
def find? : Ranges → Nat → Option (Nat × Nat)
  | [], _ => none
  | (low, high) :: rest, n =>
    if n < low then none else if n ≤ high then some (low, high) else find? rest n

end Ranges

end PromptLibrary.Text
