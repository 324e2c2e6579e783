/-
Classes of characters.

The character database gives most classes as ranges of code points; a class is the
list of its ranges, in ascending order, the first and the last code point of each.
-/

namespace Turnstile.Text

/-- Does one of the ranges hold the code point? -/
def inRanges (ranges : List (Nat × Nat)) (n : Nat) : Bool :=
  ranges.any fun (lo, hi) => lo ≤ n && n ≤ hi

end Turnstile.Text
