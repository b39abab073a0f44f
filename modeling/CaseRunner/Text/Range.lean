/-!
# Rows of ranges

A property of characters is given as an ascending row of closed ranges of code
points. Reading the row stops at the first range that begins further on, so a
question about a character near the start of the row costs little – in a
running program and in a proof by evaluation alike.
-/

namespace CaseRunner.Text

/-- Does the code point lie in one of the ranges of an ascending row? -/
def inRanges : List (Nat × Nat) → Nat → Bool
  | [], _ => false
  | (lo, hi) :: rest, n => if n < lo then false else n ≤ hi || inRanges rest n

@[simp] theorem inRanges_nil (n : Nat) : inRanges [] n = false := rfl

end CaseRunner.Text
