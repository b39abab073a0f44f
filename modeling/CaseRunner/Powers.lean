/-!
# Powers

Powers of the two bases that numbers are written in.
-/

namespace CaseRunner

/-- A power of two. -/
abbrev pow2 (n : Nat) : Nat := Nat.pow 2 n

/-- A power of ten. -/
abbrev pow10 (n : Nat) : Nat := Nat.pow 10 n

end CaseRunner
