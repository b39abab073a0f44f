import CaseRunner.Binary64

/-!
# The shortest decimal

A binary number is written with the fewest decimal digits that still read back
as the same number; among those the nearest, and of two equally near ones the
one that a `Tie` names. The digits come out as a natural number and a power of
ten; how they are laid out is the business of the formats that use them.
-/

namespace CaseRunner.Decimal

/-- Which of two equally near neighbours is taken. -/
inductive Tie where
  /-- The one with the even last digit. -/
  | toEven
  /-- The larger one. -/
  | up
  deriving DecidableEq, Repr

/-- How many decimal digits a natural number has. -/
def length (n : Nat) : Nat := (Nat.toDigits 10 n).length

/-- A decimal `digits * 10 ^ exponent`. -/
structure Digits where
  /-- The digits, as one number. -/
  digits : Nat
  /-- The power of ten of the last digit. -/
  exponent : Int
  deriving DecidableEq, Repr

/-- The interval of magnitudes that are read as one number, each in quarters of
the last place of its significand. -/
structure Neighbourhood where
  /-- The lower end. -/
  low : Nat
  /-- The magnitude itself. -/
  value : Nat
  /-- The upper end. -/
  high : Nat
  /-- The power of two of a quarter. -/
  exponent : Int
  /-- Are the ends read as the number too? -/
  closed : Bool

/-- The neighbourhood of a finite rank. Below a power of two the magnitudes lie
twice as close as above it. -/
def Neighbourhood.ofRank (rank : Nat) : Neighbourhood :=
  let m := Binary64.significand rank
  let closer := m == pow2 52 && pow2 53 ≤ rank
  { low := 4 * m - (if closer then 1 else 2), value := 4 * m, high := 4 * m + 2
    exponent := Binary64.exponent rank - 2, closed := m % 2 == 0 }

/-- The decimals with last digit at `10 ^ place` next to the value, below and
above, tested against the neighbourhood: the nearer of those that lie in it.

All quantities are brought to the common unit `2 ^ min 0 e * 10 ^ min 0 place`. -/
def Neighbourhood.atPlace (n : Neighbourhood) (tie : Tie) (place : Int) :
    Option Digits :=
  let unit := pow2 n.exponent.toNat * pow10 (-place).toNat
  let step := pow10 place.toNat * pow2 (-n.exponent).toNat
  let value := n.value * unit
  let below := value / step
  let inside (k : Nat) : Bool :=
    let x := k * step
    if n.closed then n.low * unit ≤ x && x ≤ n.high * unit
    else n.low * unit < x && x < n.high * unit
  let lower := value - below * step
  let upper := (below + 1) * step - value
  let takeUpper := upper < lower || (upper == lower &&
    match tie with
    | .toEven => below % 2 == 1
    | .up => true)
  match inside below && below != 0, inside (below + 1) with
  | true, true => some ⟨if takeUpper then below + 1 else below, place⟩
  | true, false => some ⟨below, place⟩
  | false, true => some ⟨below + 1, place⟩
  | false, false => none

/-- The power of ten of the first digit of `value * 2 ^ exponent`. -/
def leadingPlace (value : Nat) (exponent : Int) : Int :=
  let num := value * pow2 exponent.toNat
  let den := pow2 (-exponent).toNat
  let guess : Int := (length num : Int) - length den
  if den * pow10 guess.toNat ≤ num * pow10 (-guess).toNat then guess else guess - 1

/-- The digits without the zeros at their end. -/
def Digits.stripZeros : Nat → Digits → Digits
  | 0, d => d
  | fuel + 1, d =>
    if d.digits != 0 && d.digits % 10 == 0 then
      stripZeros fuel ⟨d.digits / 10, d.exponent + 1⟩
    else d

/-- The shortest decimal that reads back as the magnitude of a finite rank.
Seventeen digits always suffice. -/
def shortest (tie : Tie) (rank : Nat) : Digits :=
  if rank = 0 then ⟨0, 0⟩
  else
    let n := Neighbourhood.ofRank rank
    let top := leadingPlace n.value n.exponent
    let found := (List.range 17).findSome? fun k : Nat =>
      n.atPlace tie (top - (k : Int))
    (found.getD ⟨0, 0⟩).stripZeros 20

example : shortest .toEven (Binary64.nearestRank 1 10) = ⟨1, -1⟩ := by decide +kernel
example : shortest .toEven 1 = ⟨5, -324⟩ := by decide +kernel
example : (shortest .up (Binary64.nearestRank 1 (pow2 25))).digits = 29802322387695313 := by
  decide +kernel

end CaseRunner.Decimal
