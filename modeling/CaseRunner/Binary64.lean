import CaseRunner.Powers

/-!
# Binary floating-point numbers

Numbers with a fraction are kept in the 64-bit binary format. What a value is,
how it is rounded and how two values are ordered is computed here in exact
integer arithmetic, so that statements about numbers in documents are
statements about integers.

The magnitudes that the format can hold, written in ascending order, are
numbered from 0: number 0 is zero, the last one is infinity. A value other
than NaN is a sign and such a *rank*; comparing two values is comparing their
signed ranks (`Binary64.order`), and rounding is finding the nearest rank
(`Binary64.nearestRank`).
-/

namespace CaseRunner

/-- The rank of infinity among the magnitudes. -/
abbrev infiniteRank : Nat := 2047 * pow2 52

/-- A number in the 64-bit binary format. -/
inductive Binary64 where
  /-- No number at all. -/
  | nan
  /-- The magnitude with the given rank, below zero if `negative`. -/
  | signed (negative : Bool) (rank : Fin (infiniteRank + 1))
  deriving DecidableEq, Repr

namespace Binary64

/-- The rank of a natural number of them, infinity if there are not so many. -/
def rankOfNat (n : Nat) : Fin (infiniteRank + 1) :=
  ⟨min n infiniteRank, Nat.lt_succ_of_le (Nat.min_le_right _ _)⟩

/-- The zero with the given sign. -/
def zero (negative : Bool) : Binary64 := .signed negative (rankOfNat 0)

/-- The infinity with the given sign. -/
def infinity (negative : Bool) : Binary64 := .signed negative (rankOfNat infiniteRank)

/-! ## What a rank stands for -/

/-- The magnitude of a finite rank is `significand * 2 ^ exponent`. -/
def significand (rank : Nat) : Nat :=
  if rank < pow2 52 then rank else pow2 52 + rank % pow2 52

/-- See `significand`. -/
def exponent (rank : Nat) : Int :=
  if rank < pow2 52 then -1074 else (rank / pow2 52 : Nat) - 1075

/-- The quotient `num / (den * 2 ^ e)` as a numerator and a denominator. -/
def scaled (num den : Nat) (e : Int) : Nat × Nat :=
  (num * pow2 (-e).toNat, den * pow2 e.toNat)

/-- The quotient rounded to the nearest whole number, a tie to the even one. -/
def divRoundEven (num den : Nat) : Nat :=
  let quotient := num / den
  let rest := 2 * (num % den)
  if den < rest || (rest == den && quotient % 2 == 1) then quotient + 1 else quotient

/-- The rank whose magnitude is nearest to `num / den`, a tie to the even rank,
and infinity from the first magnitude on that would have to be rounded past
the last finite one. -/
def nearestRank (num den : Nat) : Nat :=
  if num == 0 then 0
  else
    let estimate : Int := max (-1074) (num.log2 - den.log2 - 53 : Int)
    let (n, d) := scaled num den estimate
    let e := if n / d < pow2 53 then estimate else estimate + 1
    let (n, d) := scaled num den e
    min ((e + 1074).toNat * pow2 52 + divRoundEven n d) infiniteRank

/-- The number nearest to `num / den` with the given sign. -/
def ofRatio (negative : Bool) (num den : Nat) : Binary64 :=
  .signed negative (rankOfNat (nearestRank num den))

/-- The number nearest to `m * 2 ^ e` with the given sign. -/
def ofScaled (negative : Bool) (m : Nat) (e : Int) : Binary64 :=
  ofRatio negative (m * pow2 e.toNat) (pow2 (-e).toNat)

/-- The number nearest to an integer. -/
def ofInt (n : Int) : Binary64 := ofRatio (n < 0) n.natAbs 1

/-- The number nearest to `digits * 10 ^ e` with the given sign. Exponents far
outside the range of the format are answered without computing the power. -/
def ofDecimal (negative : Bool) (digits : Nat) (e : Int) : Binary64 :=
  if digits == 0 then zero negative
  else
    let place : Int := (digits.log2 * 30103 / 100000 : Nat) + e
    if 400 < place then infinity negative
    else if place < -400 then zero negative
    else ofRatio negative (digits * pow10 e.toNat) (pow10 (-e).toNat)

/-! ## Order -/

/-- The place of a number in the ascending order of all numbers, the two zeros
at one place and NaN at none. -/
def place : Binary64 → Option Int
  | .nan => none
  | .signed negative rank => some (if negative then -(rank.val : Int) else rank.val)

/-- The order of two numbers; none if one of them is NaN. -/
def order (x y : Binary64) : Option Ordering :=
  match x.place, y.place with
  | some a, some b => some (compare a b)
  | _, _ => none

/-- Are two numbers equal as numbers? The two zeros are, NaN never is. -/
def eq (x y : Binary64) : Bool := x.order y == some .eq

/-- Is the first number less than the second? -/
def lt (x y : Binary64) : Bool := x.order y == some .lt

/-- Is the first number at most the second? -/
def le (x y : Binary64) : Bool := x.lt y || x.eq y

@[simp] theorem order_nan_left (x : Binary64) : order .nan x = none := rfl

@[simp] theorem order_nan_right (x : Binary64) : order x .nan = none := by
  cases x <;> rfl

theorem eq_comm (x y : Binary64) : x.eq y = y.eq x := by
  cases x with
  | nan => cases y <;> rfl
  | signed s a =>
    cases y with
    | nan => rfl
    | signed t b =>
      simp [eq, order, place, compare, compareOfLessAndEq]
      grind

/-- Neither NaN nor infinite. -/
def isFinite : Binary64 → Bool
  | .nan => false
  | .signed _ rank => rank.val < infiniteRank

/-! ## Whole numbers -/

/-- The magnitude cut down to a whole number. -/
def floorMagnitude (rank : Nat) : Nat :=
  significand rank * pow2 (exponent rank).toNat / pow2 (-(exponent rank)).toNat

/-- Has the number no fraction? Infinities and NaN have no answer but no. -/
def isWhole : Binary64 → Bool
  | .nan => false
  | .signed _ rank =>
    rank.val < infiniteRank &&
      significand rank.val * pow2 (exponent rank.val).toNat %
        pow2 (-(exponent rank.val)).toNat == 0

/-- The number without its fraction, kept between the two bounds; 0 for NaN. -/
def truncate (lo hi : Int) : Binary64 → Int
  | .nan => 0
  | .signed negative rank =>
    if rank.val = infiniteRank then if negative then lo else hi
    else
      let n : Int := floorMagnitude rank.val
      max lo (min hi (if negative then -n else n))

/-! ## Arithmetic

Every operation computes the exact result and rounds once. -/

/-- The signed exact value of a finite rank in units of `2 ^ -1074`. -/
def units (negative : Bool) (rank : Nat) : Int :=
  let m : Int := significand rank * pow2 (exponent rank + 1074).toNat
  if negative then -m else m

/-- The negated number. -/
def neg : Binary64 → Binary64
  | .nan => .nan
  | .signed negative rank => .signed (!negative) rank

/-- The sum, rounded. -/
def add : Binary64 → Binary64 → Binary64
  | .nan, _ => .nan
  | _, .nan => .nan
  | .signed s a, .signed t b =>
    if a.val = infiniteRank then
      if b.val = infiniteRank && s != t then .nan else .signed s a
    else if b.val = infiniteRank then .signed t b
    else
      let total := units s a.val + units t b.val
      if total = 0 then zero (s && t) else ofScaled (total < 0) total.natAbs (-1074)

/-- The difference, rounded. -/
def sub (x y : Binary64) : Binary64 := add x (neg y)

/-- The product, rounded. -/
def mul : Binary64 → Binary64 → Binary64
  | .nan, _ => .nan
  | _, .nan => .nan
  | .signed s a, .signed t b =>
    if a.val = infiniteRank || b.val = infiniteRank then
      if a.val = 0 || b.val = 0 then .nan else infinity (s != t)
    else
      ofScaled (s != t) (significand a.val * significand b.val)
        (exponent a.val + exponent b.val)

/-- The quotient, rounded. -/
def div : Binary64 → Binary64 → Binary64
  | .nan, _ => .nan
  | _, .nan => .nan
  | .signed s a, .signed t b =>
    if a.val = infiniteRank then
      if b.val = infiniteRank then .nan else infinity (s != t)
    else if b.val = infiniteRank then zero (s != t)
    else if b.val = 0 then if a.val = 0 then .nan else infinity (s != t)
    else
      let e := exponent a.val - exponent b.val
      ofRatio (s != t) (significand a.val * pow2 e.toNat)
        (significand b.val * pow2 (-e).toNat)

example : (ofDecimal false 1 (-1)).add (ofDecimal false 2 (-1)) =
    ofDecimal false 30000000000000004 (-17) := by decide +kernel
example : ofInt (pow2 53 + 1 : Nat) = ofInt (pow2 53) := by decide +kernel
example : ofDecimal false 1 400 = infinity false := by decide +kernel

end Binary64

end CaseRunner
