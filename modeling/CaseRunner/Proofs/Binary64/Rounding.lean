import CaseRunner.Document.Basic
import Mathlib.Order.Monotone.Basic
import Mathlib.Tactic.Ring

/-!
# Rounding integers

An integer becomes the binary number nearest to it. Between a power of two and the next,
the binary numbers with 53 bits are as far apart as the 53rd bit says (`spacing`), and the
nearest multiple of that is taken, a tie going to the even one (`rounded`). This is the
nearest among all integers of 53 bits (`nearest_rounded`): those below the power of two are
farther away than the power itself.

The ranks of binary numbers are in the order of their magnitudes (`magnitude_strictMono`).
So two integers are compared as what they are rounded to (`order_ofInt`), for which it is
all the same whether it is said in ranks or in integers.

All of this is arithmetic of whole numbers. Binary numbers are ranks here, which is to say
that the pattern of bits is read as a number, and neither a rational nor a real number is
ever made of one. The only thing that the two readings have to agree on is the order, and
for this the magnitude of a rank is counted in units of the smallest number that is not
zero.
-/

namespace CaseRunner

theorem pow2_eq (n : Nat) : pow2 n = 2 ^ n := rfl

namespace Binary64

/-! ## Quotients -/

section Quotients

variable {num den k l : Nat}

/-- A quotient is rounded down or up, and not to the farther of the two. -/
theorem divRoundEven_cases (num den : Nat) :
    (divRoundEven num den = num / den ∧ 2 * (num % den) ≤ den)
      ∨ (divRoundEven num den = num / den + 1 ∧ den ≤ 2 * (num % den)) := by
  unfold divRoundEven
  dsimp only
  split
  next up =>
    simp only [Bool.or_eq_true, decide_eq_true_eq, Bool.and_eq_true, beq_iff_eq] at up
    exact .inr ⟨rfl, by omega⟩
  next down =>
    simp only [Bool.or_eq_true, decide_eq_true_eq, not_or, Nat.not_lt] at down
    exact .inl ⟨rfl, down.1⟩

/-- Different multiples are apart. -/
theorem mul_add_le_mul (den : Nat) (h : k < l) : k * den + den ≤ l * den := by
  rw [← Nat.succ_mul]
  exact Nat.mul_le_mul_right den h

/-- A multiple is below the quotient rounded down, or above it. -/
theorem mul_le_or_le_mul (num den k : Nat) :
    k * den ≤ num / den * den ∨ num / den * den + den ≤ k * den := by
  rcases Nat.lt_or_ge (num / den) k with h | h
  · exact .inr (mul_add_le_mul den h)
  · exact .inl (Nat.mul_le_mul_right den h)

/-- **The nearest multiple.** No multiple of the denominator is nearer to a number than the
rounded quotient makes it. The quotient that is rounded down and the next one stand on
either side of the number, every other multiple lies beyond one of the two, and of the two
the farther is never taken. -/
theorem divRoundEven_nearest (hden : 0 < den) (k : Nat) :
    ((num : Int) - (divRoundEven num den * den : Nat)).natAbs
      ≤ ((num : Int) - (k * den : Nat)).natAbs := by
  have whole : num / den * den + num % den = num := Nat.div_add_mod' num den
  have rest : num % den < den := Nat.mod_lt num hden
  have side := mul_le_or_le_mul num den k
  rcases divRoundEven_cases num den with ⟨heq, near⟩ | ⟨heq, near⟩
  · rw [heq]
    omega
  · rw [heq, Nat.succ_mul]
    omega

/-- What is at least a multiple is not rounded below it. -/
theorem le_divRoundEven (hden : 0 < den) (h : k * den ≤ num) : k ≤ divRoundEven num den := by
  have below : k ≤ num / den := (Nat.le_div_iff_mul_le hden).mpr h
  rcases divRoundEven_cases num den with ⟨heq, -⟩ | ⟨heq, -⟩ <;> omega

@[simp] theorem divRoundEven_one (n : Nat) : divRoundEven n 1 = n := by
  rcases divRoundEven_cases n 1 with ⟨heq, -⟩ | ⟨-, absurd⟩
  · rw [heq, Nat.div_one]
  · omega

/-- What is at most a multiple is not rounded above it. -/
theorem divRoundEven_le (hden : 0 < den) (h : num ≤ k * den) : divRoundEven num den ≤ k := by
  have whole : num / den * den + num % den = num := Nat.div_add_mod' num den
  have side := mul_le_or_le_mul num den k
  rcases divRoundEven_cases num den with ⟨heq, near⟩ | ⟨heq, near⟩ <;> rw [heq]
  · exact Nat.div_le_of_le_mul (Nat.mul_comm k den ▸ h)
  · have above : (num / den + 1) * den ≤ k * den := by
      rw [Nat.succ_mul]
      omega
    exact Nat.le_of_mul_le_mul_right above hden

/-- **A tie goes to the even quotient.** If another multiple is as near as the one that was
taken, the number stands in the middle between the two, and the quotient that was taken is
even. -/
theorem divRoundEven_even (hden : 0 < den) (hk : k ≠ divRoundEven num den)
    (tie : ((num : Int) - (k * den : Nat)).natAbs
      = ((num : Int) - (divRoundEven num den * den : Nat)).natAbs) :
    divRoundEven num den % 2 = 0 := by
  have whole : num / den * den + num % den = num := Nat.div_add_mod' num den
  have rest : num % den < den := Nat.mod_lt num hden
  unfold divRoundEven at hk tie ⊢
  dsimp only at hk tie ⊢
  split at hk
  next up =>
    rw [if_pos up] at tie ⊢
    simp only [Bool.or_eq_true, decide_eq_true_eq, Bool.and_eq_true, beq_iff_eq] at up
    -- no other multiple is as near but the one below, and that only in the middle
    rcases Nat.lt_or_gt_of_ne hk with below | above
    · have lower : k * den ≤ num / den * den := Nat.mul_le_mul_right den (Nat.le_of_lt_succ below)
      rw [Nat.succ_mul] at tie
      omega
    · have higher := mul_add_le_mul den above
      rw [Nat.succ_mul] at tie higher
      omega
  next down =>
    rw [if_neg down] at tie ⊢
    simp only [Bool.or_eq_true, decide_eq_true_eq, not_or, Nat.not_lt, Bool.and_eq_true,
      beq_iff_eq] at down
    rcases Nat.lt_or_gt_of_ne hk with below | above
    · have lower := mul_add_le_mul den below
      omega
    · have higher := mul_add_le_mul den above
      omega

end Quotients

/-! ## Magnitudes -/

/-- **The magnitude of a rank** in units of `2 ^ -1074`. This is the smallest difference
there is between two binary numbers, so that every magnitude is a natural number. -/
def magnitude (rank : Nat) : Nat := significand rank * pow2 (exponent rank + 1074).toNat

theorem magnitude_of_lt {rank : Nat} (h : rank < 2 ^ 52) : magnitude rank = rank := by
  have small : rank < pow2 52 := h
  simp only [magnitude, significand, exponent, if_pos small]
  exact Nat.mul_one rank

/-- **A rank says a significand of 53 bits and a power of two.** Of the significand only 52
bits are written, as the first is always one; adding the significand with its first bit to
the exponent in front of it makes up for this, as the bit is carried into the exponent. -/
theorem magnitude_of_normal {k q : Nat} (low : 2 ^ 52 ≤ q) (high : q < 2 ^ 53) :
    magnitude (k * 2 ^ 52 + q) = q * 2 ^ k := by
  have quotient : (k * 2 ^ 52 + q) / pow2 52 = k + 1 := by
    rw [pow2_eq]
    omega
  have rest : pow2 52 + (k * 2 ^ 52 + q) % pow2 52 = q := by
    rw [pow2_eq]
    omega
  have large : ¬ k * 2 ^ 52 + q < pow2 52 := by
    rw [pow2_eq]
    omega
  have power : ((k + 1 : Nat) - 1075 + 1074 : Int).toNat = k := by omega
  rw [magnitude, significand, exponent, if_neg large, if_neg large, rest, quotient, power,
    pow2_eq]

/-- The significand may be the next power of two as well. This is what rounding up can come
to, and nothing has to be done about it: the carry makes it the first significand of the
next exponent. -/
theorem magnitude_add {k q : Nat} (low : 2 ^ 52 ≤ q) (high : q ≤ 2 ^ 53) :
    magnitude (k * 2 ^ 52 + q) = q * 2 ^ k := by
  rcases Nat.lt_or_eq_of_le high with high | rfl
  · exact magnitude_of_normal low high
  · have carried : k * 2 ^ 52 + 2 ^ 53 = (k + 1) * 2 ^ 52 + 2 ^ 52 := by ring
    rw [carried, magnitude_of_normal le_rfl (by decide)]
    ring

/-- **The higher the rank, the greater the magnitude.** From a rank to the next the
significand grows by one unit of its exponent, or begins anew with the next exponent, where
it stands for as much. -/
theorem magnitude_strictMono : StrictMono magnitude := by
  refine strictMono_nat_of_lt_succ fun rank => ?_
  rcases Nat.lt_or_ge rank (2 ^ 52) with small | large
  · rw [magnitude_of_lt small]
    rcases Nat.lt_or_eq_of_le (Nat.succ_le_of_lt small) with next | next
    · rw [magnitude_of_lt next]
      exact Nat.lt_succ_self rank
    · have first : rank + 1 = 0 * 2 ^ 52 + 2 ^ 52 := by omega
      rw [first, magnitude_add le_rfl (by decide)]
      omega
  · -- both ranks have the power of two of the lower one
    obtain ⟨k, q, low, high, rfl⟩ : ∃ k q, 2 ^ 52 ≤ q ∧ q < 2 ^ 53 ∧ rank = k * 2 ^ 52 + q :=
      ⟨rank / 2 ^ 52 - 1, 2 ^ 52 + rank % 2 ^ 52, by omega, by omega, by omega⟩
    rw [Nat.add_assoc, magnitude_of_normal low high,
      magnitude_add (Nat.le_succ_of_le low) (Nat.succ_le_of_lt high)]
    exact Nat.mul_lt_mul_of_pos_right (Nat.lt_succ_self q) (Nat.two_pow_pos k)

/-! ## Rounding a natural number -/

/-- **How far apart the numbers of 53 bits are** between the power of two below a natural
number and the next. Below `2 ^ 52` there are more bits than are needed, and the spacing is
one, since only whole numbers are of interest. -/
def spacing (m : Nat) : Nat := 2 ^ (m.log2 - 52)

/-- The number of 53 bits nearest to a natural number, a tie to the even significand. -/
def roundNat (m : Nat) : Nat := divRoundEven m (spacing m) * spacing m

theorem spacing_pos (m : Nat) : 0 < spacing m := Nat.two_pow_pos _

/-- The first significand of 53 bits stands for the power of two below the number. -/
theorem mul_spacing (m : Nat) : 2 ^ 52 * spacing m = 2 ^ m.log2 * 2 ^ (52 - m.log2) := by
  rw [spacing, ← Nat.pow_add, ← Nat.pow_add]
  congr 1
  omega

theorem mul_spacing_of_le {m : Nat} (h : 52 ≤ m.log2) : 2 ^ 52 * spacing m = 2 ^ m.log2 := by
  rw [mul_spacing, Nat.sub_eq_zero_of_le h, Nat.pow_zero, Nat.mul_one]

/-- The significand of a natural number has 53 bits, if it is not rounded up to the next
power of two. -/
theorem significand_bounds {m : Nat} (hm : m ≠ 0) :
    2 ^ 52 ≤ divRoundEven (m * 2 ^ (52 - m.log2)) (spacing m)
      ∧ divRoundEven (m * 2 ^ (52 - m.log2)) (spacing m) ≤ 2 ^ 53 := by
  have low : 2 ^ m.log2 ≤ m := Nat.log2_self_le hm
  have high : m < 2 ^ (m.log2 + 1) := Nat.lt_log2_self
  constructor
  · refine le_divRoundEven (spacing_pos m) ?_
    rw [mul_spacing]
    exact Nat.mul_le_mul_right _ low
  · refine divRoundEven_le (spacing_pos m) ?_
    calc m * 2 ^ (52 - m.log2) ≤ 2 ^ (m.log2 + 1) * 2 ^ (52 - m.log2) :=
          Nat.mul_le_mul_right _ (Nat.le_of_lt high)
      _ = 2 * (2 ^ m.log2 * 2 ^ (52 - m.log2)) := by ring
      _ = 2 ^ 53 * spacing m := by rw [← mul_spacing]; ring

/-- The rank of a natural number, its significand counted from its first bit on. -/
theorem nearestRank_one {m : Nat} (hm : m ≠ 0) (h : m.log2 ≤ 1000) :
    nearestRank m 1 = (m.log2 + 1022) * 2 ^ 52
      + divRoundEven (m * 2 ^ (52 - m.log2)) (spacing m) := by
  have low : 2 ^ m.log2 ≤ m := Nat.log2_self_le hm
  -- the estimate is one too small, as it always is for whole numbers
  have estimate : max (-1074) ((m.log2 : Int) - (Nat.log2 1 : Nat) - 53) = (m.log2 : Int) - 53 := by
    have : Nat.log2 1 = 0 := by decide
    omega
  have under : ¬ m * pow2 (-((m.log2 : Int) - 53)).toNat / (1 * pow2 ((m.log2 : Int) - 53).toNat)
      < pow2 53 := by
    have up : (-((m.log2 : Int) - 53)).toNat = 53 - m.log2 := by omega
    have down : ((m.log2 : Int) - 53).toNat = m.log2 - 53 := by omega
    rw [Nat.not_lt, Nat.one_mul, up, down, pow2_eq, pow2_eq, pow2_eq,
      Nat.le_div_iff_mul_le (Nat.two_pow_pos _)]
    calc 2 ^ 53 * 2 ^ (m.log2 - 53) = 2 ^ m.log2 * 2 ^ (53 - m.log2) := by
          rw [← Nat.pow_add, ← Nat.pow_add]
          congr 1
          omega
      _ ≤ m * 2 ^ (53 - m.log2) := Nat.mul_le_mul_right _ low
  have up : (-((m.log2 : Int) - 53 + 1)).toNat = 52 - m.log2 := by omega
  have down : ((m.log2 : Int) - 53 + 1).toNat = m.log2 - 52 := by omega
  have place : ((m.log2 : Int) - 53 + 1 + 1074).toNat = m.log2 + 1022 := by omega
  have finite : (m.log2 + 1022) * 2 ^ 52 + divRoundEven (m * 2 ^ (52 - m.log2)) (spacing m)
      ≤ infiniteRank := by
    have := (significand_bounds hm).2
    have : infiniteRank = 2047 * 2 ^ 52 := rfl
    omega
  rw [nearestRank, if_neg (by simpa using hm)]
  dsimp only [scaled]
  rw [estimate, if_neg under, up, down, place, Nat.one_mul]
  exact Nat.min_eq_left finite

theorem nearestRank_zero : nearestRank 0 1 = 0 := rfl

theorem roundNat_zero : roundNat 0 = 0 := rfl

/-- **The rank of a natural number has the magnitude that it is rounded to.** How many
units make one is given by its exponent, so that the power is not computed. -/
theorem magnitude_nearestRank {m one : Nat} (h : m.log2 ≤ 1000) (hone : one = 1074) :
    magnitude (nearestRank m 1) = roundNat m * 2 ^ one := by
  rcases Nat.eq_zero_or_pos m with rfl | hm
  · rw [nearestRank_zero, roundNat_zero, magnitude_of_lt (by decide), Nat.zero_mul]
  · have hm : m ≠ 0 := Nat.ne_of_gt hm
    obtain ⟨low, high⟩ := significand_bounds hm
    rw [nearestRank_one hm h, magnitude_add low high, roundNat, spacing]
    rcases Nat.le_total m.log2 52 with small | large
    · have apart : m.log2 - 52 = 0 := by omega
      have exponent : 52 - m.log2 + (m.log2 + 1022) = one := by omega
      rw [apart, Nat.pow_zero, divRoundEven_one, divRoundEven_one, Nat.mul_assoc, ← Nat.pow_add,
        exponent, Nat.mul_one]
    · have apart : 52 - m.log2 = 0 := by omega
      have exponent : m.log2 - 52 + one = m.log2 + 1022 := by omega
      rw [apart, Nat.pow_zero, Nat.mul_one, Nat.mul_assoc, ← Nat.pow_add, exponent]

/-- Ranks are in the order of what is rounded to. -/
theorem nearestRank_lt_iff {m n : Nat} (hm : m.log2 ≤ 1000) (hn : n.log2 ≤ 1000) :
    nearestRank m 1 < nearestRank n 1 ↔ roundNat m < roundNat n := by
  obtain ⟨one, hone⟩ : ∃ one, one = 1074 := ⟨_, rfl⟩
  rw [← magnitude_strictMono.lt_iff_lt, magnitude_nearestRank hm hone,
    magnitude_nearestRank hn hone]
  exact Nat.mul_lt_mul_right (Nat.two_pow_pos one)

/-! ## Rounding an integer -/

/-- **The number of 53 bits that an integer is rounded to**, as an integer. The sign is put
aside and taken up again, as it is in a binary number, so rounding is the same on both
sides of zero. -/
def rounded (n : Int) : Int :=
  if n < 0 then -(roundNat n.natAbs : Int) else roundNat n.natAbs

theorem place_ofInt (n : Int) : (ofInt n).place
    = some (if n < 0 then -(nearestRank n.natAbs 1 : Int) else nearestRank n.natAbs 1) := by
  have finite : nearestRank n.natAbs 1 ≤ infiniteRank := by
    unfold nearestRank
    split
    · exact Nat.zero_le _
    · exact Nat.min_le_right _ _
  simp [ofInt, ofRatio, place, rankOfNat, Nat.min_eq_left finite]

/-- Two comparisons come out the same if less is less in both directions. -/
theorem compare_eq_compare {a b c d : Int} (h : a < b ↔ c < d) (h' : b < a ↔ d < c) :
    compare a b = compare c d := by
  rcases Int.lt_trichotomy c d with hlt | rfl | hgt
  · rw [Int.compare_eq_lt.mpr hlt, Int.compare_eq_lt.mpr (h.mpr hlt)]
  · have heq : a = b := by omega
    rw [Int.compare_eq_eq.mpr heq, Int.compare_eq_eq.mpr rfl]
  · rw [Int.compare_eq_gt.mpr hgt, Int.compare_eq_gt.mpr (h'.mpr hgt)]

/-- **Integers are compared as what they are rounded to.** This is the bridge between the
two sides of the module: on the left ranks are compared, which are what is computed with,
and on the right there are integers, of which it is known what they are. The bounds keep
both away from infinity, where different numbers have the same rank. -/
theorem order_ofInt {a b : Int} (ha : a.natAbs.log2 ≤ 1000) (hb : b.natAbs.log2 ≤ 1000) :
    (ofInt a).order (ofInt b) = some (compare (rounded a) (rounded b)) := by
  have ranks := nearestRank_lt_iff ha hb
  have ranks' := nearestRank_lt_iff hb ha
  have zero : (0 : Nat).log2 ≤ 1000 := by decide
  have positive := nearestRank_lt_iff zero ha
  have positive' := nearestRank_lt_iff zero hb
  rw [nearestRank_zero, roundNat_zero] at positive positive'
  rw [order, place_ofInt, place_ofInt]
  -- below zero the order of the ranks is turned round, as that of the numbers is
  refine congrArg some (compare_eq_compare ?_ ?_) <;> unfold rounded <;> split <;> split <;> omega

/-- Whole numbers of documents are far from the greatest binary number. -/
theorem log2_of_range {n : Int} (low : Number.least ≤ n) (high : n ≤ Number.greatest) :
    n.natAbs.log2 ≤ 1000 := by
  have least : Number.least = -9223372036854775808 := rfl
  have greatest : Number.greatest = 18446744073709551615 := rfl
  rcases Nat.eq_zero_or_pos n.natAbs with zero | positive
  · rw [zero]
    decide
  · have : n.natAbs.log2 < 64 := (Nat.log2_lt (Nat.ne_of_gt positive)).mpr (by omega)
    omega

/-! ## The nearest number -/

/-- **An integer of 53 bits**, up to zeros behind them. Said without the binary format:
there are a factor of at most 53 bits and a power of two that make it. That the factor may
be `2 ^ 53` itself adds nothing new, as it is a power of two. -/
def Fits (r : Int) : Prop := ∃ q e, q ≤ 2 ^ 53 ∧ r.natAbs = q * 2 ^ e

/-- **The number of 53 bits nearest to an integer**, a tie to the one with an even
significand.

This is the rule of the standard, and it is stated without any reference to how rounding is
done. There is one such number for each integer, so that whatever satisfies it is what
rounding has to give. -/
structure Nearest (n r : Int) : Prop where
  /-- It has 53 bits. -/
  fits : Fits r
  /-- No other is nearer. -/
  nearest : ∀ r', Fits r' → (n - r).natAbs ≤ (n - r').natAbs
  /-- If another is as near, the significand is even. -/
  even : ∀ r', Fits r' → r' ≠ r → (n - r').natAbs = (n - r).natAbs →
    ∃ q e, q % 2 = 0 ∧ 2 ^ 52 ≤ q ∧ q ≤ 2 ^ 53 ∧ r.natAbs = q * 2 ^ e

/-- A number of 53 bits is a multiple of the spacing, or less than one that is not above the
number. -/
theorem exists_multiple {q e : Nat} (hq : q ≤ 2 ^ 53) (m : Nat) : ∃ k,
    k * spacing m = q * 2 ^ e ∨ (q * 2 ^ e < k * spacing m ∧ k * spacing m ≤ m) := by
  rcases Nat.lt_or_ge e (m.log2 - 52) with finer | coarser
  · -- it is at most the power of two below the number
    have hm : m ≠ 0 := by
      rintro rfl
      simp at finer
    have below : q * 2 ^ e ≤ 2 ^ m.log2 := by
      calc q * 2 ^ e ≤ 2 ^ 53 * 2 ^ (m.log2 - 53) :=
            Nat.mul_le_mul hq (Nat.pow_le_pow_right (by decide) (by omega))
        _ = 2 ^ m.log2 := by
            rw [← Nat.pow_add]
            congr 1
            omega
    refine ⟨2 ^ 52, ?_⟩
    rw [mul_spacing_of_le (by omega)]
    exact (Nat.eq_or_lt_of_le below).imp Eq.symm fun h => ⟨h, Nat.log2_self_le hm⟩
  · refine ⟨q * 2 ^ (e - (m.log2 - 52)), .inl ?_⟩
    rw [spacing, Nat.mul_assoc, ← Nat.pow_add]
    congr 2
    omega

section Nearest

variable {q e m : Nat}

/-- The significand of what is rounded to has 53 bits. -/
theorem significand_le (m : Nat) : divRoundEven m (spacing m) ≤ 2 ^ 53 := by
  refine divRoundEven_le (spacing_pos m) ?_
  calc m ≤ 2 ^ (m.log2 + 1) := Nat.le_of_lt Nat.lt_log2_self
    _ ≤ 2 ^ (53 + (m.log2 - 52)) := Nat.pow_le_pow_right (by decide) (by omega)
    _ = 2 ^ 53 * spacing m := Nat.pow_add ..

/-- It has no fewer if the number has as many. -/
theorem le_significand (h : 52 ≤ m.log2) : 2 ^ 52 ≤ divRoundEven m (spacing m) := by
  refine le_divRoundEven (spacing_pos m) ?_
  rw [mul_spacing_of_le h]
  exact Nat.log2_self_le (by rintro rfl; simp at h)

/-- **Up to 53 bits nothing is rounded.** The spacing of the numbers is one there. -/
theorem roundNat_of_log2 (h : m.log2 ≤ 52) : roundNat m = m := by
  have apart : m.log2 - 52 = 0 := by omega
  rw [roundNat, spacing, apart, Nat.pow_zero, divRoundEven_one, Nat.mul_one]

theorem nearest_roundNat (hq : q ≤ 2 ^ 53) :
    ((m : Int) - roundNat m).natAbs ≤ ((m : Int) - (q * 2 ^ e : Nat)).natAbs := by
  obtain ⟨k, multiple | ⟨below, le⟩⟩ := exists_multiple (e := e) hq m
  · rw [← multiple]
    exact divRoundEven_nearest (spacing_pos m) k
  · have nearest : ((m : Int) - roundNat m).natAbs ≤ ((m : Int) - (k * spacing m : Nat)).natAbs :=
      divRoundEven_nearest (spacing_pos m) k
    omega

/-- A number half-way between two goes to the even one. The hypothesis says that another
multiple of the spacing is as near. -/
theorem even_roundNat (hq : q ≤ 2 ^ 53) (other : q * 2 ^ e ≠ roundNat m)
    (tie : ((m : Int) - (q * 2 ^ e : Nat)).natAbs = ((m : Int) - roundNat m).natAbs) :
    divRoundEven m (spacing m) % 2 = 0 := by
  obtain ⟨k, multiple | ⟨below, le⟩⟩ := exists_multiple (e := e) hq m
  · rw [← multiple] at tie other
    refine divRoundEven_even (spacing_pos m) ?_ tie
    rintro rfl
    exact other rfl
  · have nearest : ((m : Int) - roundNat m).natAbs ≤ ((m : Int) - (k * spacing m : Nat)).natAbs :=
      divRoundEven_nearest (spacing_pos m) k
    omega

theorem natAbs_rounded (n : Int) : (rounded n).natAbs = roundNat n.natAbs := by
  unfold rounded
  split <;> omega

/-- An integer is as far from what it is rounded to as its magnitude is. -/
theorem natAbs_sub_rounded (n : Int) :
    (n - rounded n).natAbs = ((n.natAbs : Int) - roundNat n.natAbs).natAbs := by
  unfold rounded
  split <;> omega

/-- What is not farther away than what an integer is rounded to has another magnitude: the
one of the same magnitude lies on the other side of zero. -/
theorem natAbs_ne_of_ne_rounded {n r : Int} (other : r ≠ rounded n)
    (near : (n - r).natAbs ≤ (n - rounded n).natAbs) : r.natAbs ≠ roundNat n.natAbs := by
  intro same
  have zero : n = 0 → roundNat n.natAbs = 0 := by
    rintro rfl
    exact roundNat_zero
  rw [natAbs_sub_rounded] at near
  unfold rounded at other
  split at other <;> omega

/-- **An integer is rounded to the nearest number of 53 bits**, a tie to the even one. The
numbers to compare with are not only those that are as far apart as the spacing: below the
power of two they are closer. But there the power of two itself, which is a multiple of the
spacing, is nearer than all of them. -/
theorem nearest_rounded (n : Int) : Nearest n (rounded n) where
  fits := ⟨_, _, significand_le n.natAbs, natAbs_rounded n⟩
  nearest := by
    rintro r ⟨q, e, hq, hr⟩
    have near := nearest_roundNat (e := e) (m := n.natAbs) hq
    rw [← hr] at near
    rw [natAbs_sub_rounded]
    omega
  even := by
    rintro r ⟨q, e, hq, hr⟩ other tie
    have otherwise := natAbs_ne_of_ne_rounded other (Nat.le_of_eq tie)
    have near := nearest_roundNat (e := e) (m := n.natAbs) hq
    rw [← hr] at near
    rw [natAbs_sub_rounded] at tie
    have even := even_roundNat (e := e) (m := n.natAbs) hq (hr ▸ otherwise) (by rw [← hr]; omega)
    -- a shorter number is not rounded, and nothing else is as near
    have large : 52 ≤ n.natAbs.log2 := by
      by_contra small
      have exact := roundNat_of_log2 (m := n.natAbs) (by omega)
      omega
    exact ⟨_, _, even, le_significand large, significand_le _, natAbs_rounded n⟩

end Nearest

/-- **What has 53 bits is not rounded.** Nothing can be nearer to it than it is itself. -/
theorem rounded_of_fits {n : Int} (h : Fits n) : rounded n = n := by
  have near := (nearest_rounded n).nearest n h
  omega

/-- **The smaller an integer, the smaller what it is rounded to**, or the same. It follows
from being nearest alone: were the results the wrong way round, both integers would have to
stand in the middle between the two, and so be one. -/
theorem rounded_mono {a b : Int} (h : a ≤ b) : rounded a ≤ rounded b := by
  -- otherwise the middle between the two would not be above the one and not below the other
  have near := (nearest_rounded a).nearest _ (nearest_rounded b).fits
  have near' := (nearest_rounded b).nearest _ (nearest_rounded a).fits
  rcases Int.lt_or_eq_of_le h with h | rfl
  · omega
  · exact Int.le_refl _

end Binary64

end CaseRunner
