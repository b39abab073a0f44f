import CaseRunner.Proofs.Binary64.Rounding
import CaseRunner.Proofs.Document.Ordering

/-!
# Comparing whole numbers

Two numbers are compared by value, and the value that whole numbers are compared by is the
binary one. Up to 53 bits this is the number itself, and beyond it is the nearest number
that has so many (`Binary64.rounded`). So whole numbers are compared as what they are
rounded to: never the wrong way round, but different ones are taken for equal where they
are rounded to the same, and nowhere else (`wholes_compare`). The first pair of neighbours
of which this is true lies just above `2 ^ 53` (`equal_neighbours`).

Ids are whole numbers as well, and some of them are longer than 53 bits. An assertion on
such an id may be met by one that is not the id.
-/

namespace CaseRunner.Document

open Binary64

/-- **Two integers are compared exactly**: they are equal only if they are the same, and
their order is that of the integers. The two say the same where both hold; they are both
stated since there are comparators for each. -/
structure Exact (a b : Int) : Prop where
  /-- Only the same integer is equal. -/
  equal : (int a).equal (int b) = true ↔ a = b
  /-- The order is that of the integers. -/
  order : (int a).order? (int b) = some (compare a b)

section Wholes

variable {a b : Int}

theorem order?_int (ha : a.natAbs.log2 ≤ 1000) (hb : b.natAbs.log2 ≤ 1000) :
    (int a).order? (int b) = some (compare (rounded a) (rounded b)) :=
  order_ofInt ha hb

theorem equal_int_iff (ha : a.natAbs.log2 ≤ 1000) (hb : b.natAbs.log2 ≤ 1000) :
    (int a).equal (int b) = true ↔ rounded a = rounded b := by
  rw [equal_iff_of_order? (order?_int ha hb), Int.compare_eq_eq]

/-- Integers that are not rounded to the same are in the order of what they are rounded to. -/
theorem compare_rounded (h : a = b ∨ rounded a ≠ rounded b) :
    compare (rounded a) (rounded b) = compare a b := by
  rcases Int.lt_trichotomy a b with lt | rfl | gt
  · have mono := rounded_mono (Int.le_of_lt lt)
    rw [Int.compare_eq_lt.mpr lt, Int.compare_eq_lt]
    omega
  · rw [Int.compare_eq_eq.mpr rfl, Int.compare_eq_eq.mpr rfl]
  · have mono := rounded_mono (Int.le_of_lt gt)
    rw [Int.compare_eq_gt.mpr gt, Int.compare_eq_gt]
    omega

/-- **Integers are compared exactly but where different ones are rounded to the same.**
Rounding keeps the order, so what is rounded to different numbers is still in the order in
which it was. -/
theorem exact_iff (ha : a.natAbs.log2 ≤ 1000) (hb : b.natAbs.log2 ≤ 1000) :
    Exact a b ↔ a = b ∨ rounded a ≠ rounded b := by
  constructor
  · intro exactly
    by_cases same : rounded a = rounded b
    · exact .inl (exactly.equal.mp ((equal_int_iff ha hb).mpr same))
    · exact .inr same
  · intro h
    refine ⟨?_, (order?_int ha hb).trans (congrArg some (compare_rounded h))⟩
    rw [equal_int_iff ha hb]
    exact ⟨fun same => h.resolve_right (not_not_intro same), congrArg rounded⟩

end Wholes

/-- **How whole numbers are compared**: as what they are rounded to, which is the nearest
number of 53 bits. So they are compared exactly unless different ones are rounded to the
same, in particular if they have 53 bits themselves, and never the wrong way round.

The bounds are those of the whole numbers that a document can hold. What rounding gives is
told by the first part, in terms of which the others are to be read; without it they would
only say that numbers are compared by some function. -/
theorem wholes_compare {a b : Int} (lowa : Number.least ≤ a) (higha : a ≤ Number.greatest)
    (lowb : Number.least ≤ b) (highb : b ≤ Number.greatest) :
    (Nearest a (rounded a) ∧ Nearest b (rounded b))
      ∧ ((int a).equal (int b) = true ↔ rounded a = rounded b)
      ∧ (int a).order? (int b) = some (compare (rounded a) (rounded b))
      ∧ (Exact a b ↔ a = b ∨ rounded a ≠ rounded b)
      ∧ (Fits a → Fits b → Exact a b)
      ∧ ((int a).order? (int b) = some .lt → a < b) := by
  have ha := log2_of_range lowa higha
  have hb := log2_of_range lowb highb
  refine ⟨⟨nearest_rounded a, nearest_rounded b⟩, equal_int_iff ha hb, order?_int ha hb,
    exact_iff ha hb, fun fita fitb => ?_, fun h => ?_⟩
  · rw [exact_iff ha hb, rounded_of_fits fita, rounded_of_fits fitb]
    exact Decidable.em _
  · rw [order?_int ha hb, Option.some.injEq, Int.compare_eq_lt] at h
    exact Int.lt_of_not_ge fun le => Int.not_le_of_gt h (rounded_mono le)

/-- Above `2 ^ 53` every second number has 53 bits, and odd neighbours are told apart where
they are rounded away from each other. -/
theorem wholes_compare_of_odd :
    Number.least ≤ 9007199254740993 ∧ (9007199254740995 : Int) ≤ Number.greatest
      ∧ rounded 9007199254740993 ≠ rounded 9007199254740995
      ∧ Exact 9007199254740993 9007199254740995
      ∧ Fits 9007199254740992 ∧ Fits (-9007199254740992)
      ∧ Exact 9007199254740992 (-9007199254740992)
      ∧ (int (-9007199254740992)).order? (int 9007199254740992) = some .lt := by
  have apart : rounded 9007199254740993 ≠ rounded 9007199254740995 := by decide +kernel
  have fits : Fits 9007199254740992 := ⟨2 ^ 53, 0, by decide, by decide⟩
  have fits' : Fits (-9007199254740992) := ⟨2 ^ 53, 0, by decide, by decide⟩
  obtain ⟨-, -, -, odd, -⟩ := wholes_compare (a := 9007199254740993) (b := 9007199254740995)
    (by decide) (by decide) (by decide) (by decide)
  obtain ⟨-, -, -, -, exactly, -⟩ := wholes_compare (a := 9007199254740992)
    (b := -9007199254740992) (by decide) (by decide) (by decide) (by decide)
  exact ⟨by decide, by decide, apart, odd.mpr (.inr apart), fits, fits', exactly fits fits',
    by decide +kernel⟩

/-- **Neighbours that are taken for equal**: `2 ^ 53` and the next whole number, which has a
bit more than binary numbers have. -/
theorem equal_neighbours :
    Number.least ≤ 9007199254740992 ∧ (9007199254740993 : Int) ≤ Number.greatest
      ∧ (9007199254740993 : Int) ≠ 9007199254740992
      ∧ (int 9007199254740993).equal (int 9007199254740992) = true
      ∧ (int 9007199254740993).order? (int 9007199254740992) = some .eq
      ∧ compare (9007199254740993 : Int) 9007199254740992 = .gt
      ∧ ¬ Exact 9007199254740993 9007199254740992 := by
  have equal : (int 9007199254740993).equal (int 9007199254740992) = true := by decide +kernel
  refine ⟨by decide, by decide, by decide, equal, by decide +kernel, by decide, fun exactly => ?_⟩
  exact absurd (exactly.equal.mp equal) (by decide)

end CaseRunner.Document
