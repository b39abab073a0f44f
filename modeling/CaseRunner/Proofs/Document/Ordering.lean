import CaseRunner.Document.Compare
import CaseRunner.Proofs.Document.Finite

/-!
# Equality and order of documents

Numbers are compared by their places in the ascending order of all numbers, and texts
character by character. So wherever two documents have an order, it is the order of a
linear one: swapping the documents swaps it (`order?_swap`), what is less than something is
less than all above it (`order?_trans`), and two documents are in the order `eq` exactly if
they are equal (`equal_iff_of_order?`).

Equality is symmetric and transitive for all documents, those that have no order among
them. It is reflexive where all numbers are finite (`isFinite`), as they are in all
documents: NaN, which no document holds, equals nothing.

There are two equalities. One is by value and is what conditions ask for; the other is by
form (`Document.same`), and the first one falls back on it for everything that is not a
number. Most of what is shown of the first is shown of the second beforehand, by induction
on the two documents.
-/

namespace CaseRunner

/-- **Five relations of two values are those of one linear order**: exactly one of the
first three holds, and the others are put together of them.

The five are statements about two values that are fixed, so nothing is said of a third
value. This is what remains of a linear order if only two values can be seen, and it
excludes that two comparators that belong together give answers that do not. -/
structure Trichotomy (lt eq gt le ge : Prop) : Prop where
  /-- Exactly one of the three holds. -/
  one : (lt ∧ ¬ eq ∧ ¬ gt) ∨ (¬ lt ∧ eq ∧ ¬ gt) ∨ (¬ lt ∧ ¬ eq ∧ gt)
  /-- At most is less or equal. -/
  le : le ↔ lt ∨ eq
  /-- At least is greater or equal. -/
  ge : ge ↔ gt ∨ eq

/-- What an ordering says of itself are such relations. -/
theorem Trichotomy.of_ordering {lt eq gt le ge : Prop} (o : Ordering) (hlt : lt ↔ o = .lt)
    (heq : eq ↔ o = .eq) (hgt : gt ↔ o = .gt) (hle : le ↔ o ≠ .gt) (hge : ge ↔ o ≠ .lt) :
    Trichotomy lt eq gt le ge := by
  constructor <;> cases o <;> simp [hlt, heq, hgt, hle, hge]

/-! ## Numbers -/

namespace Binary64

variable {x y z : Binary64} {o : Ordering}

/-- Numbers are in the order of their places. -/
theorem order_eq_some_iff :
    x.order y = some o ↔ ∃ a b, x.place = some a ∧ y.place = some b ∧ compare a b = o := by
  unfold order
  cases x.place <;> cases y.place <;> simp

/-- **Numbers are equal if they have one place.** The two zeros have one place, and NaN has
none. -/
theorem eq_iff : x.eq y = true ↔ ∃ a, x.place = some a ∧ y.place = some a := by
  rw [eq, beq_iff_eq, order_eq_some_iff]
  constructor
  · rintro ⟨a, b, ha, hb, heq⟩
    obtain rfl := Std.compare_eq_iff_eq.mp heq
    exact ⟨a, ha, hb⟩
  · rintro ⟨a, ha, hb⟩
    exact ⟨a, a, ha, hb, Std.compare_eq_iff_eq.mpr rfl⟩

theorem order_swap (x y : Binary64) : y.order x = (x.order y).map Ordering.swap := by
  unfold order
  cases x.place with
  | none => cases y.place <;> rfl
  | some a =>
    cases y.place with
    | none => rfl
    | some b => exact congrArg some Std.OrientedCmp.eq_swap

theorem order_trans (h : x.order y = some .lt) (h' : y.order z = some .lt) :
    x.order z = some .lt := by
  obtain ⟨a, b, ha, hb, hab⟩ := order_eq_some_iff.mp h
  obtain ⟨b', c, hb', hc, hbc⟩ := order_eq_some_iff.mp h'
  obtain rfl := Option.some.inj (hb.symm.trans hb')
  exact order_eq_some_iff.mpr ⟨a, c, ha, hc, Std.TransCmp.lt_trans hab hbc⟩

theorem eq_trans (h : x.eq y = true) (h' : y.eq z = true) : x.eq z = true := by
  obtain ⟨a, ha, hb⟩ := eq_iff.mp h
  obtain ⟨b, hb', hc⟩ := eq_iff.mp h'
  obtain rfl := Option.some.inj (hb.symm.trans hb')
  exact eq_iff.mpr ⟨a, ha, hc⟩

theorem eq_self (h : x.isFinite = true) : x.eq x = true := by
  cases x with
  | nan => cases h
  | signed negative rank => exact eq_iff.mpr ⟨_, rfl, rfl⟩

end Binary64

namespace Number

variable {a b c : Number}

theorem same_comm (a b : Number) : a.same b = b.same a := by
  cases a <;> cases b
  · exact Bool.beq_comm
  · rfl
  · rfl
  · exact Binary64.eq_comm _ _

theorem same_trans (h : a.same b = true) (h' : b.same c = true) : a.same c = true := by
  cases a <;> cases b <;> cases c <;> try contradiction
  · exact beq_iff_eq.mpr ((beq_iff_eq.mp h).trans (beq_iff_eq.mp h'))
  · exact Binary64.eq_trans h h'

theorem same_self (h : a.isFinite = true) : a.same a = true := by
  cases a with
  | int n => exact beq_self_eq_true n
  | float x => exact Binary64.eq_self h

/-- A whole number has a place. -/
theorem eq_ofInt (n : Int) : (Binary64.ofInt n).eq (Binary64.ofInt n) = true :=
  Binary64.eq_iff.mpr ⟨_, rfl, rfl⟩

/-- What is the same has the same value. -/
theorem eq_of_same (h : a.same b = true) : a.toBinary64.eq b.toBinary64 = true := by
  cases a <;> cases b <;> try contradiction
  · obtain rfl := beq_iff_eq.mp h
    exact eq_ofInt _
  · exact h

end Number

namespace Document

/-! ## Order -/

variable {d e f : Document} {o : Ordering}

/-- **What has an order**: two numbers that have places, and two texts. A number and a text
have none, even if the text is that of a number. -/
theorem exists_of_order? (h : d.order? e = some o) :
    (∃ a b, d = .number a ∧ e = .number b ∧ a.toBinary64.order b.toBinary64 = some o)
      ∨ ∃ s t, d = .text s ∧ e = .text t ∧ compare s t = o := by
  cases d <;> cases e <;> try contradiction
  next a b => exact .inl ⟨a, b, rfl, rfl, h⟩
  next s t => exact .inr ⟨s, t, rfl, rfl, Option.some.inj h⟩

/-- **Swapping two documents swaps their order.** In particular there is an order the one
way exactly if there is one the other way. -/
theorem order?_swap (d e : Document) : e.order? d = (d.order? e).map Ordering.swap := by
  cases d <;> cases e <;> try rfl
  next a b => exact Binary64.order_swap _ _
  next s t =>
    have swapped : compare t s = (compare s t).swap := Std.OrientedCmp.eq_swap
    exact congrArg some swapped

/-- **The order is transitive.** Numbers and texts have no order between them, so all three
documents are of one kind. -/
theorem order?_trans (h : d.order? e = some .lt) (h' : e.order? f = some .lt) :
    d.order? f = some .lt := by
  obtain ⟨a, b, rfl, rfl, hab⟩ | ⟨s, t, rfl, rfl, hst⟩ := exists_of_order? h
  · obtain ⟨b, c, hb, rfl, hbc⟩ | ⟨s, t, hb, -⟩ := exists_of_order? h'
    · cases hb
      exact Binary64.order_trans hab hbc
    · cases hb
  · obtain ⟨b, c, ht, -⟩ | ⟨t', u, ht, rfl, htu⟩ := exists_of_order? h'
    · cases ht
    · cases ht
      have below : compare s u = .lt := Std.TransCmp.lt_trans hst htu
      exact congrArg some below

/-- **Documents in an order are equal exactly if it is that of equality.** For numbers both
sides compare places. For texts the order of characters leaves no two different texts at
one place. -/
theorem equal_iff_of_order? (h : d.order? e = some o) : d.equal e = true ↔ o = .eq := by
  obtain ⟨a, b, rfl, rfl, hab⟩ | ⟨s, t, rfl, rfl, rfl⟩ := exists_of_order? h
  · rw [equal, Binary64.eq, beq_iff_eq, hab, Option.some.injEq]
  · exact beq_iff_eq.trans Std.compare_eq_iff_eq.symm

/-! ## Equality of form -/

mutual

/-- It does not matter which of two documents is compared with the other. By recursion on
both. -/
theorem same_comm : (d e : Document) → d.same e = e.same d
  | .null, e => by cases e <;> rfl
  | .bool b, e => by
    cases e <;> try rfl
    exact Bool.beq_comm
  | .number n, e => by
    cases e <;> try rfl
    exact n.same_comm _
  | .text s, e => by
    cases e <;> try rfl
    exact Bool.beq_comm
  | .list ds, e => by
    cases e <;> try rfl
    exact sameList_comm ds _
  | .mapping fs, e => by
    cases e <;> try rfl
    exact sameFields_comm fs _

theorem sameList_comm : (ds es : List Document) → sameList ds es = sameList es ds
  | [], es => by cases es <;> rfl
  | d :: ds, es => by
    cases es with
    | nil => rfl
    | cons e es => rw [sameList, sameList, same_comm d e, sameList_comm ds es]

theorem sameFields_comm : (fs gs : Fields) → sameFields fs gs = sameFields gs fs
  | [], gs => by cases gs <;> rfl
  | (k, d) :: fs, gs => by
    cases gs with
    | nil => rfl
    | cons g gs => rw [sameFields, sameFields, same_comm d g.2, sameFields_comm fs gs,
        Bool.beq_comm (a := k)]

end

/-- Only a number is the same as a number. -/
theorem exists_of_number_same {n : Number} (h : same (.number n) e = true) :
    ∃ m, e = .number m ∧ n.same m = true := by
  cases e with
  | number m => exact ⟨m, rfl, h⟩
  | _ => cases h

/-- Only a text is the same as a text, and the two are one. -/
theorem eq_of_text_same {s : String} (h : same (.text s) e = true) : e = .text s := by
  cases e with
  | text t => rw [beq_iff_eq.mp h]
  | _ => cases h

mutual

/-- **What is the same as a third is the same.** Together with `same_comm` this makes an
equivalence of it, on all documents but those with a `nan` in them. -/
theorem same_trans : (d : Document) → {e f : Document} → d.same e = true → e.same f = true →
    d.same f = true
  | .null, e, f, h, h' => by
    cases e <;> cases f <;> first | rfl | contradiction
  | .bool b, e, f, h, h' => by
    cases e <;> cases f <;> try contradiction
    exact beq_iff_eq.mpr ((beq_iff_eq.mp h).trans (beq_iff_eq.mp h'))
  | .number n, e, f, h, h' => by
    cases e <;> cases f <;> try contradiction
    exact Number.same_trans h h'
  | .text s, e, f, h, h' => by
    cases e <;> cases f <;> try contradiction
    exact beq_iff_eq.mpr ((beq_iff_eq.mp h).trans (beq_iff_eq.mp h'))
  | .list ds, e, f, h, h' => by
    cases e <;> cases f <;> try contradiction
    exact sameList_trans ds h h'
  | .mapping fs, e, f, h, h' => by
    cases e <;> cases f <;> try contradiction
    exact sameFields_trans fs h h'

theorem sameList_trans : (ds : List Document) → {es fs : List Document} →
    sameList ds es = true → sameList es fs = true → sameList ds fs = true
  | [], es, fs, h, h' => by
    cases es <;> cases fs <;> first | rfl | contradiction
  | d :: ds, es, fs, h, h' => by
    cases es <;> cases fs <;> try contradiction
    obtain ⟨head, tail⟩ := Bool.and_eq_true_iff.mp h
    obtain ⟨head', tail'⟩ := Bool.and_eq_true_iff.mp h'
    exact Bool.and_eq_true_iff.mpr ⟨same_trans d head head', sameList_trans ds tail tail'⟩

theorem sameFields_trans : (fs : Fields) → {gs hs : Fields} →
    sameFields fs gs = true → sameFields gs hs = true → sameFields fs hs = true
  | [], gs, hs, h, h' => by
    cases gs <;> cases hs <;> first | rfl | contradiction
  | (k, d) :: fs, gs, hs, h, h' => by
    cases gs <;> cases hs <;> try contradiction
    simp only [sameFields, Bool.and_eq_true, beq_iff_eq] at h h' ⊢
    exact ⟨⟨h.1.1.trans h'.1.1, same_trans d h.1.2 h'.1.2⟩, sameFields_trans fs h.2 h'.2⟩

end

mutual

/-- **A document is the same as itself**, if its numbers are finite. The condition is there
for NaN alone. -/
theorem same_self : (d : Document) → d.isFinite = true → d.same d = true
  | .null, _ => rfl
  | .bool b, _ => beq_self_eq_true b
  | .number _, h => Number.same_self h
  | .text s, _ => beq_self_eq_true s
  | .list ds, h => sameList_self ds h
  | .mapping fs, h => sameFields_self fs h

theorem sameList_self : (ds : List Document) → isFiniteList ds = true → sameList ds ds = true
  | [], _ => rfl
  | d :: ds, h => by
    obtain ⟨head, tail⟩ := Bool.and_eq_true_iff.mp h
    exact Bool.and_eq_true_iff.mpr ⟨same_self d head, sameList_self ds tail⟩

theorem sameFields_self : (fs : Fields) → isFiniteFields fs = true → sameFields fs fs = true
  | [], _ => rfl
  | (k, d) :: fs, h => by
    obtain ⟨head, tail⟩ := Bool.and_eq_true_iff.mp h
    simp only [sameFields, beq_self_eq_true, same_self d head, sameFields_self fs tail,
      Bool.and_self]

end

/-! ## Equality -/

theorem equal_comm (d e : Document) : d.equal e = e.equal d := by
  cases d <;> cases e <;> try rfl
  · exact Bool.beq_comm
  · exact Binary64.eq_comm _ _
  · exact Bool.beq_comm
  · exact sameList_comm _ _
  · exact sameFields_comm _ _

/-- **Equality is that of form**, but for numbers. If one of the two is no number the other
may be anything. -/
theorem equal_eq_same (d : Document) (h : ∀ n, e ≠ .number n) : d.equal e = d.same e := by
  cases e with
  | number n => exact absurd rfl (h n)
  | _ => cases d <;> rfl

/-- Only a number equals a number. -/
theorem exists_of_equal_number {n : Number} (h : d.equal (.number n) = true) :
    ∃ m, d = .number m := by
  cases d with
  | number m => exact ⟨m, rfl⟩
  | _ => cases h

/-- What is the same is equal. -/
theorem equal_of_same (h : d.same e = true) : d.equal e = true := by
  cases d <;> cases e <;> first | exact h | exact Number.eq_of_same h

/-- Numbers are equal by value, whatever their form, and nothing else equals a number. So
the comparison is transitive. -/
theorem equal_trans (h : d.equal e = true) (h' : e.equal f = true) : d.equal f = true := by
  by_cases number : ∃ n, e = .number n
  · obtain ⟨n, rfl⟩ := number
    -- only numbers equal a number
    cases d <;> cases f <;> try contradiction
    exact Binary64.eq_trans h h'
  · have other : ∀ n, e ≠ .number n := fun n hn => number ⟨n, hn⟩
    rw [equal_eq_same d other] at h
    rw [equal_comm, equal_eq_same f other, same_comm] at h'
    exact equal_of_same (same_trans d h h')

theorem equal_self (h : d.isFinite = true) : d.equal d = true :=
  equal_of_same (same_self d h)

end Document

end CaseRunner
