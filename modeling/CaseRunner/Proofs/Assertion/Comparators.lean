import CaseRunner.Assertion.Comparison
import CaseRunner.Proofs.Computation
import CaseRunner.Proofs.Document.Ordering

/-!
# Comparators that fit together

What a path finds is compared as a number wherever it is one or is the text of one, and
otherwise as it is. Equality and order do this in ways of their own: two values are equal
if either way says so, and their order is that of the numbers unless there is none. The two
agree all the same. Texts that are equal are the texts of one number, and texts of which
one is no number are equal only if they are the same. So wherever two values have an order,
it is the order `eq` exactly if they are equal (`looseEqual_iff_of_order`), and the five
comparators are those of one order (`compare_fits`).

Equality is an equivalence relation: what equals a number as a number, or is the text of
one, has one value, and anything else equals only what has its form
(`looseEqual_iff`).
-/

namespace CaseRunner.Comparator

variable {d e f : Document} {o : Ordering}

/-- **The comparator holds of two values.** Comparing may also fail, where two values have
no order, and then the comparator does not hold. So not to hold is not the same as that the
opposite holds. -/
def Holds (c : Comparator) (actual expected : Document) : Prop :=
  c.compare actual expected = .ok true

/-! ## Equality -/

/-- **Two values are one number**, each given as such or as text. Blanks around the text
are left out when it is read, and all ways to write a number count. -/
def OneNumber (d e : Document) : Prop :=
  ∃ x y, asNumber? d = some x ∧ asNumber? e = some y ∧ x.eq y = true

theorem OneNumber.symm (h : OneNumber d e) : OneNumber e d := by
  obtain ⟨x, y, hx, hy, equal⟩ := h
  exact ⟨y, x, hy, hx, Binary64.eq_comm x y ▸ equal⟩

theorem OneNumber.trans (h : OneNumber d e) (h' : OneNumber e f) : OneNumber d f := by
  obtain ⟨x, y, hx, hy, equal⟩ := h
  obtain ⟨y', z, hy', hz, equal'⟩ := h'
  obtain rfl := Option.some.inj (hy.symm.trans hy')
  exact ⟨x, z, hx, hz, Binary64.eq_trans equal equal'⟩

/-- What is a number, or may be read as one, is a number or a text. -/
theorem exists_of_asNumber? {x : Binary64} (h : asNumber? d = some x) :
    (∃ n, d = .number n ∧ n.toBinary64 = x) ∨ ∃ s, d = .text s := by
  cases d with
  | number n => exact .inl ⟨n, rfl, Option.some.inj h⟩
  | text s => exact .inr ⟨s, rfl⟩
  | _ => cases h

/-- What is the same as a number or the text of one is this number. -/
theorem OneNumber.of_same (h : OneNumber d e) (same : e.same f = true) : OneNumber d f := by
  obtain ⟨x, y, hx, hy, equal⟩ := h
  obtain ⟨n, rfl, rfl⟩ | ⟨s, rfl⟩ := exists_of_asNumber? hy
  · obtain ⟨m, rfl, forms⟩ := Document.exists_of_number_same same
    exact ⟨x, _, hx, rfl, Binary64.eq_trans equal (Number.eq_of_same forms)⟩
  · rw [Document.eq_of_text_same same]
    exact ⟨x, y, hx, hy, equal⟩

theorem looseEqual_iff_equal : looseEqual d e = true ↔ d.equal e = true ∨ OneNumber d e := by
  unfold looseEqual OneNumber
  cases asNumber? d <;> cases asNumber? e <;> simp

/-- **What equality is**: to be one number, or to be the same. The first of the two is an
equality of values, the second one of forms, and that they may be joined without losing
transitivity is the point: what is one number with something stays so if either of the two
is replaced by what is the same. -/
theorem looseEqual_iff : looseEqual d e = true ↔ OneNumber d e ∨ d.same e = true := by
  rw [looseEqual_iff_equal]
  constructor
  · rintro (equal | number)
    · by_cases number : ∃ n, e = .number n
      · obtain ⟨n, rfl⟩ := number
        obtain ⟨m, rfl⟩ := Document.exists_of_equal_number equal
        exact .inl ⟨_, _, rfl, rfl, equal⟩
      · exact .inr (Document.equal_eq_same d (fun n hn => number ⟨n, hn⟩) ▸ equal)
    · exact .inl number
  · exact fun h => h.symm.imp_left Document.equal_of_same

theorem looseEqual_symm (h : looseEqual d e = true) : looseEqual e d = true := by
  rw [looseEqual_iff] at h ⊢
  exact h.imp OneNumber.symm fun same => Document.same_comm d e ▸ same

theorem looseEqual_trans (h : looseEqual d e = true) (h' : looseEqual e f = true) :
    looseEqual d f = true := by
  rw [looseEqual_iff] at h h' ⊢
  rcases h with number | same
  · rcases h' with number' | same'
    · exact .inl (number.trans number')
    · exact .inl (number.of_same same')
  · rcases h' with number' | same'
    · exact .inl (number'.symm.of_same (Document.same_comm d e ▸ same)).symm
    · exact .inr (Document.same_trans d same same')

theorem looseEqual_self (h : d.isFinite = true) : looseEqual d d = true :=
  looseEqual_iff.mpr (.inr (Document.same_self d h))

/-! ## Order -/

theorem order_eq_ok_iff :
    order d e = .ok o ↔ (numberOrder? d e).or (d.order? e) = some o := by
  unfold order
  cases (numberOrder? d e).or (d.order? e) <;> simp

/-- Numbers are in an order if each is one and the numbers are. -/
theorem numberOrder?_eq_some_iff : numberOrder? d e = some o
    ↔ ∃ x y, asNumber? d = some x ∧ asNumber? e = some y ∧ x.order y = some o := by
  unfold numberOrder?
  cases asNumber? d <;> cases asNumber? e <;> simp

/-- One number is the same as having the order of equality as numbers. -/
theorem oneNumber_iff : OneNumber d e ↔ numberOrder? d e = some .eq := by
  rw [numberOrder?_eq_some_iff]
  unfold OneNumber Binary64.eq
  simp only [beq_iff_eq]

/-- **Where two values have an order, they are equal exactly if it is that of equality.**
Two texts that are both numbers are ordered as numbers, although as texts they have an
order too, and `1` and `1.0` show that this may be another one. -/
theorem looseEqual_iff_of_order (h : order d e = .ok o) : looseEqual d e = true ↔ o = .eq := by
  rcases Option.or_eq_some_iff.mp (order_eq_ok_iff.mp h) with number | ⟨none, form⟩
  · rw [looseEqual_iff, oneNumber_iff, number, Option.some.injEq]
    refine or_iff_left_of_imp fun same => ?_
    -- what is in an order with something is a number, and so one with what is the same
    obtain ⟨x, y, hx, -, hxy⟩ := numberOrder?_eq_some_iff.mp number
    obtain ⟨place, -, hplace, -⟩ := Binary64.order_eq_some_iff.mp hxy
    have self : OneNumber d d := ⟨x, x, hx, hx, Binary64.eq_iff.mpr ⟨place, hplace, hplace⟩⟩
    have one := oneNumber_iff.mp (self.of_same same)
    exact Option.some.inj (number.symm.trans one)
  · rw [looseEqual_iff_equal, oneNumber_iff, none, Document.equal_iff_of_order? form]
    exact or_iff_left nofun

/-! ## Comparators -/

/-- A comparator of order holds where its test of the order does. -/
theorem holds_of_order (h : order d e = .ok o) :
    (Holds .lt d e ↔ o = .lt) ∧ (Holds .eq d e ↔ o = .eq) ∧ (Holds .gt d e ↔ o = .gt)
      ∧ (Holds .le d e ↔ o ≠ .gt) ∧ (Holds .ge d e ↔ o ≠ .lt) := by
  have equal : Holds .eq d e ↔ o = .eq := by
    rw [Holds, compare, Except.ok.injEq, looseEqual_iff_of_order h]
  have tested : ∀ test : Ordering → Bool,
      (order d e).map test = .ok true ↔ test o = true := fun test => by
    rw [h]
    exact ⟨Except.ok.inj, congrArg Except.ok⟩
  refine ⟨(tested _).trans ?_, equal, (tested _).trans ?_, (tested _).trans ?_,
    (tested _).trans ?_⟩ <;> cases o <;> decide

/-- **The comparators fit together.** If two values can be ordered, they are so by all
comparators of order, and less, equal and greater, less or equal, and greater or equal are
those of one order. Not equal is the opposite of equal for all values, and equality is an
equivalence relation.

The equivalence is on documents with finite numbers, which are all that can be read. In the
first part nothing is assumed of the values, so that it holds of texts such as `nan` as
well: they are read as a number which has no order, and it is as texts that they are
ordered, if the other value is one. -/
theorem compare_fits :
    (∀ d e : Document, (∃ b, Comparator.lt.compare d e = .ok b) →
      (∀ c ∈ [Comparator.le, .gt, .ge], ∃ b, c.compare d e = .ok b)
        ∧ Trichotomy (Holds .lt d e) (Holds .eq d e) (Holds .gt d e) (Holds .le d e)
          (Holds .ge d e))
      ∧ (∀ d e : Document, ∃ b, Comparator.eq.compare d e = .ok b
        ∧ Comparator.notEq.compare d e = .ok (!b))
      ∧ Equivalence fun d e : {d : Document // d.isFinite = true} => Holds .eq d.1 e.1 := by
  refine ⟨fun d e ⟨b, hb⟩ => ?_, fun d e => ⟨looseEqual d e, rfl, rfl⟩, ?_, ?_, ?_⟩
  · obtain ⟨o, ho, -⟩ := map_eq_ok_iff.mp hb
    obtain ⟨lt, eq, gt, le, ge⟩ := holds_of_order ho
    refine ⟨fun c hc => ?_, .of_ordering o lt eq gt le ge⟩
    simp only [List.mem_cons, List.not_mem_nil, or_false] at hc
    rcases hc with rfl | rfl | rfl <;> rw [compare, ho] <;> exact ⟨_, rfl⟩
  · exact fun d => congrArg Except.ok (looseEqual_self d.2)
  · exact fun h => congrArg Except.ok (looseEqual_symm (Except.ok.inj h))
  · exact fun h h' => congrArg Except.ok (looseEqual_trans (Except.ok.inj h) (Except.ok.inj h'))

/-- A text that is a number, compared with a number, and numbers that are given in three
ways. -/
theorem compare_fits_of_texts :
    let ten : Document := .text " 10 "
    (∃ b, Comparator.lt.compare ten (.int 9) = .ok b)
      ∧ Trichotomy (Holds .lt ten (.int 9)) (Holds .eq ten (.int 9)) (Holds .gt ten (.int 9))
        (Holds .le ten (.int 9)) (Holds .ge ten (.int 9))
      ∧ Holds .eq (.text "1.0") (.int 1) ∧ Holds .eq (.int 1) (.text "+1")
      ∧ Holds .eq (.text "1.0") (.text "+1") := by
  intro ten
  have ordered : order ten (.int 9) = .ok .gt := order_eq_ok_iff.mpr (by decide +kernel)
  have applies : ∃ b, Comparator.lt.compare ten (.int 9) = .ok b :=
    ⟨false, by rw [compare, ordered]; rfl⟩
  have first : Holds .eq (.text "1.0") (.int 1) := congrArg Except.ok (by decide +kernel)
  have second : Holds .eq (.int 1) (.text "+1") := congrArg Except.ok (by decide +kernel)
  obtain ⟨trichotomy, -, -, -, trans⟩ := compare_fits
  let one : {d : Document // d.isFinite = true} := ⟨.int 1, rfl⟩
  let point : {d : Document // d.isFinite = true} := ⟨.text "1.0", rfl⟩
  let signed : {d : Document // d.isFinite = true} := ⟨.text "+1", rfl⟩
  have third : Holds .eq point.1 signed.1 := trans (y := one) first second
  exact ⟨applies, (trichotomy _ _ applies).2, first, second, third⟩

end CaseRunner.Comparator
