import CaseRunner.Expression.Evaluation
import CaseRunner.Proofs.Document.Ordering

/-!
# Comparisons the other way round

What is expected may stand before or behind the part of the answer that it is compared
with. The sign is turned round with the operands (`Sign.mirror`), and then both ways of
writing a comparison come to the same: to the same truth value, or to a mismatch of the
same two values (`evaluate_mirror`).

This rests on the order of documents being one: what is said of two values by the six signs
is read off their order, if they have one, and equality agrees with it (`Trichotomy`).
Types are tested on one side only, so that nothing turns round there.

The readers do not turn anything round. Both ways of writing are evaluated as they stand,
by going through the same cases, so that it is not clear from the start that they agree.
-/

namespace CaseRunner.Expression

/-- **The sign as it reads from right to left.** Equality and its opposite read the same
from both sides. -/
def Sign.mirror : Sign → Sign
  | .eq => .eq
  | .ne => .ne
  | .gt => .lt
  | .lt => .gt
  | .ge => .le
  | .le => .ge

/-- The error of a sign that does not apply to two values. -/
def Sign.mismatch (s : Sign) (source : String) (x y : Document) : RunError :=
  .assertion ("'" ++ source ++ "': cannot apply '" ++ s.spelling ++ "' to " ++ x.render ++
    " and " ++ y.render)

/-- **A comparison and its mirror image have the same outcome**: the same truth value, or
each the mismatch of the two values in its order. The messages differ, as each quotes its
own text and names the values as they stand there. -/
inductive SameOutcome (s : Sign) (source source' : String) :
    Except RunError Bool → Except RunError Bool → Prop
  | truth (b : Bool) : SameOutcome s source source' (.ok b) (.ok b)
  | mismatch (x y : Document) : SameOutcome s source source'
      (.error (s.mismatch source x y)) (.error (s.mirror.mismatch source' y x))

section Values

variable {s : Sign} {x y : Document} {l r : Operand} {answer : Document} {source : String}

/-- **The sign holds of two values**: so says every comparison of operands with these
values. It does not matter where the values come from, which may be the answer or the text
of the assertion. -/
def Sign.Holds (s : Sign) (x y : Document) : Prop :=
  ∀ l r answer source, Operand.resolve answer l = .value x → Operand.resolve answer r = .value y →
    Comparison.evaluate ⟨l, .sign s, r⟩ answer source = .ok true

/-- **The sign does not apply to two values**: every comparison of operands with these
values is a mismatch. -/
def Sign.Mismatches (s : Sign) (x y : Document) : Prop :=
  ∀ l r answer source, Operand.resolve answer l = .value x → Operand.resolve answer r = .value y →
    Comparison.evaluate ⟨l, .sign s, r⟩ answer source = .error (s.mismatch source x y)

/-- What a comparison says depends on the values of its operands alone. -/
theorem evaluate_values (hl : l.resolve answer = .value x) (hr : r.resolve answer = .value y) :
    Comparison.evaluate ⟨l, .sign s, r⟩ answer source
      = match Operator.apply? (.sign s) x y with
        | some b => .ok b
        | none => .error (s.mismatch source x y) := by
  simp only [Comparison.evaluate, hl, hr]
  rfl

/-- A sign holds of two values if the operator of the same name gives so. -/
theorem Sign.holds_iff : s.Holds x y ↔ Operator.apply? (.sign s) x y = some true := by
  constructor
  · intro h
    have literal := h (.literal x) (.literal y) .null "" rfl rfl
    rw [evaluate_values (x := x) (y := y) rfl rfl] at literal
    split at literal
    next b applied => rw [applied, Except.ok.inj literal]
    next => cases literal
  · intro h l r answer source hl hr
    rw [evaluate_values hl hr, h]

/-- A sign does not apply to two values if its operator gives nothing. -/
theorem Sign.mismatches_iff : s.Mismatches x y ↔ Operator.apply? (.sign s) x y = none := by
  constructor
  · intro h
    have literal := h (.literal x) (.literal y) .null "" rfl rfl
    rw [evaluate_values (x := x) (y := y) rfl rfl] at literal
    split at literal
    next => cases literal
    next none => exact none
  · intro h l r answer source hl hr
    rw [evaluate_values hl hr, h]

end Values

/-! ## Signs and the order -/

/-- **The mirror image of a sign says the same of the values in the other order.** It also
applies exactly if the sign does, since this is an equation between what the two give, or
do not give. -/
theorem applied_mirror (s : Sign) (x y : Document) :
    Operator.apply? (.sign s.mirror) y x = Operator.apply? (.sign s) x y := by
  cases s <;> simp only [Sign.mirror, Operator.apply?]
  case eq => rw [Document.equal_comm]
  case ne => rw [Document.equal_comm]
  all_goals
    rw [Document.order?_swap x y, Option.map_map]
    congr 1
    funext o
    cases o <;> rfl

/-- **A sign of order applies exactly where there is one.** -/
theorem Sign.mismatches_iff_order? {s : Sign} {x y : Document}
    (h : s ∈ [Sign.lt, .gt, .le, .ge]) : s.Mismatches x y ↔ x.order? y = none := by
  rw [mismatches_iff]
  simp only [List.mem_cons, List.not_mem_nil, or_false] at h
  rcases h with rfl | rfl | rfl | rfl <;> exact Option.map_eq_none_iff

theorem Sign.lt_holds_iff {x y : Document} : Sign.lt.Holds x y ↔ x.order? y = some .lt := by
  rw [holds_iff, Operator.apply?, Option.map_eq_some_iff]
  simp

/-- **Where two values have an order, the signs are those of a linear order.** Each sign is
a test of the order, and equality, which is not asked of the order but of the values,
agrees with it. -/
theorem trichotomy_of_order? {x y : Document} {o : Ordering} (h : x.order? y = some o) :
    Trichotomy (Sign.lt.Holds x y) (Sign.eq.Holds x y) (Sign.gt.Holds x y) (Sign.le.Holds x y)
      (Sign.ge.Holds x y) := by
  refine .of_ordering o ?_ ?_ ?_ ?_ ?_
  case refine_2 =>
    rw [Sign.holds_iff, Operator.apply?, Option.some.injEq, Document.equal_iff_of_order? h]
  all_goals
    rw [Sign.holds_iff, Operator.apply?, h]
    cases o <;> simp

/-! ## Comparisons with a part of the answer -/

/-- **A comparison with a part of the answer and its mirror image have the same outcome.**
The truth values are equal. The mismatches cannot be, for the message tells the values in
the order in which they stand. -/
theorem sameOutcome_mirror (e : Operand) (keys : List Document) (s : Sign) (answer : Document)
    (source source' : String) :
    SameOutcome s source source' (Comparison.evaluate ⟨e, .sign s, .accessor keys⟩ answer source)
      (Comparison.evaluate ⟨.accessor keys, .sign s.mirror, e⟩ answer source') := by
  have part : (Operand.accessor keys).resolve answer = .value (keys.foldl lookUp answer) := rfl
  cases he : e.resolve answer with
  | typed t =>
    -- whether the test is turned into its opposite is the same for both signs
    have turned : (Operator.sign s.mirror = .sign .ne) ↔ (Operator.sign s = .sign .ne) := by
      cases s <;> simp [Sign.mirror]
    simp only [Comparison.evaluate, he, part, turned]
    exact .truth _
  | value x =>
    rw [evaluate_values he part, evaluate_values part he, applied_mirror]
    cases Operator.apply? (.sign s) x (keys.foldl lookUp answer) with
    | some b => exact .truth b
    | none => exact .mismatch _ _

/-- **The inverse form of an assertion means the same**, whatever is expected: a value or a
type. And the signs are those of one order: they apply to the same values but for the two
that say whether values are equal, and where they do exactly one of less, equal and greater
holds, the others are put together of these, and what is less than something is less than
what that is less than.

The second part is needed for the first to be worth something. Signs that never applied
would be mirrored as well. -/
theorem evaluate_mirror :
    (∀ (e : Operand) (keys : List Document) (s : Sign) (answer : Document)
      (source source' : String), SameOutcome s source source'
        (Comparison.evaluate ⟨e, .sign s, .accessor keys⟩ answer source)
        (Comparison.evaluate ⟨.accessor keys, .sign s.mirror, e⟩ answer source'))
      ∧ (∀ x y : Document, (∀ s ∈ [Sign.gt, .le, .ge], Sign.lt.Mismatches x y ↔ s.Mismatches x y)
        ∧ (¬ Sign.lt.Mismatches x y → Trichotomy (Sign.lt.Holds x y) (Sign.eq.Holds x y)
          (Sign.gt.Holds x y) (Sign.le.Holds x y) (Sign.ge.Holds x y)))
      ∧ ∀ x y z : Document, Sign.lt.Holds x y → Sign.lt.Holds y z → Sign.lt.Holds x z := by
  refine ⟨sameOutcome_mirror, fun x y => ⟨fun s hs => ?_, fun applies => ?_⟩, fun x y z h h' => ?_⟩
  · rw [Sign.mismatches_iff_order? List.mem_cons_self,
      Sign.mismatches_iff_order? (List.mem_cons_of_mem _ hs)]
  · rw [Sign.mismatches_iff_order? List.mem_cons_self] at applies
    obtain ⟨o, ho⟩ := Option.ne_none_iff_exists'.mp applies
    exact trichotomy_of_order? ho
  · rw [Sign.lt_holds_iff] at h h' ⊢
    exact Document.order?_trans h h'

/-- Three numbers, of which two are whole and the one between them is not. -/
theorem evaluate_mirror_of_numbers :
    let half : Document := .number (.float (.ofDecimal false 15 (-1)))
    Sign.lt.Holds (.int 1) half ∧ Sign.lt.Holds half (.int 2) ∧ Sign.lt.Holds (.int 1) (.int 2)
      ∧ ¬ Sign.lt.Mismatches (.int 1) half
      ∧ Trichotomy (Sign.lt.Holds (.int 1) half) (Sign.eq.Holds (.int 1) half)
        (Sign.gt.Holds (.int 1) half) (Sign.le.Holds (.int 1) half)
        (Sign.ge.Holds (.int 1) half) := by
  intro half
  have low : Sign.lt.Holds (.int 1) half := Sign.lt_holds_iff.mpr (by decide +kernel)
  have high : Sign.lt.Holds half (.int 2) := Sign.lt_holds_iff.mpr (by decide +kernel)
  have applies : ¬ Sign.lt.Mismatches (.int 1) half := by
    rw [Sign.mismatches_iff_order? List.mem_cons_self]
    decide +kernel
  obtain ⟨-, trichotomy, trans⟩ := evaluate_mirror
  exact ⟨low, high, trans _ _ _ low high, applies, (trichotomy _ _).2 applies⟩

end CaseRunner.Expression
