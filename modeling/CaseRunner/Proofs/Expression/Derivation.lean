import CaseRunner.Expression.Grammar
import Mathlib.Data.Bool.Basic

/-!
# What the grammar derives

The grammar of assertions and conditions as relations between a list of words and the tree
that it stands for: one relation for each of its rules, one constructor for each way to
write what the rule is about. Nothing in them says how words are read.

The grammar does not say which operands go together: an assertion is about one part of the
answer (`Comparison.Asks`), and a type is compared by equality only
(`Comparison.TypesFit`). These two are conditions on the tree, and in the readers they are
checks of what was read.

A reader has no other specification than this. It decides from the front, with a fuel and
with an error for each thing that is missing, and whether it accepts too much or too little
cannot be seen from itself.
-/

namespace CaseRunner.Expression

/-! ## The rules -/

/-- The names that are literals, with what they stand for. -/
inductive Constant : String → Document → Prop
  | upperTrue : Constant "True" (.bool true)
  | lowerTrue : Constant "true" (.bool true)
  | upperFalse : Constant "False" (.bool false)
  | lowerFalse : Constant "false" (.bool false)
  | none : Constant "None" .null
  | null : Constant "null" .null

mutual

/-- **The words of a literal.** The words are the whole literal and nothing but it; what
may follow belongs to other rules. So the words of a list are those between its brackets,
and what ends a literal is never a part of the statement. -/
inductive LiteralOf : List Token → Document → Prop
  | text (s : String) : LiteralOf [.text s] (.text s)
  | number (n : Number) : LiteralOf [.number n] (.number n)
  | constant {s : String} {d : Document} (h : Constant s d) : LiteralOf [.name s] d
  | empty : LiteralOf [.openBracket, .closeBracket] (.list [])
  | list {ts : List Token} {ds : List Document} (items : ItemsOf ts ds) :
      LiteralOf (.openBracket :: (ts ++ [.closeBracket])) (.list ds)

/-- The words of the items of a list, of which there is at least one: literals
with commas between them. -/
inductive ItemsOf : List Token → List Document → Prop
  | last {ts : List Token} {d : Document} (item : LiteralOf ts d) : ItemsOf ts [d]
  | cons {ts us : List Token} {d : Document} {ds : List Document}
      (item : LiteralOf ts d) (rest : ItemsOf us ds) :
      ItemsOf (ts ++ .comma :: us) (d :: ds)

end

/-- The words of `get` calls, each with a literal. -/
inductive CallsOf : List Token → List Document → Prop
  | nil : CallsOf [] []
  | cons {ts us : List Token} {key : Document} {keys : List Document}
      (literal : LiteralOf ts key) (rest : CallsOf us keys) :
      CallsOf (.dot :: .name "get" :: .openParen :: (ts ++ .closeParen :: us))
        (key :: keys)

/-- **The words of an operand**: a literal, an accessor with one or more calls, or the name
of a type. That an accessor has a call is the only condition here that is not one of form:
without it `pm.response` alone would be an operand. -/
inductive OperandOf : List Token → Operand → Prop
  | literal {ts : List Token} {d : Document} (h : LiteralOf ts d) :
      OperandOf ts (.literal d)
  | accessor {ts : List Token} {keys : List Document} (calls : CallsOf ts keys)
      (some : keys ≠ []) :
      OperandOf (.name "pm" :: .dot :: .name "response" :: ts) (.accessor keys)
  | typed (t : TypeTest) : OperandOf [.name t.spelling] (.typed t)

/-- The words of an operator, of which `not in` has two. -/
inductive OperatorOf : List Token → Operator → Prop
  | sign (s : Sign) : OperatorOf [.sign s] (.sign s)
  | isIn : OperatorOf [.name "in"] .isIn
  | notIn : OperatorOf [.name "not", .name "in"] .notIn

/-- The words of a comparison. -/
inductive ComparisonOf : List Token → Comparison → Prop
  | mk {ts us vs : List Token} {left right : Operand} {op : Operator}
      (first : OperandOf ts left) (middle : OperatorOf us op)
      (last : OperandOf vs right) : ComparisonOf (ts ++ (us ++ vs)) ⟨left, op, right⟩

/-- The words of a message, if there is one. -/
inductive NoteOf : List Token → Option String → Prop
  | none : NoteOf [] none
  | some (s : String) : NoteOf [.comma, .text s] (some s)

/-- **The words of an assertion** and its message. -/
inductive AssertionOf : List Token → Comparison → Option String → Prop
  | mk {ts us : List Token} {c : Comparison} {note : Option String}
      (comparison : ComparisonOf ts c) (message : NoteOf us note) :
      AssertionOf (.name "assert" :: (ts ++ us)) c note

/-- **The words of a condition.** A condition has no message and no word in front of it,
and it may be a single literal, whose truth decides. -/
inductive ConditionOf : List Token → Condition → Prop
  | literal {ts : List Token} {d : Document} (h : LiteralOf ts d) :
      ConditionOf ts (.literal d)
  | comparison {ts : List Token} {c : Comparison} (h : ComparisonOf ts c) :
      ConditionOf ts (.comparison c)

/-! ## Operands that fit together -/

namespace Comparison

/-- The operands of a comparison. -/
def operands (c : Comparison) : List Operand := [c.left, c.right]

/-- So many operands are parts of the answer. -/
def Asks (c : Comparison) (n : Nat) : Prop := c.operands.countP (·.isAccessor) = n

/-- **The rule for types**: there is at most one, and it is compared by equality only.
Whether a value is of a type is what equality with the type means, and there is nothing
that it could mean for a type to be less than a value. -/
structure TypesFit (c : Comparison) : Prop where
  /-- At most one operand is a type. -/
  once : c.operands.countP (·.isTyped) ≤ 1
  /-- What is compared with a type is so by equality. -/
  equality : (∃ o ∈ c.operands, o.isTyped = true) → c.op = .sign .eq ∨ c.op = .sign .ne

variable {c : Comparison}

theorem asks_one_iff : c.Asks 1 ↔ c.left.isAccessor ≠ c.right.isAccessor := by
  unfold Asks operands
  cases hl : c.left.isAccessor <;> cases hr : c.right.isAccessor <;> simp [hl, hr]

theorem asks_zero_iff : c.Asks 0 ↔ (c.left.isAccessor || c.right.isAccessor) = false := by
  unfold Asks operands
  cases hl : c.left.isAccessor <;> cases hr : c.right.isAccessor <;> simp [hl, hr]

/-- The check of types accepts what fits. -/
theorem checkTypes_eq_ok_iff : c.checkTypes = .ok () ↔ c.TypesFit := by
  have fits : c.TypesFit ↔ ¬ (c.left.isTyped = true ∧ c.right.isTyped = true)
      ∧ (c.left.isTyped = true ∨ c.right.isTyped = true →
        c.op = .sign .eq ∨ c.op = .sign .ne) := by
    constructor
    · rintro ⟨once, equality⟩
      refine ⟨fun ⟨hl, hr⟩ => ?_, fun h => equality ?_⟩
      · simp [operands, hl, hr] at once
      · simpa [operands] using h
    · rintro ⟨once, equality⟩
      refine ⟨?_, fun h => equality (by simpa [operands] using h)⟩
      cases hl : c.left.isTyped <;> cases hr : c.right.isTyped <;>
        simp_all [operands]
  rw [fits]
  unfold checkTypes
  split
  next pair => simp_all
  next pair =>
    split
    next ordered => simp_all
    next ordered => grind

end Comparison

end CaseRunner.Expression
