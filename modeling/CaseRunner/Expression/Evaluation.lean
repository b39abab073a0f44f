import CaseRunner.Document.Compare
import CaseRunner.Expression.Grammar
import CaseRunner.Text.LetterCase

/-!
# Evaluating assertions and conditions

An accessor walks into the tree of the answer key by key and ends at null where
it finds nothing. A comparison of values is true, false, or a mismatch when its
operator does not apply to them; a mismatch counts as a failed assertion.
-/

namespace CaseRunner.Expression

/-- The part of a value under a key: a member of a mapping, its name first taken
exactly and then up to the case of ASCII letters; an item of a list, from the
end if the index is negative; otherwise null. -/
def lookUp (value key : Document) : Document :=
  match value, key with
  | .mapping fields, .text name =>
    ((Document.field? name fields).or
      ((fields.find? fun f => Text.eqIgnoringAsciiCase f.1 name).map (·.2))).getD .null
  | .mapping fields, .number n => (Document.field? n.render fields).getD .null
  | .list items, .number n =>
    match n.int? with
    | some i =>
      let i := if i < 0 then items.length + i else i
      if i < 0 then .null else items[i.toNat]?.getD .null
    | none => .null
  | _, _ => .null

/-- An operand once the answer is known: a value or a type. -/
inductive Resolved where
  | value (d : Document)
  | typed (t : TypeTest)

/-- The operand as seen with the answer. -/
def Operand.resolve (answer : Document) : Operand → Resolved
  | .literal d => .value d
  | .typed t => .typed t
  | .accessor keys => .value (keys.foldl lookUp answer)

/-- Compares two values; nothing if the operator does not apply to them. -/
def Operator.apply? (op : Operator) (left right : Document) : Option Bool :=
  match op with
  | .sign .eq => some (left.equal right)
  | .sign .ne => some (!left.equal right)
  | .sign .gt => (left.order? right).map (· == .gt)
  | .sign .lt => (left.order? right).map (· == .lt)
  | .sign .ge => (left.order? right).map (· != .lt)
  | .sign .le => (left.order? right).map (· != .gt)
  | .isIn => right.holds? left
  | .notIn => (right.holds? left).map (!·)

/-- The truth of a comparison about an answer. -/
def Comparison.evaluate (c : Comparison) (answer : Document) (source : String) :
    Except RunError Bool :=
  let typed (t : TypeTest) (d : Document) : Bool :=
    if c.op = .sign .ne then !t.accepts d else t.accepts d
  match c.left.resolve answer, c.right.resolve answer with
  | .typed t, .value d => .ok (typed t d)
  | .value d, .typed t => .ok (typed t d)
  | .typed _, .typed _ => .error (SyntaxFault.typePair.error source)
  | .value l, .value r =>
    match c.op.apply? l r with
    | some b => .ok b
    | none => .error (.assertion ("'" ++ source ++ "': cannot apply '" ++
        c.op.spelling ++ "' to " ++ l.render ++ " and " ++ r.render))

/-- Does a value count as true? -/
def isTruthy : Document → Bool
  | .bool b => b
  | .null => false
  | .number n => !n.toBinary64.eq (.zero false)
  | .text s => !s.isEmpty
  | .list items => !items.isEmpty
  | .mapping fields => !fields.isEmpty

/-- The truth of a condition. -/
def Condition.evaluate (c : Condition) (source : String) : Except RunError Bool :=
  match c with
  | .literal d => .ok (isTruthy d)
  | .comparison c => c.evaluate .null source

/-- The truth of the condition that a text is. -/
def evaluateCondition (source : String) : Except RunError Bool := do
  (← parseCondition source).evaluate source

/-- Checks an assertion about an answer. -/
def Assertion.check (a : Assertion) (answer : Document) : Except RunError Unit := do
  if ← a.comparison.evaluate answer a.source then return ()
  else throw (.assertion (a.note.getD ("'" ++ a.source ++ "' evaluated to false")))

end CaseRunner.Expression
