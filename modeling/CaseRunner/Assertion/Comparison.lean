import CaseRunner.Case.Vocabulary
import CaseRunner.Decimal.Reading
import CaseRunner.Document.Compare
import CaseRunner.Error
import CaseRunner.Text.Blank

/-!
# Comparators

The value that a path found is compared with the value expected. Texts that are
numbers compare as numbers, because placeholders turn numbers into texts.
Lengths count characters, items or members. A comparator that does not apply to
its two values is a failed assertion that says so.
-/

namespace CaseRunner.Comparator

/-- The number that a document is, or the text of which it is. -/
def asNumber? : Document → Option Binary64
  | .number n => some n.toBinary64
  | .text s => Decimal.ofText? (Text.trimmed s)
  | _ => none

/-- Equality, also between numbers and texts of numbers. -/
def looseEqual (actual expected : Document) : Bool :=
  actual.equal expected ||
    match asNumber? actual, asNumber? expected with
    | some a, some b => a.eq b
    | _, _ => false

/-- The order of two numbers, given as such or as texts. -/
def numberOrder? (actual expected : Document) : Option Ordering := do
  let a ← asNumber? actual
  let b ← asNumber? expected
  a.order b

/-- The order of two values: as numbers if they can be ordered so, otherwise as
values of one kind. -/
def order (actual expected : Document) : Except RunError Ordering :=
  match (numberOrder? actual expected).or (actual.order? expected) with
  | some o => .ok o
  | none => .error (.assertion ("cannot order " ++ actual.render ++ " against " ++
      expected.render))

/-- The length of a value. -/
def length : Document → Except RunError Nat
  | .text s => .ok s.length
  | .list items => .ok items.length
  | .mapping fields => .ok fields.length
  | d => .error (.assertion (d.render ++ " has no length"))

/-- The length that is expected: a number says it, anything else is measured. -/
def threshold : Document → Except RunError Nat
  | .number n =>
    match n.nat? with
    | some k => .ok k
    | none => .error (.assertion (n.render ++ " is not a valid length"))
  | d => length d

/-- Compares lengths. -/
def compareLengths (test : Nat → Nat → Bool) (actual expected : Document) :
    Except RunError Bool := do
  let a ← length actual
  let b ← threshold expected
  return test a b

/-- Is the value expected part of the one found? In a text, texts are looked for. -/
def holds (actual expected : Document) : Except RunError Bool :=
  let needle : Document :=
    match actual with
    | .text _ => .text expected.display
    | _ => expected
  match actual.holds? needle with
  | some b => .ok b
  | none => .error (.assertion ("cannot check whether " ++ actual.render ++ " contains " ++
      expected.render))

/-- The texts of two values, compared. -/
def compareTexts (test : List Char → List Char → Bool) (actual expected : Document) : Bool :=
  test actual.display.toList expected.display.toList

/-- Does the comparison hold? -/
def compare (c : Comparator) (actual expected : Document) : Except RunError Bool :=
  match c with
  | .eq => .ok (looseEqual actual expected)
  | .notEq => .ok (!looseEqual actual expected)
  | .gt => (order actual expected).map (· == .gt)
  | .ge => (order actual expected).map (· != .lt)
  | .lt => (order actual expected).map (· == .lt)
  | .le => (order actual expected).map (· != .gt)
  | .strEq => .ok (actual.display == expected.display)
  | .lenEq => compareLengths (· == ·) actual expected
  | .notLenEq => compareLengths (· != ·) actual expected
  | .lenGt => compareLengths (fun a b => b < a) actual expected
  | .lenGe => compareLengths (fun a b => b ≤ a) actual expected
  | .lenLt => compareLengths (fun a b => a < b) actual expected
  | .lenLe => compareLengths (fun a b => a ≤ b) actual expected
  | .contains => holds actual expected
  | .notContains => (holds actual expected).map (!·)
  | .startswith => .ok (compareTexts (fun a e => e.isPrefixOf a) actual expected)
  | .endswith => .ok (compareTexts (fun a e => e.isSuffixOf a) actual expected)

end CaseRunner.Comparator
