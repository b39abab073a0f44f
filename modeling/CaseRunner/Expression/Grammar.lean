import CaseRunner.Error
import CaseRunner.Expression.Token

/-!
# The grammar of assertions and conditions

An assertion compares a part of the answer with a literal or asks for its type;
a condition is a literal or compares literals, as nothing has been answered yet
when it is evaluated:

```text
assertion  := "assert" comparison [ "," text ]
condition  := literal | comparison
comparison := operand op operand
operand    := literal | accessor | type
literal    := text | number | "True" | "False" | "None" | "[" … "]"
accessor   := "pm" "." "response" ( "." "get" "(" literal ")" )+
op         := "==" | "!=" | ">" | "<" | ">=" | "<=" | "in" | "not" "in"
```

`assertionOfTokens` and `conditionOfTokens` read a list of words and nothing
but it; two side conditions on operands are checked when the words are used up.
Nothing here hands a text to an interpreter.
-/

namespace CaseRunner.Expression

/-- The ways to compare two operands. -/
inductive Operator where
  /-- By a comparison sign. -/
  | sign (s : Sign)
  /-- The left operand is part of the right one. -/
  | isIn
  /-- The left operand is no part of the right one. -/
  | notIn
  deriving DecidableEq, Repr

/-- The spelling of an operator. -/
def Operator.spelling : Operator → String
  | .sign s => s.spelling
  | .isIn => "in"
  | .notIn => "not in"

/-- The types that a value may be asked for. -/
inductive TypeTest where
  | isInt | isFloat | isNumber | isStr | isBool | isList | isDict | isNone
  deriving DecidableEq, Repr

namespace TypeTest

/-- All type tests. -/
def all : List TypeTest :=
  [.isInt, .isFloat, .isNumber, .isStr, .isBool, .isList, .isDict, .isNone]

/-- The name of a type test. -/
def spelling : TypeTest → String
  | .isInt => "IsInt"
  | .isFloat => "IsFloat"
  | .isNumber => "IsNumber"
  | .isStr => "IsStr"
  | .isBool => "IsBool"
  | .isList => "IsList"
  | .isDict => "IsDict"
  | .isNone => "IsNone"

/-- The type test with the given name. -/
def ofName? (name : String) : Option TypeTest := all.find? (·.spelling == name)

/-- Is a value of the type? -/
def accepts : TypeTest → Document → Bool
  | .isInt, .number (.int _) => true
  | .isFloat, .number (.float _) => true
  | .isNumber, .number _ => true
  | .isStr, .text _ => true
  | .isBool, .bool _ => true
  | .isList, .list _ => true
  | .isDict, .mapping _ => true
  | .isNone, .null => true
  | _, _ => false

end TypeTest

/-- One side of a comparison. -/
inductive Operand where
  /-- A value. -/
  | literal (d : Document)
  /-- A part of the answer: the keys of the `get` calls, outermost first. -/
  | accessor (keys : List Document)
  /-- A type. -/
  | typed (t : TypeTest)

namespace Operand

/-- Is the operand a part of the answer? -/
def isAccessor : Operand → Bool
  | .accessor _ => true
  | _ => false

/-- Is the operand a type? -/
def isTyped : Operand → Bool
  | .typed _ => true
  | _ => false

end Operand

/-- Two operands and how they are compared. -/
structure Comparison where
  /-- The left operand. -/
  left : Operand
  /-- The operator between them. -/
  op : Operator
  /-- The right operand. -/
  right : Operand

/-- An assertion about an answer. -/
structure Assertion where
  /-- The text of the assertion, for messages. -/
  source : String
  /-- What is asserted. -/
  comparison : Comparison
  /-- What a report says instead of the assertion when it is false. -/
  note : Option String

/-- A condition on which a step is skipped. -/
inductive Condition where
  /-- A value that counts as true or false by itself. -/
  | literal (d : Document)
  /-- A comparison without accessors. -/
  | comparison (c : Comparison)

/-- Why a text is not an assertion or a condition. -/
inductive SyntaxFault where
  /-- It cannot be cut into words. -/
  | words (fault : LexFault)
  /-- Another word was called for; `none` is the end of the text. -/
  | expected (want : Token) (found : Option Token)
  /-- A literal was called for. -/
  | expectedLiteral (found : Option Token)
  /-- A name that is no literal. -/
  | unknownName (name : String)
  /-- A list without its bracket. -/
  | unterminatedList
  /-- No operator where one was called for. -/
  | missingOperator
  /-- A word that is no operator. -/
  | unknownOperator (found : Token)
  /-- An accessor without any `get`. -/
  | emptyAccessor
  /-- A message that is no text. -/
  | noteNotText
  /-- Words behind the end. -/
  | trailing (found : Token)
  /-- Both sides or none are parts of the answer. -/
  | notOneAccessor
  /-- A type compared with a type. -/
  | typePair
  /-- A type compared otherwise than by equality. -/
  | typeOrdered
  /-- A condition without words. -/
  | emptyCondition
  /-- A condition that is an accessor or a type alone. -/
  | bareCondition
  /-- A condition about the answer. -/
  | noAnswerYet

/-- The end of the text, or the word that was found instead. -/
def foundText : Option Token → String
  | some t => "'" ++ t.spelling ++ "'"
  | none => "end of input"

/-- What is wrong, in words. -/
def LexFault.reason : LexFault → String
  | .unterminated => "unterminated string literal"
  | .badNumber raw => "invalid number '" ++ raw ++ "'"
  | .badSign c => "unsupported operator at '" ++ String.singleton c ++ "'"
  | .badChar c => "unexpected character '" ++ String.singleton c ++ "'"

/-- What is wrong, in words. -/
def SyntaxFault.reason : SyntaxFault → String
  | .words fault => fault.reason
  | .expected want found => "expected '" ++ want.spelling ++ "', found " ++ foundText found
  | .expectedLiteral found => "expected a literal, found " ++ foundText found
  | .unknownName name => "unsupported name '" ++ name ++ "'"
  | .unterminatedList => "unterminated list literal"
  | .missingOperator => "missing operator"
  | .unknownOperator found => "unsupported operator '" ++ found.spelling ++ "'"
  | .emptyAccessor => "accessor must call pm.response.get(...)"
  | .noteNotText => "the assertion message must be a string literal"
  | .trailing found => "unexpected trailing '" ++ found.spelling ++ "'"
  | .notOneAccessor => "exactly one side must be a pm.response.get(...) accessor"
  | .typePair => "type predicates cannot be compared with each other"
  | .typeOrdered => "type predicates only support == and !="
  | .emptyCondition => "empty condition"
  | .bareCondition => "a condition needs a literal or a comparison"
  | .noAnswerYet => "pm.response is not available in skip_if conditions"

/-- The error of a text that is not in the language. -/
def SyntaxFault.error (source : String) (fault : SyntaxFault) : RunError :=
  .assertSyntax ("'" ++ source ++ "': " ++ fault.reason ++
    "; expected `assert <expected> <op> pm.response.get(...)[, <message>]`")

/-! ## Reading words

Every reader answers what it has read and the words behind it. -/

/-- The given word, and what stands behind it. -/
def expect (want : Token) : List Token → Except SyntaxFault (List Token)
  | t :: rest => if t = want then .ok rest else .error (.expected want (some t))
  | [] => .error (.expected want none)

/-- The value of a name that is a literal. -/
def constant? : String → Option Document
  | "True" | "true" => some (.bool true)
  | "False" | "false" => some (.bool false)
  | "None" | "null" => some .null
  | _ => none

mutual

/-- A literal. The fuel bounds the nesting and the length of lists: a list spends
one step per item and one per bracket, so that twice the number of words and one
more is always enough. -/
def readLiteral : Nat → List Token → Except SyntaxFault (Document × List Token)
  | 0, _ => .error (.expectedLiteral none)
  | _ + 1, [] => .error (.expectedLiteral none)
  | _ + 1, .text s :: rest => .ok (.text s, rest)
  | _ + 1, .number n :: rest => .ok (.number n, rest)
  | _ + 1, .name s :: rest =>
    match constant? s with
    | some d => .ok (d, rest)
    | none => .error (.unknownName s)
  | fuel + 1, .openBracket :: rest =>
    match rest with
    | .closeBracket :: rest => .ok (.list [], rest)
    | rest => (readItems fuel rest).map fun (items, r) => (.list items, r)
  | _ + 1, t :: _ => .error (.expectedLiteral (some t))

/-- The items of a list up to its bracket, of which there is at least one. -/
def readItems : Nat → List Token → Except SyntaxFault (List Document × List Token)
  | 0, _ => .error .unterminatedList
  | fuel + 1, ts => do
    let (d, ts) ← readLiteral fuel ts
    match ts with
    | .comma :: rest => (readItems fuel rest).map fun (items, r) => (d :: items, r)
    | .closeBracket :: rest => .ok ([d], rest)
    | _ => .error .unterminatedList

end

/-- A literal at the front of the words. -/
def literal (ts : List Token) : Except SyntaxFault (Document × List Token) :=
  readLiteral (2 * ts.length + 1) ts

/-- The `get` calls of an accessor: their keys. -/
def readKeys : Nat → List Token → Except SyntaxFault (List Document × List Token)
  | 0, ts => .ok ([], ts)
  | fuel + 1, .dot :: rest => do
    let rest ← expect (.name "get") rest
    let rest ← expect .openParen rest
    let (key, rest) ← literal rest
    let rest ← expect .closeParen rest
    let (keys, rest) ← readKeys fuel rest
    return (key :: keys, rest)
  | _ + 1, ts => .ok ([], ts)

/-- An accessor behind its `pm`. -/
def readAccessor (ts : List Token) : Except SyntaxFault (Operand × List Token) := do
  let ts ← expect .dot ts
  let ts ← expect (.name "response") ts
  let (keys, ts) ← readKeys ts.length ts
  if keys.isEmpty then throw .emptyAccessor
  return (.accessor keys, ts)

/-- An operand. -/
def readOperand (ts : List Token) : Except SyntaxFault (Operand × List Token) :=
  match ts with
  | .name s :: rest =>
    if s = "pm" then readAccessor rest
    else match TypeTest.ofName? s with
      | some t => .ok (.typed t, rest)
      | none => (literal ts).map fun (d, r) => (.literal d, r)
  | _ => (literal ts).map fun (d, r) => (.literal d, r)

/-- An operator. -/
def readOperator : List Token → Except SyntaxFault (Operator × List Token)
  | .sign s :: rest => .ok (.sign s, rest)
  | .name s :: rest =>
    if s = "in" then .ok (.isIn, rest)
    else if s = "not" then (expect (.name "in") rest).map fun r => (.notIn, r)
    else .error (.unknownOperator (.name s))
  | t :: _ => .error (.unknownOperator t)
  | [] => .error .missingOperator

/-- Nothing more. -/
def expectEnd : List Token → Except SyntaxFault Unit
  | [] => .ok ()
  | t :: _ => .error (.trailing t)

/-- A type is compared with a value only, and only by equality. -/
def Comparison.checkTypes (c : Comparison) : Except SyntaxFault Unit :=
  if c.left.isTyped && c.right.isTyped then .error .typePair
  else if (c.left.isTyped || c.right.isTyped) && c.op != .sign .eq && c.op != .sign .ne then
    .error .typeOrdered
  else .ok ()

/-- The message of an assertion, if one follows, and the end. -/
def readNote : List Token → Except SyntaxFault (Option String)
  | .comma :: .text s :: rest => (expectEnd rest).map fun _ => some s
  | .comma :: _ => .error .noteNotText
  | ts => (expectEnd ts).map fun _ => none

/-- The assertion that a list of words is: its comparison and its message. -/
def assertionOfTokens (ts : List Token) :
    Except SyntaxFault (Comparison × Option String) := do
  let ts ← expect (.name "assert") ts
  let (left, ts) ← readOperand ts
  let (op, ts) ← readOperator ts
  let (right, ts) ← readOperand ts
  let note ← readNote ts
  let comparison : Comparison := ⟨left, op, right⟩
  if left.isAccessor == right.isAccessor then throw .notOneAccessor
  comparison.checkTypes
  return (comparison, note)

/-- The condition that a list of words is. -/
def conditionOfTokens (ts : List Token) : Except SyntaxFault Condition := do
  if ts.isEmpty then throw .emptyCondition
  let (left, ts) ← readOperand ts
  if ts.isEmpty then
    match left with
    | .literal d => return .literal d
    | _ => throw .bareCondition
  let (op, ts) ← readOperator ts
  let (right, ts) ← readOperand ts
  expectEnd ts
  let comparison : Comparison := ⟨left, op, right⟩
  if left.isAccessor || right.isAccessor then throw .noAnswerYet
  comparison.checkTypes
  return .comparison comparison

/-- The assertion that a text is. -/
def parseAssertion (source : String) : Except RunError Assertion :=
  let parsed := do
    let ts ← (tokenize source.toList).mapError SyntaxFault.words
    assertionOfTokens ts
  (parsed.map fun (c, note) => ⟨source, c, note⟩).mapError (SyntaxFault.error source)

/-- The condition that a text is. -/
def parseCondition (source : String) : Except RunError Condition :=
  let parsed := do
    let ts ← (tokenize source.toList).mapError SyntaxFault.words
    conditionOfTokens ts
  parsed.mapError (SyntaxFault.error source)

end CaseRunner.Expression
