import CaseRunner.Document.Compare
import CaseRunner.Document.Text
import CaseRunner.Decimal.Reading
import CaseRunner.Error

/-!
# Paths into a document

A path names parts of a document by steps from its root: a member, an item, a
range of items, all children, or the children that a filter keeps. `select`
lists the parts in document order.

A filter that begins at the child it tests (`@`) reads the members of the child
in their order up to the named one. Members that were read are gone: the steps
behind the filter see only the members behind the named one.
-/

namespace CaseRunner.JsonPath

/-- How a filter compares. -/
inductive Test where
  | equal | different | greater | less
  deriving DecidableEq, Repr

/-- What a filter compares with. -/
inductive Operand where
  /-- A text. -/
  | text (s : String)
  /-- A number. -/
  | number (x : Binary64)

/-- A step of a path. -/
inductive Step where
  /-- The member with a name. -/
  | child (name : String)
  /-- All members or items. -/
  | any
  /-- The item with an index. -/
  | item (index : Nat)
  /-- The items from the first index to the last, both included. -/
  | span (first last : Nat)
  /-- The items before an index. -/
  | before (index : Nat)
  /-- The items from an index on. -/
  | «from» (index : Nat)
  /-- The children in which the steps lead to something that passes the test. -/
  | whereChild (steps : List Step) (test : Test) (operand : Operand)
  /-- All children, if what the steps lead to from the root passes the test. -/
  | whereRoot (steps : List Step) (test : Test) (operand : Operand)

/-- The members or items of a document. -/
def children : Document → List Document
  | .list items => items
  | .mapping fields => fields.map (·.2)
  | _ => []

/-- The items of a list, none for any other document. -/
def items : Document → List Document
  | .list items => items
  | _ => []

/-- Does the value of a named member pass a test? -/
def passes (test : Test) (operand : Operand) (value : Document) : Bool :=
  match test, operand, value with
  | .equal, .text s, .text t => s == t
  | .different, .text s, .text t => s != t
  | .different, .text _, _ => true
  | .greater, .number x, .number n => x.lt n.toBinary64
  | .less, .number x, .number n => n.toBinary64.lt x
  | _, _, _ => false

/-- The members behind the named one if its value passes the test. -/
def membersBehind? (name : String) (test : Test) (operand : Operand) :
    Fields → Option Fields
  | [] => none
  | (k, v) :: rest =>
    if k = name then if passes test operand v then some rest else none
    else membersBehind? name test operand rest

/-- Do the texts that were found from the root pass a test? Other values do not
count, and nothing found passes. -/
def passesAll (test : Test) (operand : Operand) (found : List Document) : Bool :=
  found.all fun d =>
    match d, operand with
    | .text t, .text s => if test = .different then t != s else t == s
    | .text _, .number _ => test == .different
    | _, _ => true

/-- The parts of a document that a path leads to. -/
def select (root : Document) : List Step → Document → List Document
  | [], d => [d]
  | .child name :: rest, d => (d.get? name).toList.flatMap (select root rest)
  | .any :: rest, d => (children d).flatMap (select root rest)
  | .item index :: rest, d => (items d)[index]?.toList.flatMap (select root rest)
  | .span first last :: rest, d =>
    (((items d).take (last + 1)).drop first).flatMap (select root rest)
  | .before index :: rest, d => ((items d).take index).flatMap (select root rest)
  | .from index :: rest, d => ((items d).drop index).flatMap (select root rest)
  | .whereChild steps test operand :: rest, d =>
    match steps with
    | [.child name] =>
      (children d).flatMap fun c =>
        match c with
        | .mapping fields =>
          match membersBehind? name test operand fields with
          | some behind =>
            if rest.isEmpty then [c] else select root rest (.mapping behind)
          | none => []
        | _ => []
    | _ => []
  | .whereRoot steps test operand :: rest, d =>
    if passesAll test operand (select root steps root) then
      (children d).flatMap (select root rest)
    else []
  termination_by steps => sizeOf steps

/-! ## Reading a path -/

/-- Why a text is not a path. -/
inductive PathFault where
  /-- It is not in the language of paths. -/
  | malformed
  /-- An index is greater than any list can be long. -/
  | tooLarge
  deriving DecidableEq, Repr

/-- What is wrong, in words. -/
def PathFault.reason : PathFault → String
  | .malformed => "parsing error"
  | .tooLarge => "number too large to fit in target type"

/-- A character of a member's name. -/
def isIdentChar (c : Char) : Bool := c.isAlphanum || c == '_' || c == '-'

/-- A character of a text in a filter. -/
def isLiteralChar (c : Char) : Bool := isIdentChar c || c == ' '

/-- Characters of one class, at least one. -/
def readSome (test : Char → Bool) (s : List Char) : Option (List Char × List Char) :=
  let taken := s.takeWhile test
  if taken.isEmpty then none else some (taken, s.dropWhile test)

/-- An index. -/
def readIndex (s : List Char) : Option (Nat × List Char) :=
  (readSome Char.isDigit s).map fun (ds, rest) => (Decimal.digitsValue ds, rest)

/-- The comparison of a filter. -/
def readTest : List Char → Option (Test × List Char)
  | '=' :: '=' :: rest => some (.equal, rest)
  | '!' :: '=' :: rest => some (.different, rest)
  | '>' :: rest => some (.greater, rest)
  | '<' :: rest => some (.less, rest)
  | _ => none

/-- The operand of a filter. -/
def readOperand : List Char → Option (Operand × List Char)
  | '\'' :: rest => do
    let (s, rest) ← readSome isLiteralChar rest
    match rest with
    | '\'' :: rest => return (.text (String.ofList s), rest)
    | _ => none
  | s => do
    let (whole, rest) ← readSome Char.isDigit s
    let (fraction, rest) := match rest with
      | '.' :: r => match readSome Char.isDigit r with
        | some (ds, r) => (ds, r)
        | none => ([], rest)
      | _ => ([], rest)
    return (.number (.ofDecimal false (Decimal.digitsValue (whole ++ fraction))
      (-(fraction.length : Int))), rest)

/-- A step in brackets that is no filter, behind the opening bracket. -/
def readBracket : List Char → Option (Step × List Char)
  | ':' :: rest => do
    match ← readIndex rest with
    | (n, ']' :: rest) => return (.before n, rest)
    | _ => none
  | s => do
    match ← readIndex s with
    | (n, ']' :: rest) => return (.item n, rest)
    | (n, ':' :: ']' :: rest) => return (.from n, rest)
    | (n, ':' :: rest) =>
      match ← readIndex rest with
      | (m, ']' :: rest) => return (.span n m, rest)
      | _ => none
    | _ => none

mutual

/-- The steps at the front of a text: as many as there are. The fuel is the
length of the text. -/
def readSteps : Nat → List Char → List Step × List Char
  | 0, s => ([], s)
  | fuel + 1, s =>
    match readStep fuel s with
    | some (step, rest) =>
      let (steps, rest) := readSteps fuel rest
      (step :: steps, rest)
    | none => ([], s)

/-- A step. -/
def readStep : Nat → List Char → Option (Step × List Char)
  | _, '.' :: '*' :: rest => some (.any, rest)
  | _, '.' :: rest =>
    (readSome isIdentChar rest).map fun (name, r) => (.child (String.ofList name), r)
  | fuel, '[' :: '?' :: '(' :: rest => readFilter fuel rest
  | _, '[' :: rest => readBracket rest
  | _, _ => none

/-- A filter behind its opening. -/
def readFilter : Nat → List Char → Option (Step × List Char)
  | 0, _ => none
  | fuel + 1, s => do
    let (fromRoot, s) ← match s with
      | '$' :: rest => some (true, rest)
      | '@' :: rest => some (false, rest)
      | _ => none
    let (steps, s) := readSteps fuel s
    let (test, s) ← readTest (s.dropWhile (· == ' '))
    let (operand, s) ← readOperand (s.dropWhile (· == ' '))
    match s with
    | ')' :: ']' :: rest =>
      let step := if fromRoot then Step.whereRoot else Step.whereChild
      return (step steps test operand, rest)
    | _ => none

end

/-- The greatest index that a path may name. -/
def greatestIndex : Nat := pow2 64 - 1

mutual

/-- Are all indexes of a step small enough? -/
def Step.fits : Step → Bool
  | .item n => n ≤ greatestIndex
  | .span n m => n ≤ greatestIndex && m ≤ greatestIndex
  | .before n => n ≤ greatestIndex
  | .from n => n ≤ greatestIndex
  | .whereChild steps _ _ => stepsFit steps
  | .whereRoot steps _ _ => stepsFit steps
  | _ => true

/-- Are all indexes of the steps small enough? -/
def stepsFit : List Step → Bool
  | [] => true
  | s :: rest => s.fits && stepsFit rest

end

/-- The path that a text is. -/
def parse (path : String) : Except PathFault (List Step) :=
  match path.toList with
  | '$' :: rest =>
    let (steps, rest) := readSteps (rest.length + 1) rest
    if !rest.isEmpty then .error .malformed
    else if stepsFit steps then .ok steps
    else .error .tooLarge
  | _ => .error .malformed

/-! ## Extraction -/

/-- All parts of a document that a path leads to. -/
def findAll (value : Document) (path location : String) :
    Except RunError (List Document) :=
  match parse path with
  | .ok steps => .ok (select value steps value)
  | .error fault =>
    .error (.extraction (location ++ ": invalid jsonpath '" ++ path ++ "': " ++ fault.reason))

/-- The first part of a document that a path leads to; that there is none is an
error. -/
def findFirst (value : Document) (path location : String) : Except RunError Document := do
  match ← findAll value path location with
  | d :: _ => return d
  | [] => throw (.extraction (location ++ ": jsonpath '" ++ path ++
      "' found nothing in " ++ value.preview))

end CaseRunner.JsonPath
