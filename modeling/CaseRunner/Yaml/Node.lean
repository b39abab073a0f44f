import CaseRunner.Decimal.Reading
import CaseRunner.Schema.Source

/-!
# YAML nodes

A YAML text is a tree of nodes whose scalars are still text. What a plain scalar
means is decided where a value of no particular type is wanted: null, a truth
value, a number or a text, by the rules of the core schema. Where a text is
wanted, a scalar is the text it was written as.
-/

namespace CaseRunner.Yaml

/-- A node. -/
inductive Node where
  /-- A scalar: its text, whether it was written without quotes, and its tag. -/
  | scalar (text : String) (plain : Bool) (tag : Option String)
  /-- A list of nodes. -/
  | sequence (items : List Node) (tag : Option String)
  /-- Pairs of a name and a node, in the order of the text. -/
  | mapping (members : List (String × Node)) (tag : Option String)
  deriving Inhabited

/-- The node where nothing is written. -/
def Node.void : Node := .scalar "" true none

/-! ## Plain scalars -/

/-- Does the text stand for null? -/
def isNullText (s : String) : Bool :=
  s = "" || s = "~" || s = "null" || s = "Null" || s = "NULL"

/-- The truth value that a text stands for. -/
def truth? (s : String) : Option Bool :=
  match s with
  | "true" | "True" | "TRUE" => some true
  | "false" | "False" | "FALSE" => some false
  | _ => none

/-- The value of a digit to base 36. -/
def digitValue (c : Char) : Nat :=
  if c.isDigit then c.toNat - '0'.toNat
  else if 'a' ≤ c && c ≤ 'z' then c.toNat - 'a'.toNat + 10
  else if 'A' ≤ c && c ≤ 'Z' then c.toNat - 'A'.toNat + 10
  else 36

/-- The number that a row of digits to a base is; there is at least one digit. -/
def natOfBase? (base : Nat) (ds : List Char) : Option Nat :=
  if ds.isEmpty || !ds.all (fun d => digitValue d < base) then none
  else some (ds.foldl (fun n d => base * n + digitValue d) 0)

/-- Digits that begin with a zero which says nothing; they are a text. -/
def hasIdleZero (s : List Char) : Bool :=
  let ds := match s with
    | '-' :: rest => rest
    | '+' :: rest => rest
    | ds => ds
  1 < ds.length && ds.head? = some '0' && ds.all Char.isDigit

/-- The magnitude of a whole number without its sign. -/
def magnitude? (s : List Char) : Option Nat :=
  match s with
  | '0' :: 'x' :: ds => natOfBase? 16 ds
  | '0' :: 'o' :: ds => natOfBase? 8 ds
  | '0' :: 'b' :: ds => natOfBase? 2 ds
  | ds => if hasIdleZero ds then none else natOfBase? 10 ds

/-- The whole number that a text stands for, of any size. -/
def whole? (s : String) : Option Int :=
  match s.toList with
  | '-' :: rest => (magnitude? rest).map fun n => -(n : Int)
  | '+' :: rest => (magnitude? rest).map Int.ofNat
  | rest => (magnitude? rest).map Int.ofNat

/-- The number that a text stands for. Infinity and NaN begin with a point. -/
def real? (s : String) : Option Binary64 :=
  match s with
  | ".inf" | ".Inf" | ".INF" | "+.inf" | "+.Inf" | "+.INF" => some (.infinity false)
  | "-.inf" | "-.Inf" | "-.INF" => some (.infinity true)
  | ".nan" | ".NaN" | ".NAN" => some .nan
  | s => (Decimal.ofText? s).filter Binary64.isFinite

/-- The document that a plain scalar stands for. Whole numbers that documents
cannot hold are refused. -/
def plainDocument (s : String) : Except ReadFault Document :=
  if isNullText s then .ok .null
  else match truth? s with
    | some b => .ok (.bool b)
    | none =>
      match whole? s with
      | some n =>
        if Number.least ≤ n && n ≤ Number.greatest then .ok (.int n)
        else .error (.wrongType ("integer \x60" ++ toString n ++ "\x60") "any JSON value")
      | none =>
        if hasIdleZero s.toList then .ok (.text s)
        else match real? s with
          | some x => .ok (Document.ofBinary64 x)
          | none => .ok (.text s)

/-! ## Nodes as values -/

/-- The part of a tag behind which the types of the core schema are named. -/
def coreTag (name : String) : String := "tag:yaml.org,2002:" ++ name

/-- Does a tag name a type outside the core schema? -/
def isLocalTag (tag : Option String) : Bool :=
  match tag with
  | some t => t.startsWith "!" && 1 < t.length
  | none => false

/-- The document that a scalar stands for. -/
def scalarDocument (text : String) (plain : Bool) (tag : Option String) :
    Except ReadFault Document :=
  let wanted {α : Type} (value? : Option α) (make : α → Document) (name : String) :
      Except ReadFault Document :=
    match value? with
    | some v => .ok (make v)
    | none => .error (.wrongValue (Document.text text).describe name)
  if isLocalTag tag then .error (.wrongType "tagged scalar" "any JSON value")
  else if tag = some (coreTag "bool") then wanted (truth? text) .bool "a boolean"
  else if tag = some (coreTag "int") then wanted (whole? text) .int "an integer"
  else if tag = some (coreTag "float") then wanted (real? text) .ofBinary64 "a float"
  else if tag = some (coreTag "null") then
    wanted (if isNullText text then some () else none) (fun _ => .null) "null"
  else if plain && (tag.isNone || tag = some "!") then plainDocument text
  else .ok (.text text)

namespace Node

/-- A node in words. -/
def describe : Node → String
  | .scalar text _ _ => (Document.text text).describe
  | .sequence .. => "sequence"
  | .mapping .. => "map"

/-- The document that a node stands for; of members with one name, the last. -/
def toDocument : Node → Except ReadFault Document
  | .scalar text plain tag => scalarDocument text plain tag
  | .sequence items tag =>
    if isLocalTag tag then .error (.wrongType "tagged value" "any JSON value")
    else (itemDocuments items).map .list
  | .mapping members tag =>
    if isLocalTag tag then .error (.wrongType "tagged value" "any JSON value")
    else (memberDocuments members).map fun pairs => .mapping (Document.ofPairs pairs)
where
  /-- The items of a list. -/
  itemDocuments : List Node → Except ReadFault (List Document)
    | [] => .ok []
    | n :: rest => do
      let d ← toDocument n
      return d :: (← itemDocuments rest)
  /-- The members of a mapping. -/
  memberDocuments : List (String × Node) → Except ReadFault (List (String × Document))
    | [] => .ok []
    | (name, n) :: rest => do
      let d ← toDocument n
      return (name, d) :: (← memberDocuments rest)

/-- Does a node stand for nothing where a value may be left out? -/
def isNull : Node → Bool
  | .scalar text plain tag =>
    if tag = some (coreTag "null") then true else plain && tag.isNone && isNullText text
  | _ => false

/-- The members where a mapping is wanted. Where nothing is written there are
none. -/
def members? : Node → Option (List (String × Node))
  | .mapping members _ => some members
  | .scalar "" _ _ => some []
  | _ => none

/-- The name that a node is, or the tag with what it is a tag of. -/
def named : Node → Except ReadFault (String × Option Node)
  | .scalar text plain tag =>
    if isLocalTag tag then
      .ok (String.ofList (((tag.getD "").toList).drop 1), some (.scalar text plain none))
    else .ok (text, none)
  | n => .error (.wrongType n.describe "a YAML tag starting with '!'")

instance : Source Node where
  describe := describe
  isNull := isNull
  text?
    | .scalar text _ _ => some text
    | _ => none
  truth?
    | .scalar text true _ => truth? text
    | _ => none
  whole?
    | .scalar text true _ => whole? text
    | _ => none
  real?
    | .scalar text true _ => real? text
    | _ => none
  items?
    | .sequence items _ => some items
    | _ => none
  positional? _ := none
  members? := members?
  named := named
  toDocument := toDocument

end Node

example : plainDocument "0x1F" = .ok (.int 31) ∧ plainDocument "yes" = .ok (.text "yes") :=
  ⟨rfl, rfl⟩
example : plainDocument "007" = .ok (.text "007") := rfl

end CaseRunner.Yaml
