import CaseRunner.Document.Text
import CaseRunner.Schema.Fault
import CaseRunner.Text.Quoted

/-!
# Reading typed values from trees

Cases and settings are trees; the parts that mean something are read into types
of their own. A `Source` is a kind of tree that can be read from: documents are
one, the nodes of a YAML text, whose scalars are still text, another.

The readers are put together from a few: texts, numbers, lists, names out of a
fixed set, records. A record is read from a mapping or from the list of its
fields. The members of a mapping are read in their order there, so the first
that does not fit is reported; only then are members that are missing looked
for, in the order of the fields.
-/

namespace CaseRunner

/-- Trees that typed values are read from. -/
class Source (σ : Type) where
  /-- The tree in words. -/
  describe : σ → String
  /-- Does the tree stand for nothing? -/
  isNull : σ → Bool
  /-- The text, where a text is wanted. -/
  text? : σ → Option String
  /-- The truth value, where one is wanted. -/
  truth? : σ → Option Bool
  /-- The whole number, where one is wanted. -/
  whole? : σ → Option Int
  /-- The number, where one is wanted; it need not be finite. -/
  real? : σ → Option Binary64
  /-- The items of a list. -/
  items? : σ → Option (List σ)
  /-- The fields of a record in their order. -/
  positional? : σ → Option (List σ)
  /-- The members of a mapping. -/
  members? : σ → Option (List (String × σ))
  /-- The name, where one of a set of names is wanted, and what comes with it. -/
  named : σ → Except ReadFault (String × Option σ)
  /-- The tree as a document. -/
  toDocument : σ → Except ReadFault Document

namespace Document

/-- A document in words. -/
def describe : Document → String
  | .null => "null"
  | .bool b => "boolean \x60" ++ (Document.bool b).render ++ "\x60"
  | .number (.int n) => "integer \x60" ++ toString n ++ "\x60"
  | .number (.float x) => "floating point \x60" ++ (Number.float x).render ++ "\x60"
  | .text s => "string " ++ Text.inQuotes s
  | .list _ => "sequence"
  | .mapping _ => "map"

/-- The name that a document is, or the only name in it with its value. -/
def named : Document → Except ReadFault (String × Option Document)
  | .text s => .ok (s, none)
  | .mapping [(name, d)] => .ok (name, some d)
  | .mapping _ => .error (.wrongValue "map" "map with a single key")
  | d => .error (.wrongType d.describe "string or map")

instance : Source Document where
  describe := describe
  isNull := isNull
  text? := text?
  truth?
    | .bool b => some b
    | _ => none
  whole?
    | .number n => n.int?
    | _ => none
  real?
    | .number n => some n.toBinary64
    | _ => none
  items?
    | .list items => some items
    | _ => none
  positional?
    | .list items => some items
    | _ => none
  members?
    | .mapping fields => some fields
    | _ => none
  named := named
  toDocument := .ok

end Document

namespace Schema

variable {σ : Type} [Source σ]

/-- The fault of a tree of another kind. -/
def mismatch {α : Type} (expected : String) (s : σ) : Except ReadFault α :=
  .error (.wrongType (Source.describe s) expected)

/-- A text. -/
def text (s : σ) : Except ReadFault String :=
  match Source.text? s with
  | some t => .ok t
  | none => mismatch "a string" s

/-- A truth value. -/
def truth (s : σ) : Except ReadFault Bool :=
  match Source.truth? s with
  | some b => .ok b
  | none => mismatch "a boolean" s

/-- A number of any form. -/
def real (s : σ) : Except ReadFault Binary64 :=
  match Source.real? s with
  | some x => .ok x
  | none => mismatch "f64" s

/-- A whole number from 0 to one less than a bound, which goes by a name. -/
def whole (bound : Nat) (name : String) (s : σ) : Except ReadFault Nat :=
  match Source.whole? s with
  | some n =>
    if 0 ≤ n && n < bound then .ok n.toNat
    else .error (.wrongValue (Document.int n).describe name)
  | none => mismatch name s

/-- Any tree, as a document. -/
def anything (s : σ) : Except ReadFault Document := Source.toDocument s

/-- Null for nothing, or a value. -/
def optional {α : Type} (read : σ → Except ReadFault α) (s : σ) :
    Except ReadFault (Option α) :=
  if Source.isNull s then .ok none else (read s).map some

/-- A list of values. -/
def list {α : Type} (read : σ → Except ReadFault α) (s : σ) : Except ReadFault (List α) :=
  match Source.items? s with
  | some items => items.mapM read
  | none => mismatch "a sequence" s

/-- A mapping to values; the last value of a name counts. -/
def mapping {α : Type} (read : σ → Except ReadFault α) (s : σ) :
    Except ReadFault (List (String × α)) :=
  match Source.members? s with
  | some members => do
    let pairs ← members.mapM fun (name, d) => (read d).map fun a => (name, a)
    return Document.ofPairs pairs
  | none => mismatch "a map" s

/-- A mapping to any documents. -/
def fields (s : σ) : Except ReadFault Fields := mapping anything s

/-! ## Names -/

/-- Values with the names that each goes by. -/
abbrev Names (α : Type) := List (α × List String)

/-- The value that goes by a name. -/
def Names.find? {α : Type} (names : Names α) (name : String) : Option α :=
  (List.find? (fun entry => entry.2.contains name) names).map (·.1)

/-- A value that is given by its name. Nothing but null may come with it. -/
def name {α : Type} (names : Names α) (s : σ) : Except ReadFault α := do
  let (given, payload) ← Source.named s
  match names.find? given with
  | none => throw (.unknownName given (names.flatMap (·.2)))
  | some a =>
    match payload with
    | none => return a
    | some p => if Source.isNull p then return a else mismatch "unit" p

/-- A value that is given by a name and what comes with it, each name with the
reader of what must come with it. -/
def tagged {α : Type} (readers : List (String × (σ → Except ReadFault α))) (s : σ) :
    Except ReadFault α := do
  let (given, payload) ← Source.named s
  match readers.lookup given with
  | none => throw (.unknownName given (readers.map (·.1)))
  | some read =>
    match payload with
    | some p => read p
    | none => throw (.wrongType "unit variant" "newtype variant")

/-- A value in one of two forms, the first form if both fit. -/
def either {α : Type} (type : String) (first second : σ → Except ReadFault α) (s : σ) :
    Except ReadFault α :=
  match first s with
  | .ok a => .ok a
  | .error _ =>
    match second s with
    | .ok a => .ok a
    | .error _ => .error (.noneFits type)

/-! ## Records -/

/-- When a field of a record may be left out. -/
inductive Presence where
  /-- Never. -/
  | required
  /-- In a mapping, but not in a list. -/
  | nullable
  /-- Always. -/
  | optional
  deriving DecidableEq, Repr

/-- How a record is read: from a start value, field by field. -/
structure Record (σ α : Type) where
  /-- What the record is called. -/
  title : String
  /-- The fields in their order. -/
  fields : List (String × Presence)
  /-- The record with nothing read. -/
  start : α
  /-- Reads one field. -/
  set : α → String → σ → Except ReadFault α

namespace Record

variable {α : Type}

/-- Is there a field of this name? -/
def knows (r : Record σ α) (field : String) : Bool := r.fields.any (·.1 == field)

/-- The first field that is there twice. -/
def repeated? (r : Record σ α) : List (String × σ) → Option String
  | [] => none
  | (name, _) :: rest =>
    if r.knows name && rest.any (·.1 == name) then some name else r.repeated? rest

/-- Reads a record from the members of a mapping; those that are no fields do
not matter. -/
def ofMembers (r : Record σ α) (members : List (String × σ)) : Except ReadFault α := do
  if let some field := r.repeated? members then
    throw (.repeated field)
  let a ← members.foldlM
    (fun a (field, s) => if r.knows field then r.set a field s else return a) r.start
  match r.fields.find? fun f => f.2 = .required && !members.any (·.1 == f.1) with
  | some f => throw (.missing f.1)
  | none => return a

/-- Reads a record from the list of its fields. -/
def ofItems (r : Record σ α) (items : List σ) : Except ReadFault α := do
  let a ← (r.fields.zip items).foldlM (fun a (f, s) => r.set a f.1 s) r.start
  match (r.fields.drop items.length).find? fun f => f.2 ≠ .optional with
  | some f =>
    throw (.wrongLength (r.fields.idxOf f) ("struct " ++ r.title ++ " with " ++
      toString r.fields.length ++
      (if r.fields.length = 1 then " element" else " elements")))
  | none =>
    if r.fields.length < items.length then
      throw (.wrongLength items.length "fewer elements in array")
    else return a

/-- Reads a record. -/
def read (r : Record σ α) (s : σ) : Except ReadFault α :=
  match Source.members? s with
  | some members => r.ofMembers members
  | none =>
    match Source.positional? s with
    | some items => r.ofItems items
    | none => mismatch ("struct " ++ r.title) s

/-- Reads a record from a mapping only. -/
def readMapping (r : Record σ α) (s : σ) : Except ReadFault α :=
  match Source.members? s with
  | some members => r.ofMembers members
  | none => mismatch ("struct " ++ r.title) s

end Record

end Schema

end CaseRunner
