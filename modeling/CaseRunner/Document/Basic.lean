import CaseRunner.Binary64

/-!
# Documents

Case files, requests, response bodies and database rows are all trees of one
kind: null, truth values, numbers, texts, lists and mappings. Whole numbers
stay apart from numbers with a fraction, `1` from `1.0`, because the checks of
a case can tell them apart.

A mapping is an association list in ascending order of its keys, each key once.
`Document.insertField` keeps it so (`Document.Ascending`), and everything that
builds a mapping goes through it.
-/

namespace CaseRunner

/-- A number in a document. -/
inductive Number where
  /-- A whole number without point and exponent, from `-2 ^ 63` to `2 ^ 64 - 1`. -/
  | int (n : Int)
  /-- Any other number; always finite. -/
  | float (x : Binary64)
  deriving DecidableEq, Repr

/-- A tree of values. -/
inductive Document where
  | null
  | bool (b : Bool)
  | number (n : Number)
  | text (s : String)
  | list (items : List Document)
  | mapping (fields : List (String × Document))
  deriving Repr, Inhabited

/-- A mapping from names to values, ascending in the names. -/
abbrev Fields := List (String × Document)

namespace Number

/-- The least whole number of a document. -/
def least : Int := -pow2 63

/-- The greatest whole number of a document. -/
def greatest : Int := pow2 64 - 1

/-- The number as a binary one. -/
def toBinary64 : Number → Binary64
  | .int n => .ofInt n
  | .float x => x

/-- Do two numbers have the same form and value? -/
def same : Number → Number → Bool
  | .int a, .int b => a == b
  | .float a, .float b => a.eq b
  | _, _ => false

/-- The whole number, if it has neither point nor exponent. -/
def int? : Number → Option Int
  | .int n => some n
  | .float _ => none

/-- The whole number as an index or a size, if it is one. -/
def nat? : Number → Option Nat
  | .int n => n.toNat?
  | .float _ => none

end Number

namespace Document

/-- A whole number as a document. -/
abbrev int (n : Int) : Document := .number (.int n)

/-- A finite number as a document; documents hold no other, so those are null. -/
def ofBinary64 (x : Binary64) : Document :=
  if x.isFinite then .number (.float x) else .null

/-! ## Mappings -/

/-- Puts a value under a name into an ascending association list, in place of
the value that the name had. -/
def insertField {α : Type} (name : String) (value : α) :
    List (String × α) → List (String × α)
  | [] => [(name, value)]
  | (k, v) :: rest =>
    if name < k then (name, value) :: (k, v) :: rest
    else if name = k then (name, value) :: rest
    else (k, v) :: insertField name value rest

/-- Puts pairs into an association list one after the other. -/
def insertAll {α : Type} (pairs : List (String × α)) (fields : List (String × α)) :
    List (String × α) :=
  pairs.foldl (fun acc (k, v) => insertField k v acc) fields

/-- The association list that holds the last value of each name. -/
def ofPairs {α : Type} (pairs : List (String × α)) : List (String × α) :=
  insertAll pairs []

/-- The value under a name. -/
def field? {α : Type} (name : String) : List (String × α) → Option α
  | [] => none
  | (k, v) :: rest => if k = name then some v else field? name rest

/-- The association list without a name. -/
def eraseField {α : Type} (name : String) (fields : List (String × α)) :
    List (String × α) :=
  fields.filter fun f => f.1 != name

/-- The member of a mapping; nothing for any other document. -/
def get? (d : Document) (name : String) : Option Document :=
  match d with
  | .mapping fields => field? name fields
  | _ => none

/-- The text that a document is, if it is one. -/
def text? : Document → Option String
  | .text s => some s
  | _ => none

/-- Is the document absent or null? -/
def isNull : Document → Bool
  | .null => true
  | _ => false

@[simp] theorem field?_nil {α : Type} (name : String) :
    field? name ([] : List (String × α)) = none := rfl

@[simp] theorem field?_insertField_self {α : Type} (name : String) (v : α)
    (fields : List (String × α)) :
    field? name (insertField name v fields) = some v := by
  induction fields with
  | nil => simp [insertField, field?]
  | cons f rest ih =>
    obtain ⟨k, w⟩ := f
    unfold insertField
    split
    · simp [field?]
    · split
      · simp [field?]
      · rename_i h
        simp [field?, Ne.symm h, ih]

theorem field?_insertField_of_ne {α : Type} {name other : String} (v : α)
    (fields : List (String × α)) (h : name ≠ other) :
    field? other (insertField name v fields) = field? other fields := by
  induction fields with
  | nil => simp [insertField, field?, h]
  | cons f rest ih =>
    obtain ⟨k, w⟩ := f
    unfold insertField
    split
    · simp [field?, h]
    · split
      · rename_i hk
        subst hk
        simp [field?, h]
      · simp [field?, ih]

theorem field?_eraseField {α : Type} (name other : String)
    (fields : List (String × α)) :
    field? other (eraseField name fields) =
      if other = name then none else field? other fields := by
  induction fields with
  | nil => simp [eraseField]
  | cons f rest ih =>
    obtain ⟨k, w⟩ := f
    unfold eraseField at ih ⊢
    grind [field?]

/-! ## Equality -/

mutual

/-- Are two documents the same tree? Whole numbers equal no others, and the two
zeros of binary numbers are equal. -/
def same : Document → Document → Bool
  | .null, .null => true
  | .bool a, .bool b => a == b
  | .number a, .number b => a.same b
  | .text a, .text b => a == b
  | .list a, .list b => sameList a b
  | .mapping a, .mapping b => sameFields a b
  | _, _ => false

/-- `same` item by item. -/
def sameList : List Document → List Document → Bool
  | [], [] => true
  | x :: xs, y :: ys => same x y && sameList xs ys
  | _, _ => false

/-- `same` member by member. -/
def sameFields : List (String × Document) → List (String × Document) → Bool
  | [], [] => true
  | (k, x) :: xs, (l, y) :: ys => k == l && same x y && sameFields xs ys
  | _, _ => false

end

end Document

end CaseRunner
