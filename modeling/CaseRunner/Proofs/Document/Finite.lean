import CaseRunner.Document.Reading
import Mathlib.Tactic.SplitIfs

/-!
# Documents hold finite numbers

The text of a document has no way to say infinity or NaN: a number that is too large for
the binary format is refused (`isFinite_of_ofText?`). What is put together from finite
numbers otherwise is null where the number is not finite (`isFinite_ofBinary64`). So every
number of a document is finite, and this is all that equality asks of a document to be
reflexive on it.

The readers call each other, with fuel for the depth. What each of them reads is finite is
therefore shown for all three at once (`ReadsFinite`), by induction on the fuel, with one
lemma for each reader that says what it makes of what the others have read.
-/

namespace CaseRunner

/-- **The number is finite**, as all numbers of documents are. -/
def Number.isFinite : Number → Bool
  | .int _ => true
  | .float x => x.isFinite

namespace Document

mutual

/-- **Every number of the document is finite.** This is a fact about each document that is
read, not about all that can be written down: the type of documents has room for infinity
and NaN, as results of computations pass through it. -/
def isFinite : Document → Bool
  | .number n => n.isFinite
  | .list items => isFiniteList items
  | .mapping fields => isFiniteFields fields
  | _ => true

/-- `isFinite` of every item. -/
def isFiniteList : List Document → Bool
  | [] => true
  | d :: ds => d.isFinite && isFiniteList ds

/-- `isFinite` of every member. -/
def isFiniteFields : Fields → Bool
  | [] => true
  | (_, d) :: fs => d.isFinite && isFiniteFields fs

end

/-- A number as a document, or null. -/
theorem isFinite_ofBinary64 (x : Binary64) : (ofBinary64 x).isFinite = true := by
  unfold ofBinary64
  split
  next h => exact h
  next => rfl

theorem isFiniteList_iff {items : List Document} :
    isFiniteList items = true ↔ ∀ d ∈ items, d.isFinite = true := by
  induction items with
  | nil => simp [isFiniteList]
  | cons d ds ih => simp [isFiniteList, ih]

/-- A member is put in among the others, or replaces one; either way no number comes in but
those of its own value. -/
theorem isFiniteFields_insertField (name : String) {d : Document} {fields : Fields}
    (hd : d.isFinite = true) (h : isFiniteFields fields = true) :
    isFiniteFields (insertField name d fields) = true := by
  induction fields with
  | nil => simp [insertField, isFiniteFields, hd]
  | cons f fs ih =>
    obtain ⟨head, tail⟩ := Bool.and_eq_true_iff.mp h
    unfold insertField
    split
    · simp [isFiniteFields, hd, head, tail]
    · split
      · simp [isFiniteFields, hd, tail]
      · simp [isFiniteFields, head, ih tail]

/-! ## Reading -/

theorem isFinite_of_wholeNumber? {negative : Bool} {digits : List Char} {n : Number}
    (h : wholeNumber? negative digits = some n) : n.isFinite = true := by
  unfold wholeNumber? at h
  dsimp only at h
  split_ifs at h <;> cases h <;> rfl

/-- A number is finite or refused. -/
theorem isFinite_of_readNumber {s rest : List Char} {n : Number}
    (h : readNumber s = some (n, rest)) : n.isFinite = true := by
  unfold readNumber at h
  obtain ⟨⟨whole, s⟩, -, h⟩ := Option.bind_eq_some_iff.mp h
  dsimp only at h
  split_ifs at h
  obtain ⟨⟨fraction, s⟩, -, h⟩ := Option.bind_eq_some_iff.mp h
  obtain ⟨⟨power, s⟩, -, h⟩ := Option.bind_eq_some_iff.mp h
  dsimp only at h
  split_ifs at h with marked finite finite
  · cases h
    exact finite
  · split at h
    · rename_i n whole
      cases h
      exact isFinite_of_wholeNumber? whole
    · cases h
      exact finite
  · split at h
    · rename_i n whole
      cases h
      exact isFinite_of_wholeNumber? whole
    · cases h

theorem isFinite_of_readWord {word : String} {value d : Document} {s rest : List Char}
    (h : readWord word value s = some (d, rest)) : d = value := by
  unfold readWord at h
  split at h
  · cases h
    rfl
  · cases h

/-- **What the readers of documents read is finite**, with so much fuel. The readers of
items and of members carry with them what they have read so far, so of these the same has
to be assumed. -/
structure ReadsFinite (fuel : Nat) : Prop where
  /-- Of a document. -/
  value : ∀ {depth s d rest}, readValue fuel depth s = some (d, rest) → d.isFinite = true
  /-- Of the items of a list, behind those that are read. -/
  items : ∀ {depth done s d rest}, isFiniteList done = true →
    readItems fuel depth done s = some (d, rest) → d.isFinite = true
  /-- Of the members of a mapping, behind those that are read. -/
  members : ∀ {depth done s d rest}, isFiniteFields done = true →
    readMembers fuel depth done s = some (d, rest) → d.isFinite = true

section Step

variable {fuel depth : Nat} {s rest : List Char} {d : Document}

/-- A value is read as one of its kinds. A number is finite since one that is not is
refused as it is read; lists and mappings are what their items and members are, which were
read with less fuel. -/
theorem ReadsFinite.readValue (ih : ReadsFinite fuel)
    (h : readValue (fuel + 1) depth s = some (d, rest)) : d.isFinite = true := by
  unfold Document.readValue at h
  split at h
  -- the three words, a text, a list, a mapping and a number
  · rw [isFinite_of_readWord h]; rfl
  · rw [isFinite_of_readWord h]; rfl
  · rw [isFinite_of_readWord h]; rfl
  · obtain ⟨_, -, h⟩ := Option.map_eq_some_iff.mp h
    cases h
    rfl
  · split at h
    · cases h
    · cases h
      rfl
    · exact ih.items rfl h
  · split at h
    · cases h
    · cases h
      rfl
    · exact ih.members rfl h
  · obtain ⟨_, read, h⟩ := Option.map_eq_some_iff.mp h
    cases h
    exact isFinite_of_readNumber read

theorem ReadsFinite.readItems (ih : ReadsFinite fuel) {done : List Document}
    (hdone : isFiniteList done = true)
    (h : readItems (fuel + 1) depth done s = some (d, rest)) : d.isFinite = true := by
  unfold Document.readItems at h
  obtain ⟨⟨item, s⟩, read, h⟩ := Option.bind_eq_some_iff.mp h
  have all : isFiniteList (item :: done) = true := by
    rw [isFiniteList, ih.value read, hdone]
    rfl
  dsimp only at h
  split at h
  · exact ih.items all h
  · cases h
    refine isFiniteList_iff.mpr fun d hd => ?_
    exact isFiniteList_iff.mp all d (List.mem_reverse.mp hd)
  · cases h

theorem ReadsFinite.readMembers (ih : ReadsFinite fuel) {done : Fields}
    (hdone : isFiniteFields done = true)
    (h : readMembers (fuel + 1) depth done s = some (d, rest)) : d.isFinite = true := by
  unfold Document.readMembers at h
  split at h
  · obtain ⟨⟨name, s⟩, -, h⟩ := Option.bind_eq_some_iff.mp h
    dsimp only at h
    split at h
    · obtain ⟨⟨member, s⟩, read, h⟩ := Option.bind_eq_some_iff.mp h
      have all := isFiniteFields_insertField name (ih.value read) hdone
      dsimp only at h
      split at h
      · exact ih.members all h
      · cases h
        exact all
      · cases h
    · cases h
  · cases h

end Step

theorem readsFinite (fuel : Nat) : ReadsFinite fuel := by
  induction fuel with
  | zero => exact ⟨nofun, fun _ => nofun, fun _ => nofun⟩
  | succ fuel ih => exact ⟨ih.readValue, ih.readItems, ih.readMembers⟩

/-- **A document that is read from a text holds finite numbers.** This is where the
hypothesis of finite numbers comes from that the theorems on equality have. -/
theorem isFinite_of_ofText? {s : String} {d : Document} (h : ofText? s = some d) :
    d.isFinite = true := by
  unfold ofText? at h
  dsimp only at h
  split at h
  next d' rest read =>
    split at h
    · cases h
      exact (readsFinite _).value read
    · cases h
  next => cases h

end Document

end CaseRunner
