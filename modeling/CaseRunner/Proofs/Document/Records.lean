import CaseRunner.Proofs.Computation
import CaseRunner.Schema.Source

/-!
# One field of a record

A record is read field by field, from a mapping or from a list. A field that is kept apart
from the others (`Schema.Record.Apart`) has a reader and a place of its own. A document
that gives it besides other fields (`Schema.Record.Gives`) is read as without it, and then
the field is put in its place (`Schema.Record.Apart.read_iff`).

This is about any record, and about what its reader is as a whole: a loop over members that
sets one field after the other. What is to be known of a certain field are the few facts of
`Apart`, each of which is about a single step of that loop. So for a field of a record that
is read there is nothing to be shown about loops.
-/

namespace CaseRunner

/-! ## Folds -/

section Folds

variable {ε α β : Type} {step : α → β → Except ε α} {put : α → α} {a c : α}

/-- A change that every step of a fold carries on is carried on by the fold. -/
theorem foldlM_carry {l : List β} (carry : ∀ m ∈ l, ∀ a, step (put a) m = (step a m).map put)
    (a : α) : l.foldlM step (put a) = (l.foldlM step a).map put := by
  induction l generalizing a with
  | nil => rfl
  | cons m l ih =>
    rw [List.foldlM_cons, List.foldlM_cons, carry m List.mem_cons_self]
    cases step a m with
    | error e => rfl
    | ok b => exact ih (fun m hm => carry m (List.mem_cons_of_mem _ hm)) b

/-- **One step more in a fold**: what it changes is changed in the end. The steps behind it
must carry the change on, which is to say that it makes no difference to them whether it
was made before or after them. -/
theorem foldlM_insert {γ : Type} (put : γ → α → α) {before behind : List β} {m : β}
    {read : Except ε γ} (read_eq : ∀ a, step a m = read.map fun x => put x a)
    (carry : ∀ x, ∀ m ∈ behind, ∀ a, step (put x a) m = (step a m).map (put x))
    (h : (before ++ behind).foldlM step a = .ok c) :
    (before ++ m :: behind).foldlM step a = read.map fun x => put x c := by
  rw [List.foldlM_append] at h ⊢
  obtain ⟨b, hb, h⟩ := bind_eq_ok_iff.mp h
  rw [hb]
  show (m :: behind).foldlM step b = _
  rw [List.foldlM_cons, read_eq]
  cases read with
  | error e => rfl
  | ok x =>
    show behind.foldlM step (put x b) = _
    rw [foldlM_carry (carry x), h]
    rfl

/-- **One step less in a fold**: what it changes has been changed in the end. -/
theorem foldlM_remove (put : α → α) {before behind : List β} {m : β}
    (step_eq : ∀ a, step a m = .ok (put a))
    (carry : ∀ m ∈ behind, ∀ a, step (put a) m = (step a m).map put)
    (h : (before ++ m :: behind).foldlM step a = .ok c) :
    ∃ b, (before ++ behind).foldlM step a = .ok b ∧ c = put b := by
  rw [List.foldlM_append] at h
  obtain ⟨b, hb, h⟩ := bind_eq_ok_iff.mp h
  rw [List.foldlM_cons, step_eq] at h
  change behind.foldlM step (put b) = .ok c at h
  rw [foldlM_carry carry] at h
  obtain ⟨c', hc', rfl⟩ := map_eq_ok_iff.mp h
  refine ⟨c', ?_, rfl⟩
  rw [List.foldlM_append, hb]
  exact hc'

end Folds

namespace Schema.Record

variable {α γ : Type} {r : Record Document α} {name : String} {d whole rest : Document} {c : α}

/-! ## Setting fields in turn -/

/-- A member whose name no other has makes no member appear twice. -/
theorem repeated?_insert {before behind : Fields} (alone : ∀ m ∈ before ++ behind, m.1 ≠ name) :
    r.repeated? (before ++ (name, d) :: behind) = r.repeated? (before ++ behind) := by
  induction before with
  | nil =>
    have none : behind.any (·.1 == name) = false :=
      List.any_eq_false.mpr fun m hm same => alone m hm (beq_iff_eq.mp same)
    rw [List.nil_append, List.nil_append, repeated?, none, Bool.and_false]
    rfl
  | cons m before ih =>
    have other : (name == m.1) = false :=
      beq_false_of_ne (alone m List.mem_cons_self).symm
    rw [List.cons_append, List.cons_append, repeated?, repeated?,
      ih fun m hm => alone m (List.mem_cons_of_mem _ hm), List.any_append, List.any_cons, other,
      Bool.false_or, ← List.any_append]

/-- A member is read into a record; those that are no fields do not matter. -/
def setMember (r : Record Document α) (a : α) (m : String × Document) : Except ReadFault α :=
  if r.knows m.1 then r.set a m.1 m.2 else return a

/-- An item is read into the field in whose place it stands. -/
def setItem (r : Record Document α) (a : α) (m : (String × Presence) × Document) :
    Except ReadFault α :=
  r.set a m.1.1 m.2

/-- A record whose fields may all be left out is read from members by setting them in turn. -/
theorem ofMembers_eq_ok_iff (free : ∀ f ∈ r.fields, f.2 = .optional) {members : Fields} :
    r.ofMembers members = .ok c ↔ r.repeated? members = none
      ∧ members.foldlM r.setMember r.start = .ok c := by
  have needless : r.fields.find? (fun f => f.2 = .required && !members.any (·.1 == f.1)) = none :=
    List.find?_eq_none.mpr fun f hf => by simp [free f hf]
  unfold ofMembers
  rw [needless]
  cases r.repeated? members with
  | some field => exact iff_of_false nofun (nofun ∘ And.left)
  | none =>
    rw [and_iff_right rfl]
    refine bind_eq_ok_iff.trans ?_
    exact ⟨fun ⟨a, ha, h⟩ => ha.trans h, fun h => ⟨c, h, rfl⟩⟩

/-- Such a record is read from a list by setting the fields that there are items for. -/
theorem ofItems_eq_ok_iff (free : ∀ f ∈ r.fields, f.2 = .optional) {items : List Document} :
    r.ofItems items = .ok c ↔ items.length ≤ r.fields.length
      ∧ (r.fields.zip items).foldlM r.setItem r.start = .ok c := by
  have needless : (r.fields.drop items.length).find? (fun f => f.2 ≠ .optional) = none :=
    List.find?_eq_none.mpr fun f hf => by simp [free f (List.mem_of_mem_drop hf)]
  unfold ofItems
  rw [needless, bind_eq_ok_iff]
  dsimp only
  split
  next long =>
    exact iff_of_false (fun ⟨_, _, h⟩ => nomatch h) fun h => absurd h.1 (Nat.not_le.mpr long)
  next short =>
    rw [and_iff_right (Nat.not_lt.mp short)]
    exact ⟨fun ⟨a, ha, h⟩ => ha.trans h, fun h => ⟨c, h, rfl⟩⟩

/-! ## A field by itself -/

/-- **A document gives a field** of a record, and what it is without the field: it is a
mapping, or a list of the fields in their order.

In a list the place of a field is its number, so that leaving it out would move the others.
Null stands there instead. In a mapping a name may stand twice, which is refused, and a
document with the field twice is none that gives it besides others. -/
inductive Gives (r : Record Document α) (name : String) (d : Document) : Document → Document → Prop
  /-- A member of a mapping, which has no other of that name. -/
  | member {before behind : Fields} (alone : ∀ m ∈ before ++ behind, m.1 ≠ name) :
      Gives r name d (.mapping (before ++ (name, d) :: behind)) (.mapping (before ++ behind))
  /-- An item of a list, in whose place null may stand. -/
  | item {before behind : List Document} {earlier later : List (String × Presence)}
      {presence : Presence} (fields : r.fields = earlier ++ (name, presence) :: later)
      (place : before.length = earlier.length) :
      Gives r name d (.list (before ++ d :: behind)) (.list (before ++ .null :: behind))

theorem Gives.ne_null (gives : r.Gives name d whole rest) : whole ≠ .null ∧ rest ≠ .null := by
  cases gives <;> exact ⟨nofun, nofun⟩

/-- **A field is kept apart** in a record whose fields may all be left out: what it is
makes no difference to the others.

The first three conditions are about the list of fields, the next three about setting them,
and the last two about what it means to leave the field out. None of them mentions a
document as a whole. -/
structure Apart (r : Record Document α) (name : String)
    (read : Document → Except ReadFault γ) (put : γ → α → α) (nothing : γ) : Prop where
  /-- All fields may be left out. -/
  free : ∀ f ∈ r.fields, f.2 = .optional
  /-- Each field is there once. -/
  once : (r.fields.map (·.1)).Nodup
  /-- It is a field of the record. -/
  known : r.knows name = true
  /-- It has a reader and a place of its own. -/
  set_eq : ∀ a d, r.set a name d = (read d).map fun x => put x a
  /-- The other fields are read in the same way whatever it is. -/
  set_put : ∀ x a d {field}, field ≠ name →
    r.set (put x a) field d = (r.set a field d).map (put x)
  /-- What is put in its place last counts. -/
  put_put : ∀ x y a, put x (put y a) = put x a
  /-- Null gives nothing. -/
  read_null : read .null = .ok nothing
  /-- There is nothing in its place at first. -/
  put_start : put nothing r.start = r.start

namespace Apart

variable {read : Document → Except ReadFault γ} {put : γ → α → α} {nothing : γ}
  {before behind : Fields} {items items' : List Document}
  {earlier later : List (String × Presence)} {presence : Presence}

theorem setMember_put (apart : r.Apart name read put nothing) (x : γ) {m : String × Document}
    (h : m.1 ≠ name) (a : α) : r.setMember (put x a) m = (r.setMember a m).map (put x) := by
  unfold setMember
  split
  · exact apart.set_put x a m.2 h
  · rfl

/-- The members of a mapping besides the field leave nothing in its place. -/
theorem read_members (apart : r.Apart name read put nothing)
    (alone : ∀ m ∈ before ++ behind, m.1 ≠ name) (h : r.ofMembers (before ++ behind) = .ok c) :
    put nothing c = c ∧ ∀ c', r.ofMembers (before ++ (name, d) :: behind) = .ok c' ↔
      ∃ x, read d = .ok x ∧ put x c = c' := by
  obtain ⟨once, hfold⟩ := (ofMembers_eq_ok_iff apart.free).mp h
  constructor
  · have carried : (before ++ behind).foldlM r.setMember (put nothing r.start)
        = ((before ++ behind).foldlM r.setMember r.start).map (put nothing) :=
      foldlM_carry (fun m hm a => apart.setMember_put nothing (alone m hm) a) r.start
    rw [apart.put_start] at carried
    exact (Except.ok.inj ((hfold.symm.trans carried).trans (congrArg _ hfold))).symm
  · intro c'
    have member (a) : r.setMember a (name, d) = (read d).map fun x => put x a :=
      (if_pos apart.known).trans (apart.set_eq a d)
    refine (ofMembers_eq_ok_iff apart.free).trans ?_
    rw [repeated?_insert alone, and_iff_right once, foldlM_insert put member
      (fun x m hm a => apart.setMember_put x (alone m (List.mem_append_right _ hm)) a) hfold]
    exact map_eq_ok_iff

/-- The items of a list besides the field leave nothing in its place. -/
theorem read_items (apart : r.Apart name read put nothing)
    (fields : r.fields = earlier ++ (name, presence) :: later)
    (place : items.length = earlier.length)
    (h : r.ofItems (items ++ .null :: items') = .ok c) :
    put nothing c = c ∧ ∀ c', r.ofItems (items ++ d :: items') = .ok c' ↔
      ∃ x, read d = .ok x ∧ put x c = c' := by
  obtain ⟨short, hfold⟩ := (ofItems_eq_ok_iff apart.free).mp h
  have alone (m) (hm : m ∈ later.zip items') : m.1.1 ≠ name := by
    have once := apart.once
    rw [fields, List.map_append, List.map_cons] at once
    have absent := (List.nodup_cons.mp (List.nodup_append.mp once).2.1).1
    exact fun same => absent (List.mem_map.mpr ⟨m.1, (List.of_mem_zip hm).1, same⟩)
  have carry (x m) (hm : m ∈ later.zip items') (a : α) :
      r.setItem (put x a) m = (r.setItem a m).map (put x) :=
    apart.set_put x a m.2 (alone m hm)
  have item (d a) : r.setItem a ((name, presence), d) = (read d).map fun x => put x a :=
    apart.set_eq a d
  have zipped (d : Document) : r.fields.zip (items ++ d :: items')
      = earlier.zip items ++ ((name, presence), d) :: later.zip items' := by
    rw [fields, List.zip_append place.symm, List.zip_cons_cons]
  rw [zipped] at hfold
  -- the null in place of the item gives nothing
  obtain ⟨b, hb, rfl⟩ := foldlM_remove (put nothing)
    (fun a => (item .null a).trans (congrArg _ apart.read_null)) (carry nothing) hfold
  refine ⟨apart.put_put nothing nothing b, fun c' => (ofItems_eq_ok_iff apart.free).trans ?_⟩
  rw [zipped, foldlM_insert put (item d) carry hb, and_iff_right (by simpa using short)]
  simp only [apart.put_put]
  exact map_eq_ok_iff

/-- **A document with the field** is read as without it, which leaves nothing in its place,
but for the field, which is read by its own reader. So it is refused exactly if its own
reader refuses the field, as long as the rest is not refused. -/
theorem read_iff (apart : r.Apart name read put nothing) (gives : r.Gives name d whole rest)
    (h : r.read rest = .ok c) :
    put nothing c = c ∧ ∀ c', r.read whole = .ok c' ↔ ∃ x, read d = .ok x ∧ put x c = c' := by
  cases gives with
  | member alone => exact apart.read_members alone h
  | item fields place => exact apart.read_items fields place h

end Apart

end Schema.Record

end CaseRunner
