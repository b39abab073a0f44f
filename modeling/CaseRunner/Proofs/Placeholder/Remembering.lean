import CaseRunner.Proofs.Placeholder.Taking

/-!
# Relation variables looked up once

A document may mention a relation variable in several of its texts. Its value can be
remembered from the first of them on, so that the store is asked once for each name, and
the names remembered at the end are those to be taken out of the store
(`Placeholder.replaceRelationsOnce`). What one text has left in the memory makes no
difference to the others: a value remembered is the one that the store has, as the store
stays as it is until all texts are done. So this comes to the same as looking up every
mention anew (`Placeholder.replaceRelationsOnce_eq`).

Were the store changed in between, by a value that is removed as soon as it has been put
in, the second mention of a name would find nothing. The memory is one way to avoid this,
and to remove nothing before the end is another. They are the same.
-/

namespace CaseRunner.Placeholder

/-- The values found so far, by name. -/
abbrev Found := List (String × String)

/-- A computation that remembers the values found. -/
abbrev Remembering := ExceptT RunError (StateM Found)

/-- The value of a relation variable in a text at a place. Only the first time the store is
asked. -/
def relationOnce (store : Store) (now : Moment) (place name : String) : Remembering String := do
  match (← get).lookup name with
  | some value => return value
  | none =>
    let value ← ExceptT.mk (pure ((store.relation now name).mapError (variableError place)))
    modify fun found => (name, value) :: found
    return value

/-- `substitute` for relation variables whose values are remembered. -/
def substituteOnce (resolve : String → Remembering String) :
    Option Char → Nat → List Char → Remembering (List Char)
  | _, _, [] => return []
  | _, skip + 1, c :: rest => substituteOnce resolve (some c) skip rest
  | before, 0, c :: rest =>
    match placeholderAt? relationForm before (c :: rest) with
    | some (name, size) => do
      let value ← resolve name
      return value.toList ++ (← substituteOnce resolve (some c) (size - 1) rest)
    | none => do return c :: (← substituteOnce resolve (some c) 0 rest)

/-- `substituteRelations` with a memory. -/
def substituteRelationsOnce (store : Store) (now : Moment) (place s : String) :
    Remembering String := do
  return String.ofList (← substituteOnce (relationOnce store now place) none 0 s.toList)

/-- The document at a location filled with a memory that all its texts share. -/
def fillOnce (store : Store) (now : Moment) (location : String) (d : Document) :
    Remembering Document :=
  d.visitTexts (fun _ _ => false) fun place s =>
    substituteRelationsOnce store now (place.render location) s

/-- `replaceRelations` with a memory. The variables remembered at the end are taken out of
the store. -/
def replaceRelationsOnce (store : Store) (now : Moment) (location : String) (d : Document) :
    Except RunError (Document × Store) :=
  match (fillOnce store now location d).run [] with
  | (.ok filled, found) => .ok (filled, (found.map Prod.fst).foldl Store.eraseRelation store)
  | (.error e, _) => .error e

/-! ## What is remembered -/

section Memory

variable {store : Store} {now : Moment} {α β : Type}

/-- **A memory is right** if the store gives the values in it. It need not have all of
them. -/
def Right (store : Store) (now : Moment) (found : Found) : Prop :=
  ∀ name value, found.lookup name = some value → store.relation? now name = some value

theorem right_nil : Right store now [] := nofun

/-- What was found stays right when a value is added that is the one in the store. -/
theorem Right.cons {found : Found} {name value : String} (h : Right store now found)
    (hvalue : store.relation? now name = some value) :
    Right store now ((name, value) :: found) := by
  intro other v hv
  rw [List.lookup_cons] at hv
  split at hv
  next same =>
    rw [eq_of_beq same, hvalue, hv]
  · exact h other v hv

/-- **A computation recalls**: with any memory that is right it answers what one without a
memory does, and it remembers certain names besides, with values that are right.

Nothing is said of the memory after an error, as nobody looks at it then. With an answer it
is said exactly which names are remembered, since these are what is taken from the store.
-/
def Recalls (store : Store) (now : Moment) (c : Remembering α) (x : Except RunError α)
    (names : List String) : Prop :=
  ∀ found, Right store now found → (c.run found).1 = x ∧ ∀ a, x = .ok a →
    Right store now (c.run found).2
      ∧ ∀ name, name ∈ (c.run found).2.map Prod.fst ↔ name ∈ found.map Prod.fst ∨ name ∈ names

namespace Recalls

variable {c : Remembering α} {x : Except RunError α} {names names' : List String}
  {f : α → Remembering β} {g : α → Except RunError β}

theorem pure (a : α) : Recalls store now (Pure.pure a) (.ok a) [] :=
  fun _ h => ⟨rfl, fun _ _ => ⟨h, fun _ => (or_iff_left List.not_mem_nil).symm⟩⟩

theorem bind (hc : Recalls store now c x names)
    (hf : ∀ a, Recalls store now (f a) (g a) names') :
    Recalls store now (c >>= f) (x >>= g) (names ++ names') := by
  intro found h
  rw [run_bind]
  obtain ⟨hx, after⟩ := hc found h
  generalize c.run found = ran at hx after ⊢
  obtain ⟨y, found'⟩ := ran
  cases hx
  cases y with
  | error e => exact ⟨rfl, nofun⟩
  | ok a =>
    obtain ⟨right, mem⟩ := after a rfl
    obtain ⟨answer, after'⟩ := hf a found' right
    refine ⟨answer, fun b hb => ⟨(after' b hb).1, fun name => ?_⟩⟩
    rw [(after' b hb).2, mem, List.mem_append, or_assoc]

/-- A last step that looks nothing up. -/
theorem bind_pure (hc : Recalls store now c x names) (k : α → β) :
    Recalls store now (c >>= fun a => Pure.pure (k a)) (x >>= fun a => Pure.pure (k a))
      names := by
  have last (a : α) : Recalls store now (Pure.pure (k a)) (Pure.pure (k a)) [] := pure (k a)
  simpa using hc.bind last

end Recalls

/-- A value is looked up, or remembered from then on. -/
theorem recalls_relationOnce (place name : String) : Recalls store now
    (relationOnce store now place name)
    ((store.relation now name).mapError (variableError place)) [name] := by
  intro found h
  cases known : found.lookup name with
  | some value =>
    -- an earlier mention has filled the memory, and the store has not changed since
    have ran : Yields (relationOnce store now place name) found (.ok value) found :=
      yields_get_bind_iff.mpr (by rw [known]; rfl)
    have there : name ∈ found.map Prod.fst := by
      obtain ⟨before, after, hfound, -⟩ := List.lookup_eq_some_iff.mp known
      simp [hfound]
    have same : store.relation now name = .ok value :=
      Store.relation_eq_ok_iff.mpr (h name value known)
    rw [ran, same]
    refine ⟨rfl, fun _ _ => ⟨h, fun other => (or_iff_left_of_imp fun hother => ?_).symm⟩⟩
    rwa [List.mem_singleton.mp hother]
  | none =>
    cases asked : store.relation now name with
    | error e =>
      have ran : Yields (relationOnce store now place name) found
          (.error (variableError place e)) found :=
        yields_get_bind_iff.mpr (by rw [known, asked]; rfl)
      rw [ran]
      exact ⟨rfl, nofun⟩
    | ok value =>
      have ran : Yields (relationOnce store now place name) found (.ok value)
          ((name, value) :: found) :=
        yields_get_bind_iff.mpr (by rw [known, asked]; rfl)
      rw [ran]
      refine ⟨rfl, fun _ _ => ⟨h.cons (Store.relation_eq_ok_iff.mp asked), fun other => ?_⟩⟩
      rw [List.map_cons, List.mem_cons, List.mem_singleton, or_comm]

/-- **One text with what was remembered** becomes what it becomes without. By recursion on
the text: at a placeholder the value is remembered or looked up, and is the same. -/
theorem recalls_substituteOnce (place : String) (before : Option Char) (skip : Nat)
    (s : List Char) : Recalls store now
      (substituteOnce (relationOnce store now place) before skip s)
      (substitute relationForm (fun name =>
        (store.relation now name).mapError (variableError place)) before skip s)
      (names relationForm before skip s) := by
  induction s generalizing before skip with
  | nil => cases skip <;> exact Recalls.pure []
  | cons c rest ih =>
    cases skip with
    | succ skip => exact ih (some c) skip
    | zero =>
      rw [substituteOnce, substitute, names]
      cases placeholderAt? relationForm before (c :: rest) with
      | none => exact (ih (some c) 0).bind_pure _
      | some found =>
        obtain ⟨name, size⟩ := found
        exact (recalls_relationOnce place name).bind fun value =>
          (ih (some c) (size - 1)).bind_pure _

theorem recalls_substituteRelationsOnce (store : Store) (now : Moment) (place s : String) :
    Recalls store now (substituteRelationsOnce store now place s)
      (substituteRelations store now place s) (names relationForm none 0 s.toList) :=
  (recalls_substituteOnce place none 0 s.toList).bind_pure _

end Memory

/-! ## The texts of a document -/

section Documents

open Document

variable {store : Store} {now : Moment} {visit : Place → String → Remembering String}
  {visit' : Place → String → Except RunError String} {named : String → List String}

mutual

/-- **Texts that recall one by one** recall together. The names that are remembered are
those of all texts of the document. -/
theorem recalls_replaceTexts
    (hv : ∀ place s, Recalls store now (visit place s) (visit' place s) (named s))
    (place : Place) : (d : Document) → Recalls store now
      (replaceTexts (fun _ _ => false) visit place d)
      (replaceTexts (fun _ _ => false) visit' place d) (d.leaves.flatMap named)
  | .null => Recalls.pure _
  | .bool _ => Recalls.pure _
  | .number _ => Recalls.pure _
  | .text s => by
    rw [leaves, List.flatMap_singleton]
    exact (hv place s).bind_pure _
  | .list ds => (recalls_replaceItemTexts hv place 0 ds).bind_pure _
  | .mapping fs => (recalls_replaceFieldTexts hv place fs).bind_pure _

theorem recalls_replaceItemTexts
    (hv : ∀ place s, Recalls store now (visit place s) (visit' place s) (named s))
    (place : Place) (i : Nat) : (ds : List Document) → Recalls store now
      (replaceItemTexts (fun _ _ => false) visit place i ds)
      (replaceItemTexts (fun _ _ => false) visit' place i ds) ((itemLeaves ds).flatMap named)
  | [] => Recalls.pure _
  | d :: ds => by
    rw [itemLeaves, List.flatMap_append]
    exact (recalls_replaceTexts hv _ d).bind fun _ =>
      (recalls_replaceItemTexts hv place (i + 1) ds).bind_pure _

theorem recalls_replaceFieldTexts
    (hv : ∀ place s, Recalls store now (visit place s) (visit' place s) (named s))
    (place : Place) : (fs : Fields) → Recalls store now
      (replaceFieldTexts (fun _ _ => false) visit place fs)
      (replaceFieldTexts (fun _ _ => false) visit' place fs) ((fieldLeaves fs).flatMap named)
  | [] => Recalls.pure _
  | (name, d) :: fs => by
    rw [fieldLeaves, List.flatMap_append]
    exact (recalls_replaceTexts hv _ d).bind fun _ =>
      (recalls_replaceFieldTexts hv place fs).bind_pure _

end

theorem recalls_fillOnce (store : Store) (now : Moment) (location : String) (d : Document) :
    Recalls store now (fillOnce store now location d)
      (d.replaceTexts (fun _ _ => false)
        (fun place s => substituteRelations store now (place.render location) s) [])
      (relationNames d) := by
  rw [fillOnce, visitTexts_eq]
  exact recalls_replaceTexts (fun place s =>
    recalls_substituteRelationsOnce store now (place.render location) s) [] d

/-- **The memory makes no difference**: the same document comes about, the same variables
are taken, and the same error is the first. The variables are taken in another order, which
is of no account when entries are removed. -/
theorem replaceRelationsOnce_eq (store : Store) (now : Moment) (location : String)
    (d : Document) : replaceRelationsOnce store now location d
      = replaceRelations store now location d := by
  obtain ⟨answer, after⟩ := recalls_fillOnce store now location d [] right_nil
  rw [replaceRelationsOnce, replaceRelations_eq, ← answer]
  generalize (fillOnce store now location d).run [] = ran at answer after ⊢
  obtain ⟨y, found⟩ := ran
  cases y with
  | error e => rfl
  | ok filled =>
    have taken (name : String) : name ∈ found.map Prod.fst ↔ name ∈ relationNames d := by
      simpa using (after filled answer.symm).2 name
    show Except.ok (filled, _) = Except.ok (filled, _)
    rw [Store.foldl_eraseRelation, Store.foldl_eraseRelation]
    simp only [Store.without, taken]

end Documents

end CaseRunner.Placeholder
