import CaseRunner.Proofs.Case.Loading
import CaseRunner.Proofs.Case.Plain
import Mathlib.Data.List.Perm.Subperm
import Mathlib.Logic.Relation

/-!
# The graph of cases

Cases need cases: there is an edge from a case to each case that its document names. A case
can only pass if all that it needs, and all that these need, and so on, was loaded and
nothing of it needs itself; such a case is `Grounded`. For a grounded case there is an
order in which everything that it needs comes before it (`CaseIndex.order`).

All of this is about documents as they are loaded. Nothing is run here, and no variable has
a value. That runs keep to the graph is another matter, and it holds for cases whose ids
are plain (`CaseIndex.Plain`).

There are as many cases as were loaded, so that a way through the graph which is longer
comes back to a case that it has passed. This is the reason for everything that is said to
be deep enough here.
-/

namespace CaseRunner

namespace CaseIndex

open Relation

/-! ## Lists of cases -/

/-- **Loaded cases, none of them twice**: what a stack of cases is, and a way through the
graph that does not come back to itself. How many there can be is settled by how many were
loaded (`Orderly.length_le`), and this bounds the depth to which cases are nested. -/
structure Orderly (cases : CaseIndex) (ids : List String) : Prop where
  /-- No case is there twice. -/
  nodup : ids.Nodup
  /-- All cases are loaded. -/
  loaded : ∀ id ∈ ids, cases.contains id = true

namespace Orderly

variable {cases : CaseIndex} {ids : List String}

/-- There are no more of them than were loaded. -/
theorem length_le (h : cases.Orderly ids) : ids.length ≤ cases.size := by
  have sub : ids ⊆ cases.ids := fun id hid =>
    (cases.contains_iff_mem_ids id).mp (h.loaded id hid)
  have := (List.subperm_of_subset h.nodup sub).length_le
  rwa [CaseIndex.ids, List.length_map] at this

theorem nil : cases.Orderly [] := ⟨List.nodup_nil, by simp⟩

theorem cons {id : String} (h : cases.Orderly ids) (hid : id ∉ ids)
    (hc : cases.contains id = true) : cases.Orderly (id :: ids) :=
  ⟨List.nodup_cons.mpr ⟨hid, h.nodup⟩, List.forall_mem_cons.mpr ⟨hc, h.loaded⟩⟩

end Orderly

/-! ## Loading -/

/-- **Cases as they are loaded**, document by document. A document that is refused adds
nothing and does not occur. So every statement about loaded cases is one by induction on
the documents. -/
inductive Loaded : CaseIndex → Prop
  | empty : Loaded .empty
  | added {cases cases' : CaseIndex} (before : Loaded cases) (location : String)
      (d : Document) (h : cases.addDocument location d = .ok cases') : Loaded cases'

/-- Every entry goes by the id that its step carries. -/
def Named (cases : CaseIndex) : Prop :=
  ∀ entry ∈ cases.entries, idOf? entry.step = some entry.caseId

/-- In an index that was loaded every case has the id that its step gives. -/
theorem Loaded.named {cases : CaseIndex} (h : cases.Loaded) : cases.Named := by
  induction h with
  | empty => intro entry he; cases he
  | added _ location d h ih =>
    obtain ⟨-, rfl⟩ := exists_of_addDocument h
    intro entry he
    rcases List.mem_append.mp he with he | he
    · exact ih entry he
    · obtain ⟨i, step, caseId, -, hid, rfl⟩ := mem_entriesOf_iff.mp he
      exact hid

/-- No id is there twice. -/
theorem Loaded.nodup {cases : CaseIndex} (h : cases.Loaded) : cases.ids.Nodup := by
  induction h with
  | empty => exact List.nodup_nil
  | added _ location d h ih =>
    obtain ⟨quiet, rfl⟩ := exists_of_addDocument h
    rw [ids_adding]
    exact nodup_of_not_offends ih quiet

/-- **The ids of all cases, and those that their steps name, are without placeholders.** It
is a condition on what users write. Without it the graph is not known before the cases are
run. -/
def Plain (cases : CaseIndex) : Prop :=
  ∀ entry ∈ cases.entries, Placeholder.isPlain entry.caseId = true
    ∧ ∀ id ∈ referencedIds entry.step, Placeholder.isPlain id = true

/-! ## What a case needs -/

/-- The ids that the step of a case names, in order. -/
def needs (cases : CaseIndex) (id : String) : List String :=
  ((cases.find? id).map fun entry => referencedIds entry.step).getD []

/-- The step of a case names another. -/
def Needs (cases : CaseIndex) (a b : String) : Prop := b ∈ cases.needs a

/-- There is a way along the references from a case to another, or it is the
same. -/
abbrev Reaches (cases : CaseIndex) : String → String → Prop := ReflTransGen cases.Needs

/-- A case needs itself in the end, after one step or more along the references. -/
def Circular (cases : CaseIndex) (id : String) : Prop := TransGen cases.Needs id id

/-- **All that a case needs is there**, and all that this needs, and none of it needs
itself.

The definition mentions no circle. Being inductive it has to come to an end: a case can
only be shown to be grounded after all that it needs has been, and for a case on a circle
this would be the case itself. -/
inductive Grounded (cases : CaseIndex) : String → Prop
  | intro {id : String} (loaded : cases.contains id = true)
      (needs : ∀ b, cases.Needs id b → Grounded cases b) : Grounded cases id

variable {cases : CaseIndex} {a b c : String}

theorem needs_of_find? {entry : CaseEntry} (h : cases.find? a = some entry) :
    cases.needs a = referencedIds entry.step := by
  rw [needs, h]
  rfl

theorem Grounded.loaded (h : cases.Grounded a) : cases.contains a = true := by
  cases h with
  | intro loaded _ => exact loaded

theorem Grounded.of_reaches (h : cases.Grounded a) (hab : cases.Reaches a b) :
    cases.Grounded b := by
  induction hab with
  | refl => exact h
  | tail _ hbc ih =>
    cases ih with
    | intro _ needs => exact needs _ hbc

theorem Grounded.not_circular (h : cases.Grounded a) : ¬ cases.Circular a := by
  induction h with
  | @intro id _ _ ih =>
    intro hcirc
    obtain ⟨b, hab, hba⟩ := TransGen.head'_iff.mp hcirc
    exact ih b hab (TransGen.tail'_iff.mpr ⟨id, hba, hab⟩)

/-- **A case from which one only ever comes to loaded cases, and never back, is grounded.**
The `path` is a way to the case, and gets longer until no case is left. By induction on how
many are left. -/
theorem grounded_of_reaches {path : List String} (hp : cases.Orderly path)
    (hpath : ∀ b ∈ path, TransGen cases.Needs b a)
    (h : ∀ d, cases.Reaches a d → cases.contains d = true ∧ ¬ cases.Circular d)
    (left : Nat) (hleft : cases.size ≤ left + path.length) : cases.Grounded a := by
  obtain ⟨loaded, acyclic⟩ := h a .refl
  have longer := hp.cons (fun ha => acyclic (hpath a ha)) loaded
  induction left generalizing a path with
  | zero =>
    have := longer.length_le
    rw [List.length_cons] at this
    omega
  | succ left ih =>
    refine .intro loaded fun b hab => ?_
    have h' : ∀ d, cases.Reaches b d → cases.contains d = true ∧ ¬ cases.Circular d :=
      fun d hbd => h d (.head hab hbd)
    have hpath' : ∀ c ∈ a :: path, TransGen cases.Needs c b :=
      List.forall_mem_cons.mpr ⟨.single hab, fun c hc => (hpath c hc).tail hab⟩
    obtain ⟨loaded', acyclic'⟩ := h' b .refl
    refine ih longer hpath' h' ?_ loaded' acyclic'
      (longer.cons (fun hb => acyclic' (hpath' b hb)) loaded')
    rw [List.length_cons]
    omega

/-- **A case is grounded if no cycle and no missing case can be reached from it**, and only
then. On the right there is what one would look for in the graph, and on the left what runs
are shown to follow. -/
theorem grounded_iff : cases.Grounded a ↔
    ∀ d, cases.Reaches a d → cases.contains d = true ∧ ¬ cases.Circular d := by
  constructor
  · intro h d had
    have hd := h.of_reaches had
    exact ⟨hd.loaded, hd.not_circular⟩
  · intro h
    exact grounded_of_reaches .nil (by simp) h cases.size (by simp)

/-! ## An order -/

/-- What a case needs and what this needs, so many steps deep, each before what
needs it, and at the end the case itself. -/
def orderTo (cases : CaseIndex) : Nat → String → List String
  | 0, _ => []
  | depth + 1, id => (cases.needs id).flatMap (cases.orderTo depth) ++ [id]

/-- **The order of a case**: for each case that it needs, in turn, the order of that case,
and then the case itself. A way through the graph that does not come back to itself is no
longer than there are cases, so that this is deep enough.

A case that is needed twice stands there twice, as it is run twice. Nothing is remembered
of the first time. -/
def order (cases : CaseIndex) (id : String) : List String := cases.orderTo cases.size id

/-- **Deeper than the ways go there is nothing more to put in order.** The `path` is a way
to the case. -/
theorem Grounded.orderTo_succ (h : cases.Grounded a) {path : List String}
    (hp : cases.Orderly path) (hpath : ∀ b ∈ path, TransGen cases.Needs b a)
    {depth : Nat} (hd : cases.size ≤ depth + path.length) :
    cases.orderTo (depth + 1) a = cases.orderTo depth a := by
  have hnot : a ∉ path := fun ha => h.not_circular (hpath a ha)
  have longer := hp.cons hnot h.loaded
  induction depth generalizing a path with
  | zero =>
    have := longer.length_le
    rw [List.length_cons] at this
    omega
  | succ depth ih =>
    rw [orderTo, orderTo]
    congr 1
    refine List.flatMap_congr fun b hb => ?_
    have hab : cases.Needs a b := hb
    have hb' := h.of_reaches (.single hab)
    have hpath' : ∀ c ∈ a :: path, TransGen cases.Needs c b :=
      List.forall_mem_cons.mpr ⟨.single hab, fun c hc => (hpath c hc).tail hab⟩
    have hnot' : b ∉ a :: path := fun hb => hb'.not_circular (hpath' b hb)
    refine ih hb' longer hpath' ?_ hnot' (longer.cons hnot' hb'.loaded)
    rw [List.length_cons]
    omega

/-- The order of a grounded case is put together from those of the cases that it needs.
This is the equation that an order without a bound on the depth would be defined by. -/
theorem Grounded.order_eq (h : cases.Grounded a) :
    cases.order a = (cases.needs a).flatMap cases.order ++ [a] :=
  (h.orderTo_succ .nil (by simp) (by simp)).symm

/-! ## Two cases -/

/-- A step that needs other cases and does nothing else. -/
def stepNeeding (id : String) (needs : List String) : Document :=
  .mapping [("case_id", .text id), ("request", .null),
    ("setup", .list [.mapping [("testcase", .list (needs.map .text))]])]

/-- The cases `a` and `b`, given what they need. -/
def pair (a b : List String) : CaseIndex :=
  ⟨[⟨"a", "cases", "cases:test_steps[0]", none, stepNeeding "a" a⟩,
    ⟨"b", "cases", "cases:test_steps[1]", none, stepNeeding "b" b⟩]⟩

theorem pair_loaded (a b : List String) : (pair a b).Loaded :=
  .added .empty "cases"
    (.mapping [("test_steps", .list [stepNeeding "a" a, stepNeeding "b" b])]) rfl

end CaseIndex

end CaseRunner
