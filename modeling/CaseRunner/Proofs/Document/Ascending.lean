import CaseRunner.Document.Basic
import Mathlib.Data.List.Pairwise

/-!
# Ascending association lists

Mappings and tiers of variables are association lists that ascend in the names, so each
name is there once. What puts pairs in or takes them out keeps a list ascending. In an
ascending list a value is found under a name exactly if the pair is in the list
(`field?_eq_some_iff`), and putting its pairs in once more, one after the other, makes the
list itself (`ofPairs_of_ascending`).

An ascending list is determined by what is found in it. That is the reason for the order:
two mappings that say the same are the same list, so that a file which was written and is
read back gives the very mapping that was written, and equality needs no care for the order
of members.
-/

namespace CaseRunner.Document

variable {α β : Type} {name : String} {value : α} {fields : List (String × α)}

/-- **The names ascend.** The order is strict, so no name is there twice, and this is the
form in which both facts are used: what stands behind a pair has a greater name, and
therefore another. -/
def Ascending (fields : List (String × α)) : Prop :=
  fields.Pairwise fun f g => f.1 < g.1

@[simp] theorem ascending_nil : Ascending ([] : List (String × α)) := List.Pairwise.nil

theorem ascending_cons {f : String × α} :
    Ascending (f :: fields) ↔ (∀ g ∈ fields, f.1 < g.1) ∧ Ascending fields :=
  List.pairwise_cons

theorem Ascending.map (g : String × α → β) (h : Ascending fields) :
    Ascending (fields.map fun f => (f.1, g f)) :=
  List.pairwise_map.mpr h

theorem Ascending.eraseField (h : Ascending fields) (name : String) :
    Ascending (eraseField name fields) :=
  List.Pairwise.filter _ h

/-! ## Putting in -/

/-- What is there after a pair was put in was there before or is the pair. -/
theorem mem_of_mem_insertField {f : String × α} (h : f ∈ insertField name value fields) :
    f = (name, value) ∨ f ∈ fields := by
  induction fields with
  | nil => exact .inl (List.mem_singleton.mp h)
  | cons g rest ih =>
    rw [insertField] at h
    split at h
    · exact List.mem_cons.mp h
    · split at h
      · exact (List.mem_cons.mp h).imp_right (List.mem_cons_of_mem _)
      · rcases List.mem_cons.mp h with rfl | h
        · exact .inr List.mem_cons_self
        · exact (ih h).imp_right (List.mem_cons_of_mem _)

/-- **To put in a member keeps the names in order.** It goes before the first name that is
greater, or in place of its own name. -/
theorem Ascending.insertField (h : Ascending fields) (name : String) (value : α) :
    Ascending (insertField name value fields) := by
  induction fields with
  | nil => exact List.pairwise_singleton _ _
  | cons g rest ih =>
    obtain ⟨below, hrest⟩ := ascending_cons.mp h
    rw [Document.insertField]
    split
    · rename_i hlt
      refine ascending_cons.mpr ⟨fun f hf => ?_, h⟩
      rcases List.mem_cons.mp hf with rfl | hf
      · exact hlt
      · exact String.lt_trans hlt (below f hf)
    · rename_i hlt
      split
      · rename_i heq
        exact ascending_cons.mpr ⟨fun f hf => heq ▸ below f hf, hrest⟩
      · rename_i hne
        refine ascending_cons.mpr ⟨fun f hf => ?_, ih hrest⟩
        rcases mem_of_mem_insertField hf with rfl | hf
        · exact Std.lt_of_le_of_ne hlt (Ne.symm hne)
        · exact below f hf

theorem Ascending.insertAll (h : Ascending fields) (pairs : List (String × α)) :
    Ascending (insertAll pairs fields) := by
  induction pairs generalizing fields with
  | nil => exact h
  | cons p pairs ih => exact ih (h.insertField p.1 p.2)

theorem ascending_ofPairs (pairs : List (String × α)) : Ascending (ofPairs pairs) :=
  ascending_nil.insertAll pairs

/-- A pair whose name is above all others comes last. Pairs that come in order are put in
this way one after the other. -/
theorem insertField_of_forall_lt (h : ∀ f ∈ fields, f.1 < name) :
    insertField name value fields = fields ++ [(name, value)] := by
  induction fields with
  | nil => rfl
  | cons g rest ih =>
    obtain ⟨hg, hrest⟩ := List.forall_mem_cons.mp h
    have hlt : ¬ name < g.1 := fun hlt => String.lt_irrefl _ (String.lt_trans hg hlt)
    have hne : name ≠ g.1 := by
      rintro rfl
      exact String.lt_irrefl _ hg
    rw [insertField, if_neg hlt, if_neg hne, ih hrest, List.cons_append]

/-- **The pairs of an ascending list make the list.** A list that is written pair by pair
and read pair by pair comes back as it was, since the pairs come in the order in which they
stand. -/
theorem ofPairs_of_ascending (h : Ascending fields) : ofPairs fields = fields := by
  have append : ∀ pairs front : List (String × α), Ascending (front ++ pairs) →
      Document.insertAll pairs front = front ++ pairs := by
    intro pairs
    induction pairs with
    | nil => exact fun front _ => (List.append_nil front).symm
    | cons p pairs ih =>
      intro front hascending
      have below : ∀ f ∈ front, f.1 < p.1 := fun f hf =>
        (List.pairwise_append.mp hascending).2.2 f hf p List.mem_cons_self
      show Document.insertAll pairs (Document.insertField p.1 p.2 front) = _
      rw [insertField_of_forall_lt below, ih, List.append_assoc]
      · rfl
      · rwa [List.append_assoc]
  exact append fields [] h

/-! ## Finding -/

theorem field?_cons (name : String) (f : String × α) (rest : List (String × α)) :
    field? name (f :: rest) = if f.1 = name then some f.2 else field? name rest := rfl

theorem mem_of_field? (h : field? name fields = some value) : (name, value) ∈ fields := by
  induction fields with
  | nil => cases h
  | cons f rest ih =>
    rw [field?_cons] at h
    split at h
    · rename_i heq
      cases h
      exact heq ▸ List.mem_cons_self
    · exact List.mem_cons_of_mem _ (ih h)

/-- **What is found is what is there.** In any association list what is found is there;
that what is there is found as well takes that no pair in front of it has its name. -/
theorem Ascending.field?_eq_some_iff (h : Ascending fields) :
    field? name fields = some value ↔ (name, value) ∈ fields := by
  refine ⟨mem_of_field?, fun hmem => ?_⟩
  induction fields with
  | nil => cases hmem
  | cons f rest ih =>
    obtain ⟨below, hrest⟩ := ascending_cons.mp h
    rw [field?_cons]
    rcases List.mem_cons.mp hmem with rfl | hmem
    · exact if_pos rfl
    · have hne : f.1 ≠ name := by
        intro heq
        have lt : f.1 < name := below (name, value) hmem
        exact String.lt_irrefl name (heq ▸ lt)
      rw [if_neg hne, ih hrest hmem]

theorem field?_insertField (name key : String) (value : α) (fields : List (String × α)) :
    field? name (insertField key value fields) =
      if name = key then some value else field? name fields := by
  split
  · rename_i heq
    rw [heq, field?_insertField_self]
  · rename_i hne
    exact field?_insertField_of_ne value fields (Ne.symm hne)

/-- What is found in a list made of pairs is one of the pairs. -/
theorem mem_of_field?_ofPairs {pairs : List (String × α)}
    (h : field? name (ofPairs pairs) = some value) : (name, value) ∈ pairs := by
  have insertAll : ∀ pairs front : List (String × α), ∀ f ∈ insertAll pairs front,
      f ∈ front ∨ f ∈ pairs := by
    intro pairs
    induction pairs with
    | nil => exact fun front f hf => .inl hf
    | cons p pairs ih =>
      intro front f hf
      rcases ih _ f hf with hf | hf
      · rcases mem_of_mem_insertField hf with rfl | hf
        · exact .inr List.mem_cons_self
        · exact .inl hf
      · exact .inr (List.mem_cons_of_mem _ hf)
  exact (insertAll pairs [] _ (mem_of_field? h)).resolve_left List.not_mem_nil

/-- What no member is called has no value, and nothing else. -/
theorem field?_eq_none_iff :
    field? name fields = none ↔ fields.any (·.1 == name) = false := by
  induction fields with
  | nil => exact ⟨fun _ => rfl, fun _ => rfl⟩
  | cons f rest ih =>
    rw [field?_cons, List.any_cons, Bool.or_eq_false_iff, beq_eq_false_iff_ne, ← ih]
    by_cases hf : f.1 = name <;> simp [hf]

/-- Taking out a name that is not there changes nothing. -/
theorem eraseField_of_field? (h : field? name fields = none) :
    eraseField name fields = fields := by
  refine List.filter_eq_self.mpr fun f hf => ?_
  have := List.any_eq_false.mp (field?_eq_none_iff.mp h) f hf
  simpa using this

end CaseRunner.Document
