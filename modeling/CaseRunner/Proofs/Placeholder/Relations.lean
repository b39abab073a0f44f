import CaseRunner.Placeholder.Substitution
import CaseRunner.Proofs.Document.Alike

/-!
# What relation variables are replaced by

The relation variables of a document are looked up as they are met, text by text. But all
that matters of the variables is what they give for the names that the document holds: if
these are found, then the same document comes about from a list of these names with their
values (`putInto_of_replaceRelations`).

The list is what is written down when the relation variables of a request are filled in. So
from what was written down one can tell what was put in, without the store, which has
changed since.
-/

namespace CaseRunner

/-- A relation variable is found if it has a value. -/
theorem Store.relation_eq_ok_iff {s : Store} {now : Moment} {name value : String} :
    s.relation now name = .ok value ↔ s.relation? now name = some value := by
  unfold Store.relation
  cases s.relation? now name <;> simp

namespace Placeholder

/-- **Only the names of a text matter**: where all of them are found, the text becomes the
same if others answer the same for them. Nothing is asked about names that the text does
not hold, of which the list has nothing. -/
theorem substitute_of_agree {form : Form} {f g : String → Except RunError String}
    {before : Option Char} {skip : Nat} {s out : List Char}
    (h : substitute form f before skip s = .ok out)
    (agree : ∀ name ∈ names form before skip s, ∀ v, f name = .ok v → g name = .ok v) :
    substitute form g before skip s = .ok out := by
  induction s generalizing before skip out with
  | nil => cases skip <;> exact h
  | cons c rest ih =>
    cases skip with
    | succ skip =>
      rw [substitute] at h ⊢
      rw [names] at agree
      exact ih h agree
    | zero =>
      rw [substitute] at h ⊢
      rw [names] at agree
      split at h
      next name size found =>
        rw [found] at agree
        obtain ⟨v, hv, h⟩ := bind_eq_ok_iff.mp h
        obtain ⟨tail, htail, h⟩ := bind_eq_ok_iff.mp h
        refine bind_eq_ok_iff.mpr ⟨v, agree name List.mem_cons_self v hv, ?_⟩
        refine bind_eq_ok_iff.mpr ⟨tail, ih htail fun n hn => ?_, h⟩
        exact agree n (List.mem_cons_of_mem _ hn)
      next found =>
        rw [found] at agree
        obtain ⟨tail, htail, h⟩ := bind_eq_ok_iff.mp h
        exact bind_eq_ok_iff.mpr ⟨tail, ih htail agree, h⟩

/-- The value that a list gives for a name. -/
def given (values : List (String × String)) (name : String) : Except RunError String :=
  match values.lookup name with
  | some value => .ok value
  | none => .error (.variable name)

/-- **A document with given values** in the place of its relation variables. -/
def putInto (values : List (String × String)) (d : Document) : Except RunError Document :=
  d.replaceTexts (fun _ _ => false) (fun _ s => do
    return String.ofList (← substitute relationForm (given values) none 0 s.toList)) []

/-- The names of a document with the values that they have. A name that is mentioned twice
is listed twice, with one value. -/
def valuesFor (store : Store) (now : Moment) (d : Document) : List (String × String) :=
  (relationNames d).filterMap fun name =>
    (store.relation? now name).map fun value => (name, value)

variable {store : Store} {now : Moment}

/-- Among the values that are taken for a document are those of all its names. -/
theorem given_valuesFor {d : Document} {name value : String}
    (hname : name ∈ relationNames d)
    (hvalue : store.relation? now name = some value) :
    given (valuesFor store now d) name = .ok value := by
  unfold valuesFor given
  generalize relationNames d = names at hname ⊢
  induction names with
  | nil => cases hname
  | cons other names ih =>
    rw [List.filterMap_cons]
    by_cases h : name = other
    · subst h
      rw [hvalue, Option.map_some]
      dsimp only
      rw [List.lookup_cons_self]
    · have ih := ih ((List.mem_cons.mp hname).resolve_left h)
      cases store.relation? now other with
      | none => exact ih
      | some w =>
        rw [Option.map_some]
        dsimp only
        rw [List.lookup_cons, beq_false_of_ne h]
        exact ih

/-- **The relation pass puts in the values that there are** for the names of the document,
and nothing else. -/
theorem putInto_of_replaceRelations {store' : Store} {location : String}
    {d filled : Document}
    (h : replaceRelations store now location d = .ok (filled, store')) :
    putInto (valuesFor store now d) d = .ok filled := by
  rw [replaceRelations_eq] at h
  obtain ⟨replaced, hreplaced, heq⟩ := map_eq_ok_iff.mp h
  cases heq
  refine Document.replaceTexts_of_agree [] d hreplaced fun place text htext out hout => ?_
  obtain ⟨cs, hcs, hout⟩ := bind_eq_ok_iff.mp hout
  refine bind_eq_ok_iff.mpr ⟨cs, substitute_of_agree hcs fun name hname v hv => ?_, hout⟩
  refine given_valuesFor (List.mem_flatMap.mpr ⟨text, htext, hname⟩) ?_
  exact Store.relation_eq_ok_iff.mp (mapError_eq_ok_iff.mp hv)

end Placeholder

end CaseRunner
