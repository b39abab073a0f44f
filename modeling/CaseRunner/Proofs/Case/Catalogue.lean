import CaseRunner.Case.Catalogue
import CaseRunner.Proofs.Case.Graph

/-!
# What a catalogue stands for

A catalogue keeps a case in three places: its document, the numbers by which the index
refers to it, and its id in the order of loading. Nothing in the catalogue itself makes
them agree. They agree because of how documents are added: the numbers are those that the
document and its steps are about to get, and nothing is written before the last step has
its place. So at any time a catalogue stands for a list of cases (`Catalogue.Stands`), and
adding a document to it does to the list what `CaseIndex.addDocument` says
(`Catalogue.Stands.add`): where a step is refused, however late, the catalogue is as it
was.

What a catalogue is after any documents were added, some of them in vain, then follows from
what is known of such lists (`Catalogue.stays_sound`).

The list is the simpler thing by far, as an entry carries all that belongs to a case. It is
what runs are about, and a run asks a catalogue for nothing but cases by their ids and the
ids in their order. Therefore it is enough to show once, here, that a catalogue gives what
the list would give.
-/

namespace CaseRunner

open CaseIndex

namespace Catalogue

variable {c c' : Catalogue} {cases : CaseIndex} {location id : String} {number : Nat}
  {config : Option Document} {steps : List Document}

/-! ## Places -/

/-- The places of the steps of the document with a number. A place is settled before the
document is kept: it is the number that the document will have, and the number of the step
among its steps. -/
def placesOf (location : String) (number : Nat) (steps : List Document) :
    List (String × StepPlace) :=
  steps.zipIdx.filterMap fun (step, i) => (idOf? step).map fun caseId =>
    (caseId, ⟨number, i, stepLocation location i⟩)

theorem map_fst_placesOf (location : String) (number : Nat) (steps : List Document) :
    (placesOf location number steps).map Prod.fst = steps.filterMap idOf? := by
  conv_rhs => rw [← List.zipIdx_map_fst 0 steps, List.filterMap_map]
  rw [placesOf, List.map_filterMap]
  refine List.filterMap_congr fun f _ => ?_
  rw [Option.map_map]
  exact Option.map_id'

theorem placesOf_concat {front : List Document} {step : Document} (hid : idOf? step = some id) :
    placesOf location number (front ++ [step]) = placesOf location number front ++
      [(id, ⟨number, front.length, stepLocation location front.length⟩)] := by
  rw [placesOf, List.zipIdx_append, List.filterMap_append, Nat.zero_add]
  refine congrArg (_ ++ ·) (List.filterMap_cons_some ?_)
  exact Option.map_eq_some_iff.mpr ⟨id, hid, rfl⟩

/-- **The numbers of a place lead to the entry**: what the steps of a document become is
found under an id by looking at the place of the id first, and then at the step that has
its number. By induction on the steps with their numbers; if an id were there twice, both
sides would find the first. -/
theorem find?_entriesOf (location : String) (number : Nat) (config : Option Document)
    (steps : List Document) (id : String) :
    (entriesOf location config steps).find? (·.caseId == id) =
      ((placesOf location number steps).lookup id).bind fun place =>
        steps[place.step]?.map fun step => ⟨id, location, place.location, config, step⟩ := by
  have there : ∀ p ∈ steps.zipIdx, steps[p.2]? = some p.1 :=
    fun p hp => List.mem_zipIdx_iff_getElem?.mp hp
  rw [entriesOf, placesOf]
  generalize steps.zipIdx = numbered at there ⊢
  induction numbered with
  | nil => rfl
  | cons p numbered ih =>
    obtain ⟨here, others⟩ := List.forall_mem_cons.mp there
    cases hid : idOf? p.1 with
    | none => simpa [hid] using ih others
    | some caseId =>
      by_cases same : id = caseId
      · subst same
        simp [hid, here]
      · have far : (caseId == id) = false := beq_false_of_ne (Ne.symm same)
        have far' : (id == caseId) = false := beq_false_of_ne same
        simpa [hid, far, far', List.lookup_cons] using ih others

/-- A place of a document has the number of the document and that of one of its steps. So
neither of the two numbers leads beyond what there is. -/
theorem of_mem_placesOf {caseId : String} {place : StepPlace}
    (h : (caseId, place) ∈ placesOf location number steps) :
    place.document = number ∧ ∃ step, steps[place.step]? = some step := by
  obtain ⟨⟨step, i⟩, hstep, hplace⟩ := List.mem_filterMap.mp h
  obtain ⟨other, -, heq⟩ := Option.map_eq_some_iff.mp hplace
  obtain ⟨-, rfl⟩ := Prod.mk.inj heq
  exact ⟨rfl, step, List.mem_zipIdx_iff_getElem?.mp hstep⟩

theorem mem_of_lookup {l : List (String × StepPlace)} {place : StepPlace}
    (h : l.lookup id = some place) : (id, place) ∈ l := by
  obtain ⟨front, rest, rfl, -⟩ := List.lookup_eq_some_iff.mp h
  simp

/-- Without repetitions it makes no difference from which end a list is searched. The index
is written from its front, so that the places of a document stand in it the other way
round. -/
theorem lookup_reverse_of_nodup {l : List (String × StepPlace)} (h : (l.map Prod.fst).Nodup) :
    l.reverse.lookup id = l.lookup id := by
  induction l with
  | nil => rfl
  | cons e l ih =>
    obtain ⟨key, place⟩ := e
    obtain ⟨fresh, nodup⟩ := List.nodup_cons.mp h
    rw [List.reverse_cons, List.lookup_append, ih nodup]
    by_cases same : id = key
    · subst same
      have none : l.lookup id = none := List.lookup_eq_none_iff.mpr fun x hx => by
        have : x.1 ≠ id := fun heq => fresh (List.mem_map.mpr ⟨x, hx, heq⟩)
        simpa using Ne.symm this
      simp [none]
    · simp [List.lookup_cons, beq_false_of_ne same]

/-! ## What a catalogue stands for -/

/-- **A catalogue stands for cases**: it has their ids in their order, its index refers to
each of them and to nothing else, and what the numbers lead to is the case.

This is the invariant, and the three parts are about the three structures. The index is
compared by the locations alone, since these are what it is asked for when a step repeats
an id; whether its numbers are right is said by the last part, where they are followed. -/
structure Stands (c : Catalogue) (cases : CaseIndex) : Prop where
  /-- The same ids in the same order. -/
  ids : c.ids = cases.ids
  /-- The index has a place for each case, with its location. Were there a place too many,
  an id would be taken that has no case. -/
  index : ∀ id, (c.index.lookup id).map (·.location) = (cases.find? id).map (·.location)
  /-- The numbers of a place lead to the case. -/
  found : ∀ id, c.get? id = cases.find? id

theorem stands_empty : Stands {} .empty := ⟨rfl, fun _ => rfl, fun _ => rfl⟩

/-- The catalogue with a document and the places of its steps. -/
def holding (c : Catalogue) (document : CaseDocument) (places : List (String × StepPlace)) :
    Catalogue where
  documents := c.documents ++ [document]
  index := places.reverse ++ c.index
  order := c.order ++ places.map Prod.fst

/-- An id is in the index if it is that of a case. -/
theorem Stands.isSome_lookup (h : c.Stands cases) (id : String) :
    (c.index.lookup id).isSome = (cases.find? id).isSome := by
  rw [← Option.isSome_map (f := (·.location)), h.index, Option.isSome_map]

/-- **A document that is kept, with its places entered, stands for one more.** That no id
comes up twice is needed: an entry in front of the index would hide an older one of the
same id, and the order would have both. -/
theorem Stands.holding (h : c.Stands cases)
    (fresh : (cases.ids ++ steps.filterMap idOf?).Nodup) :
    (c.holding ⟨location, config, steps⟩
        (placesOf location c.documents.length steps)).Stands
      (cases.adding location config steps) := by
  obtain ⟨-, nodup, apart⟩ := List.nodup_append.mp fresh
  have lookup (id : String) : (c.holding ⟨location, config, steps⟩
      (placesOf location c.documents.length steps)).index.lookup id =
        ((placesOf location c.documents.length steps).lookup id).or (c.index.lookup id) := by
    rw [Catalogue.holding, List.lookup_append, lookup_reverse_of_nodup]
    rwa [map_fst_placesOf]
  have split (id : String) : (cases.adding location config steps).find? id =
      (cases.find? id).or ((entriesOf location config steps).find? (·.caseId == id)) :=
    List.find?_append
  -- an id of the document is none of those that were there before
  have new (id : String) (place : StepPlace)
      (hplace : (placesOf location c.documents.length steps).lookup id = some place) :
      cases.find? id = none := by
    have mem : id ∈ steps.filterMap idOf? := by
      rw [← map_fst_placesOf location c.documents.length]
      exact List.mem_map.mpr ⟨(id, place), mem_of_lookup hplace, rfl⟩
    have absent : ¬ cases.contains id = true := fun hid =>
      apart id ((cases.contains_iff_mem_ids id).mp hid) id mem rfl
    rwa [CaseIndex.contains, Bool.not_eq_true, Option.isSome_eq_false_iff,
      Option.isNone_iff_eq_none] at absent
  refine ⟨?_, fun id => ?_, fun id => ?_⟩
  · rw [ids_adding, ← h.ids, ← map_fst_placesOf location c.documents.length]
    rfl
  · rw [lookup, split, find?_entriesOf location c.documents.length]
    cases hplace : (placesOf location c.documents.length steps).lookup id with
    | none => simpa using h.index id
    | some place =>
      obtain ⟨-, step, hstep⟩ := of_mem_placesOf (mem_of_lookup hplace)
      simp [new id place hplace, hstep]
  · rw [split, find?_entriesOf location c.documents.length, get?, lookup]
    cases hplace : (placesOf location c.documents.length steps).lookup id with
    | none =>
      cases hold : c.index.lookup id with
      | none =>
        have none := h.isSome_lookup id
        rw [hold] at none
        simp [Option.isNone_iff_eq_none.mp (Option.isSome_eq_false_iff.mp none.symm)]
      | some place =>
        -- the number of an earlier document stays its number
        have same := h.found id
        rw [get?, hold] at same
        cases hdoc : c.documents[place.document]? with
        | none =>
          have some := h.isSome_lookup id
          rw [hold, ← same, Option.bind_eq_bind, Option.bind_some, hdoc] at some
          cases some
        | some document =>
          have hlt := (List.getElem?_eq_some_iff.mp hdoc).1
          rw [← same]
          simp [Catalogue.holding, List.getElem?_append_left hlt]
    | some place =>
      obtain ⟨hnumber, step, hstep⟩ := of_mem_placesOf (mem_of_lookup hplace)
      simp [new id place hplace, Catalogue.holding, hnumber, hstep]

/-! ## Adding documents -/

/-- What is taken when some steps have places already: the ids of the cases and those of
these steps, each with the location where it stands first. While places are being looked
for, nothing has been written, so that the two are asked one after the other; the list of
cases has grown by then, and is asked once. -/
theorem Stands.taken (h : c.Stands cases) (location : String) (number : Nat)
    (config : Option Document) (front : List Document) (id : String) :
    ((c.index.lookup id).or ((placesOf location number front).lookup id)).map (·.location) =
      ((cases.adding location config front).find? id).map (·.location) := by
  rw [find?, adding, List.find?_append, ← find?, find?_entriesOf location number]
  cases hold : c.index.lookup id with
  | some place =>
    have loaded := h.index id
    rw [hold] at loaded
    obtain ⟨entry, hentry, hlocation⟩ := Option.map_eq_some_iff.mp loaded.symm
    simp [hentry, hlocation]
  | none =>
    have loaded := h.index id
    rw [hold] at loaded
    rw [Option.map_eq_none_iff.mp loaded.symm]
    cases hplace : (placesOf location number front).lookup id with
    | none => rfl
    | some place =>
      obtain ⟨-, step, hstep⟩ := of_mem_placesOf (mem_of_lookup hplace)
      simp [hstep]

/-- **Places are found as steps are added** to the cases that the catalogue stands for, and
refused with the same words. By induction on the steps that are left: the steps in front
have places here, and have been added to the list there. -/
theorem Stands.placesFrom (h : c.Stands cases) (location : String) (number : Nat)
    (config : Option Document) (front rest : List Document) :
    c.placesFrom location number front.length (placesOf location number front) rest =
      ((cases.adding location config front).addSteps location config front.length rest).map
        fun _ => placesOf location number (front ++ rest) := by
  induction rest generalizing front with
  | nil => rw [List.append_nil]; rfl
  | cons step rest ih =>
    rw [Catalogue.placesFrom, addSteps]
    cases hid : idOf? step with
    | none => rfl
    | some caseId =>
      dsimp only
      have taken := h.taken location number config front caseId
      cases hfind : (cases.adding location config front).find? caseId with
      | some entry =>
        rw [hfind] at taken
        obtain ⟨first, hfirst, hlocation⟩ := Option.map_eq_some_iff.mp taken
        rw [hfirst]
        dsimp only
        rw [hlocation]
        rfl
      | none =>
        rw [hfind] at taken
        rw [Option.map_eq_none_iff.mp taken]
        have next := ih (front ++ [step])
        rw [adding, entriesOf_concat hid, placesOf_concat hid, ← List.append_assoc,
          List.length_append, List.append_assoc, List.singleton_append] at next
        exact next

/-- Entering steps in turn changes the index and the order. -/
theorem yields_forM_enter (c : Catalogue) (places : List (String × StepPlace)) :
    Yields (places.forM fun (caseId, place) => enter caseId place) c (.ok ())
      { c with index := places.reverse ++ c.index
               order := c.order ++ places.map Prod.fst } := by
  induction places generalizing c with
  | nil => exact yields_pure_iff.mpr ⟨rfl, by simp⟩
  | cons e places ih =>
    have rest := ih { c with index := e :: c.index, order := c.order ++ [e.1] }
    simp only [List.reverse_cons, List.map_cons, List.append_assoc, List.singleton_append]
      at rest ⊢
    exact yields_bind_iff.mpr (.inl ⟨(), _, rfl, rest⟩)

/-- **What adding a document yields**: it is refused, and the catalogue is as it was, or
the document is kept and its steps have their places. There is nothing between the two,
although the catalogue is written to in many steps: all that can fail comes before the
first of them. -/
theorem Yields.of_add {d : Document} {r : Except RunError Unit}
    (h : Yields (add location d) c r c') :
    (∃ e, r = .error e ∧ c' = c ∧ (CaseIndex.sections location d = .error e
        ∨ ∃ config steps, CaseIndex.sections location d = .ok (config, steps)
          ∧ c.placesFrom location c.documents.length 0 [] steps = .error e))
      ∨ ∃ config steps places, CaseIndex.sections location d = .ok (config, steps)
        ∧ c.placesFrom location c.documents.length 0 [] steps = .ok places
        ∧ r = .ok () ∧ c' = c.holding ⟨location, config, steps⟩ places := by
  rcases yields_bind_iff.mp h with ⟨⟨config, steps⟩, c₁, hsections, hrest⟩ | ⟨e, hsections, rfl⟩
  · obtain ⟨sections, rfl⟩ := yields_mk_pure_iff.mp hsections
    rcases yields_bind_iff.mp (yields_get_bind_iff.mp hrest) with
      ⟨places, c₂, hplaces, hkept⟩ | ⟨e, hplaces, rfl⟩
    · obtain ⟨found, rfl⟩ := yields_mk_pure_iff.mp hplaces
      have kept := yields_modify_bind_iff.mp hkept
      obtain ⟨rfl, rfl⟩ := Prod.mk.inj (kept.symm.trans (yields_forM_enter _ places))
      exact .inr ⟨config, steps, places, sections.symm, found.symm, rfl, rfl⟩
    · obtain ⟨refused, rfl⟩ := yields_mk_pure_iff.mp hplaces
      exact .inl ⟨e, rfl, rfl, .inr ⟨config, steps, sections.symm, refused.symm⟩⟩
  · obtain ⟨refused, rfl⟩ := yields_mk_pure_iff.mp hsections
    exact .inl ⟨e, rfl, rfl, .inl refused.symm⟩

/-- **Adding a document to a catalogue adds it to what the catalogue stands for**; if it is
not accepted there, the error is the same and the catalogue is as it was. This is the step
of the simulation, and the two alternatives are the two ways in which adding to the list
can end. -/
theorem Stands.add (h : c.Stands cases) (nodup : cases.ids.Nodup) {d : Document}
    {r : Except RunError Unit} (hadd : Yields (Catalogue.add location d) c r c') :
    (∃ e, cases.addDocument location d = .error e ∧ r = .error e ∧ c' = c)
      ∨ ∃ cases', cases.addDocument location d = .ok cases' ∧ r = .ok () ∧ c'.Stands cases' := by
  have placed (config : Option Document) (steps : List Document) :
      c.placesFrom location c.documents.length 0 [] steps =
        (cases.addSteps location config 0 steps).map fun _ =>
          placesOf location c.documents.length steps := by
    have := h.placesFrom location c.documents.length config [] steps
    rwa [adding, show entriesOf location config [] = [] from rfl, List.append_nil] at this
  rcases Yields.of_add hadd with ⟨e, rfl, rfl, hsections | ⟨config, steps, hsections, hplaces⟩⟩
    | ⟨config, steps, places, hsections, hplaces, rfl, rfl⟩
  · exact .inl ⟨e, bind_eq_error_iff.mpr (.inl hsections), rfl, rfl⟩
  · rw [placed config steps] at hplaces
    refine .inl ⟨e, bind_eq_error_iff.mpr (.inr ⟨_, hsections, ?_⟩), rfl, rfl⟩
    cases hsteps : cases.addSteps location config 0 steps with
    | error e' => rw [hsteps] at hplaces; cases hplaces; exact hsteps
    | ok cases' => rw [hsteps] at hplaces; cases hplaces
  · rw [placed config steps] at hplaces
    obtain ⟨cases', hsteps, rfl⟩ := map_eq_ok_iff.mp hplaces
    have added : cases.addDocument location d = .ok cases' :=
      bind_eq_ok_iff.mpr ⟨_, hsections, hsteps⟩
    obtain ⟨rfl, rfl⟩ := eq_of_sections hsections
    obtain ⟨quiet, rfl⟩ := exists_of_addDocument added
    exact .inr ⟨_, added, rfl, h.holding (nodup_of_not_offends nodup quiet)⟩

/-! ## Documents one after the other -/

/-- The catalogue after documents were added or not accepted, one after the other. A
document that is not accepted does not keep the next ones from being added, so that the
catalogue goes on with whatever it is left with. -/
def after (docs : List (String × Document)) : Catalogue :=
  docs.foldl (fun c doc => ((add doc.1 doc.2).run c).2) {}

/-- The documents that are accepted on the way, as told by the answers of the catalogue
itself. -/
def acceptedFrom : Catalogue → List (String × Document) → List (String × Document)
  | _, [] => []
  | c, doc :: docs =>
    match (add doc.1 doc.2).run c with
    | (.ok (), c') => doc :: acceptedFrom c' docs
    | (.error _, c') => acceptedFrom c' docs

/-- **What holds before some documents holds after them**, with those that were accepted.
By induction on the documents, for any catalogue to begin with. -/
theorem exists_stands_foldl {before : List (String × Document)} (h : c.Stands cases)
    (holds : cases.Holds before) (loaded : cases.Loaded) (docs : List (String × Document)) :
    ∃ cases', (docs.foldl (fun c doc => ((add doc.1 doc.2).run c).2) c).Stands cases'
      ∧ cases'.Holds (before ++ acceptedFrom c docs) ∧ cases'.Loaded := by
  induction docs generalizing c cases before with
  | nil => exact ⟨cases, h, by rwa [acceptedFrom, List.append_nil], loaded⟩
  | cons doc docs ih =>
    rw [List.foldl_cons, acceptedFrom]
    rcases h.add holds.nodup (yields_run (add doc.1 doc.2) c) with
      ⟨e, -, hr, hc⟩ | ⟨cases', added, hr, stands⟩
    · rw [show (add doc.1 doc.2).run c = (.error e, c) from Prod.ext hr hc]
      exact ih h holds loaded
    · rw [show (add doc.1 doc.2).run c = (.ok (), ((add doc.1 doc.2).run c).2) from
        Prod.ext hr rfl]
      obtain ⟨cases₁, stands₁, holds₁, loaded₁⟩ :=
        ih stands (holds.add added) (loaded.added _ _ added)
      rw [List.append_assoc] at holds₁
      exact ⟨cases₁, stands₁, holds₁, loaded₁⟩

/-- **A catalogue always stands for cases**, which are those of the documents that were
accepted. -/
theorem exists_stands_after (docs : List (String × Document)) :
    ∃ cases, (after docs).Stands cases ∧ cases.Holds (acceptedFrom {} docs) ∧ cases.Loaded :=
  exists_stands_foldl stands_empty holds_empty .empty docs

/-- The cases that are found under the ids are those that a catalogue stands for. -/
theorem Stands.cases_eq (h : c.Stands cases) (nodup : cases.ids.Nodup) : c.cases = cases := by
  have entries : cases.ids.filterMap cases.find? = cases.entries := by
    rw [CaseIndex.ids, List.filterMap_map]
    refine (List.filterMap_congr fun entry hentry => ?_).trans (List.filterMap_some ..)
    exact (find?_eq_some_iff nodup).mpr ⟨hentry, rfl⟩
  rw [Catalogue.cases, h.ids, funext h.found, entries]

/-- **Loading documents keeps to the list.** By induction on the documents; the loading
stops at the first that is refused, and then there is nothing to show. -/
theorem exists_stands_of_load {read : String → Except RunError Document}
    {locations : List String} (h : c.Stands cases) (loaded : cases.Loaded)
    (hload : Yields (load read locations) c (.ok ()) c') :
    ∃ cases', c'.Stands cases' ∧ cases'.Loaded := by
  induction locations generalizing c cases with
  | nil =>
    obtain ⟨-, rfl⟩ := yields_pure_iff.mp hload
    exact ⟨cases, h, loaded⟩
  | cons location locations ih =>
    obtain ⟨_, next, hfirst, hrest⟩ := yields_bind_ok_iff.mp hload
    obtain ⟨d, _, hread, hadd⟩ := yields_bind_ok_iff.mp hfirst
    obtain ⟨-, rfl⟩ := yields_mk_pure_iff.mp hread
    rcases h.add loaded.nodup hadd with ⟨e, -, hr, -⟩ | ⟨cases', added, -, stands⟩
    · cases hr
    · exact ih stands (loaded.added _ _ added) hrest

/-- **What is loaded is loaded cases**: those that a catalogue gives, once its documents
were all read and accepted, came about document by document. So whatever is shown of loaded
cases holds of the cases that a catalogue hands to a run. -/
theorem loaded_of_load {read : String → Except RunError Document} {locations : List String}
    (h : Yields (load read locations) {} (.ok ()) c) : c.cases.Loaded := by
  obtain ⟨cases, stands, loaded⟩ := exists_stands_of_load stands_empty .empty h
  rwa [stands.cases_eq loaded.nodup]

/-! ## What a catalogue is -/

/-- **A catalogue is sound**: what its ids are, and what is found under them.

All of this is about what a user of the catalogue can ask for. In what structures it is
kept does not occur, nor does the list that it stands for. -/
structure Sound (c : Catalogue) (docs : List (String × Document)) : Prop where
  /-- No id is there twice. -/
  nodup : c.ids.Nodup
  /-- The ids are those of the steps of the documents, in their order. -/
  ids : c.ids.map some = docs.flatMap fun doc => (stepsOf doc.2).map idOf?
  /-- Something is found under the ids and under nothing else: no number leads nowhere. -/
  found : ∀ id, (c.get? id).isSome = true ↔ id ∈ c.ids
  /-- The index says the same of what is there. -/
  contains : ∀ id, c.contains id = true ↔ id ∈ c.ids
  /-- What is found under an id is the step whose `case_id` is the id, with the location
  and the configuration of its document, and its own location. -/
  finds : ∀ id entry, c.get? id = some entry ↔
    ∃ doc ∈ docs, ∃ i step, (stepsOf doc.2)[i]? = some step
      ∧ step.get? "case_id" = some (.text id)
      ∧ entry = ⟨id, doc.1, stepLocation doc.1 i, configOf? doc.2, step⟩

/-- **A catalogue that stands for a list is sound**, if the list holds the documents that
were loaded. All that is said of catalogues follows from this, and none of it is shown of
positions directly. -/
theorem Stands.sound (h : c.Stands cases) {docs : List (String × Document)}
    (holds : cases.Holds docs) : c.Sound docs where
  nodup := h.ids ▸ holds.nodup
  ids := h.ids ▸ holds.ids
  found id := by
    rw [h.found, h.ids]
    exact cases.contains_iff_mem_ids id
  contains id := by
    rw [Catalogue.contains, h.isSome_lookup, h.ids]
    exact cases.contains_iff_mem_ids id
  finds id entry := by
    rw [h.found]
    exact holds.finds

/-- **A step offends**: it has no id, or one that was loaded before or that an earlier
step of the document has. -/
def Offends (c : Catalogue) (steps : List Document) (i : Nat) : Prop :=
  ∃ step, steps[i]? = some step
    ∧ ∀ id, idOf? step = some id → id ∈ c.ids ++ (steps.take i).filterMap idOf?

/-- **A step repeats an id** that was loaded before, or that an earlier step of the
document has, from the location `first`. -/
def Repeats (c : Catalogue) (location : String) (steps : List Document) (i : Nat)
    (id first : String) : Prop :=
  (steps[i]?).bind idOf? = some id
    ∧ ((∃ entry, c.get? id = some entry ∧ first = entry.location)
      ∨ ∃ j < i, (steps[j]?).bind idOf? = some id ∧ first = stepLocation location j)

theorem Stands.offends_iff (h : c.Stands cases) (steps : List Document) (i : Nat) :
    c.Offends steps i ↔ cases.Offends steps i := by
  unfold Catalogue.Offends CaseIndex.Offends
  rw [h.ids]

theorem Stands.repeats_iff (h : c.Stands cases) {i : Nat} {first : String} :
    c.Repeats location steps i id first ↔ cases.Repeats location steps i id first := by
  unfold Catalogue.Repeats CaseIndex.Repeats
  rw [h.found]

/-- **A catalogue stays sound.** After documents were added one after the other, whether
each was accepted or not, the catalogue is that of the documents that were accepted. A
document that is not accepted, because of its last step as much as of its first, leaves the
ids and all that is found under them. And an id is said to be there twice exactly if the
first step that offends repeats one, with the two locations.

Since a document that is refused leaves nothing behind, what comes after it is added as if
it had never been there; therefore the first part needs no more than the list of those that
were accepted. -/
theorem stays_sound (docs : List (String × Document)) :
    (after docs).Sound (acceptedFrom {} docs)
      ∧ ∀ location d,
        (∀ e c', Yields (add location d) (after docs) (.error e) c' →
          c'.ids = (after docs).ids ∧ ∀ id, c'.get? id = (after docs).get? id)
        ∧ ∀ id first second,
          (∃ c', Yields (add location d) (after docs)
              (.error (.duplicateCaseId id first second)) c') ↔
            ∃ i, (∀ j < i, ¬ (after docs).Offends (stepsOf d) j)
              ∧ (after docs).Repeats location (stepsOf d) i id first
              ∧ second = stepLocation location i := by
  obtain ⟨cases, stands, holds, -⟩ := exists_stands_after docs
  refine ⟨stands.sound holds, fun location d => ⟨fun e c' hadd => ?_, fun id first second => ?_⟩⟩
  · rcases stands.add holds.nodup hadd with ⟨-, -, -, rfl⟩ | ⟨-, -, hr, -⟩
    · exact ⟨rfl, fun _ => rfl⟩
    · cases hr
  · simp only [stands.offends_iff, stands.repeats_iff, ← addDocument_eq_duplicate_iff]
    constructor
    · rintro ⟨c', hadd⟩
      rcases stands.add holds.nodup hadd with ⟨e, refused, hr, -⟩ | ⟨-, -, hr, -⟩
      · cases hr
        exact refused
      · cases hr
    · intro refused
      refine ⟨_, Prod.ext ?_ rfl⟩
      rcases stands.add holds.nodup (yields_run (add location d) (after docs)) with
        ⟨e, he, hr, -⟩ | ⟨cases', added, -, -⟩
      · cases he.symm.trans refused
        exact hr
      · cases added.symm.trans refused

end Catalogue

end CaseRunner
