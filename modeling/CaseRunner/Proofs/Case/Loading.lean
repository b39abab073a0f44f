import CaseRunner.Case.Index
import CaseRunner.Proofs.Computation
import Mathlib.Data.List.Nodup

/-!
# Loading documents

A document adds all its steps to the index or none. What adding one can come to is said
once (`Outcome`): no step offends and all are added, or there is a first step that offends,
because it has no id or because it repeats one. From this follows what an index is made of
after documents were added to it: exactly the steps of those that were accepted, each found
under its own id (`Holds`).

All this is said of the list that the cases amount to. That the documents, numbers and
names which are kept in its place come to the same is shown for `Catalogue`.
-/

namespace CaseRunner

namespace CaseIndex

variable {cases : CaseIndex} {location : String} {config : Option Document}
  {steps : List Document} {id : String} {entry : CaseEntry}

/-! ## Documents -/

/-- The id of a step stands under `case_id`. -/
theorem text_of_idOf? {step : Document} {id : String} (h : idOf? step = some id) :
    step.get? "case_id" = some (.text id) := by
  obtain ⟨hid, -⟩ := Option.filter_eq_some_iff.mp h
  obtain ⟨d, hd, htext⟩ := Option.bind_eq_some_iff.mp hid
  cases d with
  | text s => cases htext; exact hd
  | null | bool | number | list | mapping => cases htext

/-- The location of a step. -/
def stepLocation (location : String) (i : Nat) : String :=
  joinIndex (joinPath location "test_steps") i

/-- The configuration of a document. -/
def configOf? (d : Document) : Option Document := d.get? "config"

/-- The steps of a document; one step may stand there alone. What has no steps is no
document of cases. -/
def stepsOf (d : Document) : List Document :=
  match d.get? "test_steps" with
  | some (.list steps) => steps
  | some (.mapping step) => [.mapping step]
  | _ => []

/-- What the steps of a document become. A step without an id becomes nothing; in a
document that was accepted there is no such step, so that there is an entry for each. -/
def entriesOf (location : String) (config : Option Document) (steps : List Document) :
    List CaseEntry :=
  steps.zipIdx.filterMap fun (step, i) => (idOf? step).map fun caseId =>
    { caseId, document := location, location := stepLocation location i, config, step }

/-- Which entries a document has: one for each step with an id, at the place of the step
and with the configuration of the document. -/
theorem mem_entriesOf_iff : entry ∈ entriesOf location config steps ↔
    ∃ i step caseId, steps[i]? = some step ∧ idOf? step = some caseId
      ∧ entry = ⟨caseId, location, stepLocation location i, config, step⟩ := by
  rw [entriesOf, List.mem_filterMap]
  constructor
  · rintro ⟨⟨step, i⟩, hmem, hentry⟩
    obtain ⟨caseId, hid, rfl⟩ := Option.map_eq_some_iff.mp hentry
    exact ⟨i, step, caseId, List.mem_zipIdx_iff_getElem?.mp hmem, hid, rfl⟩
  · rintro ⟨i, step, caseId, hstep, hid, rfl⟩
    exact ⟨(step, i), List.mem_zipIdx_iff_getElem?.mpr hstep,
      Option.map_eq_some_iff.mpr ⟨caseId, hid, rfl⟩⟩

theorem map_caseId_entriesOf (location : String) (config : Option Document)
    (steps : List Document) :
    (entriesOf location config steps).map (·.caseId) = steps.filterMap idOf? := by
  conv_rhs => rw [← List.zipIdx_map_fst 0 steps, List.filterMap_map]
  rw [entriesOf, List.map_filterMap]
  refine List.filterMap_congr fun f _ => ?_
  rw [Option.map_map]
  exact Option.map_id'

theorem entriesOf_concat {front : List Document} {step : Document}
    (hid : idOf? step = some id) :
    entriesOf location config (front ++ [step]) = entriesOf location config front ++
      [⟨id, location, stepLocation location front.length, config, step⟩] := by
  rw [entriesOf, List.zipIdx_append, List.filterMap_append, Nat.zero_add]
  refine congrArg (_ ++ ·) (List.filterMap_cons_some ?_)
  exact Option.map_eq_some_iff.mpr ⟨id, hid, rfl⟩

/-- The cases with the steps of a document. -/
def adding (cases : CaseIndex) (location : String) (config : Option Document)
    (steps : List Document) : CaseIndex :=
  ⟨cases.entries ++ entriesOf location config steps⟩

theorem ids_adding (cases : CaseIndex) (location : String) (config : Option Document)
    (steps : List Document) : (cases.adding location config steps).ids =
      cases.ids ++ steps.filterMap idOf? := by
  rw [ids, adding, List.map_append, map_caseId_entriesOf]
  rfl

/-! ## What adding steps comes to -/

/-- **A step offends**: it has no id, or one that was loaded before or that an earlier step
of the document has.

Whether a step offends is asked of the steps in front of it and of nothing behind it.
Therefore the first step that offends is the same whether the steps are looked at one by
one or all at once, and the error can be told from the document. -/
def Offends (cases : CaseIndex) (steps : List Document) (i : Nat) : Prop :=
  ∃ step, steps[i]? = some step
    ∧ ∀ id, idOf? step = some id → id ∈ cases.ids ++ (steps.take i).filterMap idOf?

/-- **A step repeats an id** that was loaded before, or that an earlier step of the
document has, from the location `first`. The location is that of the step which had the id
first. It is settled by the step that repeats it only if no step in front of that one
repeats it as well (`Repeats.unique`). -/
def Repeats (cases : CaseIndex) (location : String) (steps : List Document) (i : Nat)
    (id first : String) : Prop :=
  (steps[i]?).bind idOf? = some id
    ∧ ((∃ entry, cases.find? id = some entry ∧ first = entry.location)
      ∨ ∃ j < i, (steps[j]?).bind idOf? = some id ∧ first = stepLocation location j)

/-- **What adding the steps of a document comes to.** There are three ways, and each says
of the steps what has to be so for it to be taken. Since the three exclude each other, each
can be read in the other direction as well, as an answer to the question when there is such
an error. -/
inductive Outcome (cases : CaseIndex) (location : String) (config : Option Document)
    (steps : List Document) : Except RunError CaseIndex → Prop
  /-- No step offends, and all are added. -/
  | added (h : ∀ i, ¬ cases.Offends steps i) :
      Outcome cases location config steps (.ok (cases.adding location config steps))
  /-- The first step that offends has no id. -/
  | unnamed {i : Nat} {step : Document} (before : ∀ j < i, ¬ cases.Offends steps j)
      (hstep : steps[i]? = some step) (hid : idOf? step = none) :
      Outcome cases location config steps (.error (.requestData
        (joinPath (stepLocation location i) "case_id" ++ ": missing required string")))
  /-- The first step that offends repeats an id. -/
  | repeated {i : Nat} {id first : String} (before : ∀ j < i, ¬ cases.Offends steps j)
      (h : cases.Repeats location steps i id first) :
      Outcome cases location config steps
        (.error (.duplicateCaseId id first (stepLocation location i)))

/-- What is found among the cases and the steps of a document was loaded before, or is
one of the steps. -/
theorem exists_of_find?_adding (h : (cases.adding location config steps).find? id = some entry) :
    cases.find? id = some entry
      ∨ ∃ j, (steps[j]?).bind idOf? = some id ∧ entry.location = stepLocation location j := by
  rw [find?, adding, List.find?_append, Option.or_eq_some_iff] at h
  rcases h with hloaded | ⟨-, hadded⟩
  · exact .inl hloaded
  · obtain ⟨j, step, caseId, hstep, hid, rfl⟩ :=
      mem_entriesOf_iff.mp (List.mem_of_find?_eq_some hadded)
    obtain rfl : caseId = id := by simpa using List.find?_some hadded
    exact .inr ⟨j, by rw [hstep]; exact hid, rfl⟩

/-- Behind some steps a step offends unless it has an id that is still free. -/
theorem offends_length_iff {front rest : List Document} {step : Document} :
    cases.Offends (front ++ step :: rest) front.length ↔
      ∀ id, idOf? step = some id → id ∈ (cases.adding location config front).ids := by
  have here : (front ++ step :: rest)[front.length]? = some step := by simp
  rw [ids_adding, Offends, List.take_left, here]
  constructor
  · rintro ⟨other, heq, htaken⟩
    obtain rfl := Option.some.inj heq
    exact htaken
  · exact fun h => ⟨step, rfl, h⟩

/-- **What is still to be said when some steps are added already** and none of them
offends. By induction on the steps that are left: the cases with the steps in front added
are the state of the loop, and that none of these offends is its invariant. -/
theorem outcome_addSteps_append (front rest : List Document)
    (before : ∀ j < front.length, ¬ cases.Offends (front ++ rest) j) :
    Outcome cases location config (front ++ rest)
      ((cases.adding location config front).addSteps location config front.length rest) := by
  induction rest generalizing front with
  | nil =>
    rw [List.append_nil] at before ⊢
    refine .added fun i hi => ?_
    obtain ⟨step, hstep, -⟩ := id hi
    exact before i (List.getElem?_eq_some_iff.mp hstep).1 hi
  | cons step rest ih =>
    have here : (front ++ step :: rest)[front.length]? = some step := by simp
    rw [addSteps]
    cases hid : idOf? step with
    | none => exact .unnamed before here hid
    | some caseId =>
      dsimp only
      cases hfind : (cases.adding location config front).find? caseId with
      | some entry =>
        refine .repeated before ⟨by rw [here]; exact hid, ?_⟩
        rcases exists_of_find?_adding hfind with hloaded | ⟨j, hj, hlocation⟩
        · exact .inl ⟨entry, hloaded, rfl⟩
        · obtain ⟨earlier, hearlier, -⟩ := Option.bind_eq_some_iff.mp hj
          have hlt := (List.getElem?_eq_some_iff.mp hearlier).1
          exact .inr ⟨j, hlt, by rwa [List.getElem?_append_left hlt], hlocation⟩
      | none =>
        have fresh : caseId ∉ (cases.adding location config front).ids := by
          rw [← contains_iff_mem_ids, contains, hfind]
          exact Bool.false_ne_true
        have quiet : ∀ j < (front ++ [step]).length,
            ¬ cases.Offends (front ++ [step] ++ rest) j := by
          intro j hj
          rw [List.append_assoc, List.singleton_append]
          rw [List.length_append, List.length_singleton] at hj
          rcases Nat.lt_succ_iff_lt_or_eq.mp hj with hj | rfl
          · exact before j hj
          · exact fun h => fresh (offends_length_iff.mp h caseId hid)
        have next := ih (front ++ [step]) quiet
        rw [List.append_assoc, List.singleton_append, adding, entriesOf_concat hid,
          ← List.append_assoc, List.length_append] at next
        exact next

theorem outcome_addSteps (cases : CaseIndex) (location : String) (config : Option Document)
    (steps : List Document) :
    Outcome cases location config steps (cases.addSteps location config 0 steps) := by
  have start : cases.adding location config [] = cases :=
    congrArg CaseIndex.mk (List.append_nil _)
  have outcome : Outcome cases location config ([] ++ steps)
      ((cases.adding location config []).addSteps location config 0 steps) :=
    outcome_addSteps_append [] steps nofun
  rwa [start] at outcome

/-- A step with the id of a loaded one, or of an earlier one, offends. -/
theorem offends_of_taken {i : Nat} {step : Document} (hstep : steps[i]? = some step)
    (hid : idOf? step = some id)
    (htaken : (cases.find? id).isSome ∨ ∃ j < i, (steps[j]?).bind idOf? = some id) :
    cases.Offends steps i := by
  refine ⟨step, hstep, fun id' hid' => List.mem_append.mpr ?_⟩
  obtain rfl : id = id' := Option.some.inj (hid.symm.trans hid')
  rcases htaken with hloaded | ⟨j, hj, hsame⟩
  · exact .inl ((cases.contains_iff_mem_ids id).mp hloaded)
  · obtain ⟨earlier, hearlier, hsame⟩ := Option.bind_eq_some_iff.mp hsame
    refine .inr (List.mem_filterMap.mpr ⟨earlier, ?_, hsame⟩)
    exact List.mem_of_getElem? ((List.getElem?_take_of_lt hj).trans hearlier)

theorem Repeats.offends {i : Nat} {first : String}
    (h : cases.Repeats location steps i id first) : cases.Offends steps i := by
  obtain ⟨hbind, hfirst⟩ := h
  obtain ⟨step, hstep, hid⟩ := Option.bind_eq_some_iff.mp hbind
  refine offends_of_taken hstep hid ?_
  rcases hfirst with ⟨entry, hfind, -⟩ | ⟨j, hj, hsame, -⟩
  · exact .inl (hfind ▸ rfl)
  · exact .inr ⟨j, hj, hsame⟩

/-- **What the first step that offends repeats**, and from where, is settled. Two steps in
front of it cannot both have its id, as the later of the two would offend. -/
theorem Repeats.unique {i : Nat} {id' first first' : String}
    (before : ∀ j < i, ¬ cases.Offends steps j)
    (h : cases.Repeats location steps i id first)
    (h' : cases.Repeats location steps i id' first') : id = id' ∧ first = first' := by
  obtain ⟨hid, hfirst⟩ := h
  obtain ⟨hid', hfirst'⟩ := h'
  obtain rfl : id = id' := Option.some.inj (hid.symm.trans hid')
  refine ⟨rfl, ?_⟩
  -- no earlier step has an id that is taken
  have free : ∀ j < i, (steps[j]?).bind idOf? = some id →
      ¬ ((cases.find? id).isSome ∨ ∃ k < j, (steps[k]?).bind idOf? = some id) := by
    intro j hj hsame htaken
    obtain ⟨step, hstep, hid⟩ := Option.bind_eq_some_iff.mp hsame
    exact before j hj (offends_of_taken hstep hid htaken)
  rcases hfirst with ⟨entry, hfind, rfl⟩ | ⟨j, hj, hsame, rfl⟩
  · rcases hfirst' with ⟨entry', hfind', rfl⟩ | ⟨j', hj', hsame', rfl⟩
    · rw [Option.some.inj (hfind.symm.trans hfind')]
    · exact absurd (.inl (hfind ▸ rfl)) (free j' hj' hsame')
  · rcases hfirst' with ⟨entry', hfind', rfl⟩ | ⟨j', hj', hsame', rfl⟩
    · exact absurd (.inl (hfind' ▸ rfl)) (free j hj hsame)
    · rcases Nat.lt_trichotomy j j' with hlt | rfl | hlt
      · exact absurd (.inr ⟨j, hlt, hsame⟩) (free j' hj' hsame')
      · rfl
      · exact absurd (.inr ⟨j', hlt, hsame'⟩) (free j hj hsame)

/-! ## What adding a document comes to -/

/-- What has sections is a document of cases. -/
theorem eq_of_sections {d : Document} (h : sections location d = .ok (config, steps)) :
    config = configOf? d ∧ steps = stepsOf d := by
  cases d with
  | mapping fields =>
    unfold sections at h
    unfold configOf? stepsOf Document.get?
    dsimp only at h ⊢
    match hs : Document.field? "test_steps" fields with
    | some (.list items) | some (.mapping step) =>
      rw [hs] at h
      obtain ⟨rfl, rfl⟩ := Prod.mk.inj (Except.ok.inj h)
      exact ⟨rfl, rfl⟩
    | none | some .null | some (.bool _) | some (.number _) | some (.text _) =>
      rw [hs] at h
      cases h
  | null | bool | number | text | list => cases h

/-- What has no sections has no steps. -/
theorem of_sections_error {d : Document} {e : RunError} (h : sections location d = .error e) :
    stepsOf d = [] ∧ ∃ text, e = .requestData text := by
  cases d with
  | mapping fields =>
    unfold sections at h
    unfold stepsOf Document.get?
    dsimp only at h ⊢
    match hs : Document.field? "test_steps" fields with
    | some (.list items) | some (.mapping step) =>
      rw [hs] at h
      cases h
    | none | some .null | some (.bool _) | some (.number _) | some (.text _) =>
      rw [hs] at h
      exact ⟨rfl, _, (Except.error.inj h).symm⟩
  | null | bool | number | text | list => exact ⟨rfl, _, (Except.error.inj h).symm⟩

/-- **What adding a document comes to**: it is no document of cases, or its steps say
what. -/
theorem outcome_addDocument (cases : CaseIndex) (location : String) (d : Document) :
    (stepsOf d = [] ∧ ∃ text, cases.addDocument location d = .error (.requestData text))
      ∨ Outcome cases location (configOf? d) (stepsOf d) (cases.addDocument location d) := by
  unfold addDocument
  cases h : sections location d with
  | error e =>
    obtain ⟨none, text, rfl⟩ := of_sections_error h
    exact .inl ⟨none, text, rfl⟩
  | ok found =>
    obtain ⟨config, steps⟩ := found
    obtain ⟨rfl, rfl⟩ := eq_of_sections h
    exact .inr (outcome_addSteps ..)

/-- **A document is accepted** only if no step offends; then all of them are added. -/
theorem exists_of_addDocument {d : Document} {cases' : CaseIndex}
    (h : cases.addDocument location d = .ok cases') :
    (∀ i, ¬ cases.Offends (stepsOf d) i)
      ∧ cases' = cases.adding location (configOf? d) (stepsOf d) := by
  rcases outcome_addDocument cases location d with ⟨-, text, herror⟩ | outcome
  · rw [herror] at h
    cases h
  · rw [h] at outcome
    cases outcome with
    | added quiet => exact ⟨quiet, rfl⟩

/-- **When an id is there twice**: the first step that offends repeats it. A document with
a step that has no id in front of one that repeats an id is refused for the first of the
two, so the repetition alone is not enough. -/
theorem addDocument_eq_duplicate_iff {d : Document} {first second : String} :
    cases.addDocument location d = .error (.duplicateCaseId id first second) ↔
      ∃ i, (∀ j < i, ¬ cases.Offends (stepsOf d) j)
        ∧ cases.Repeats location (stepsOf d) i id first ∧ second = stepLocation location i := by
  constructor
  · intro h
    rcases outcome_addDocument cases location d with ⟨-, text, herror⟩ | outcome
    · rw [herror] at h
      cases h
    · rw [h] at outcome
      cases outcome with
      | repeated before hrepeats => exact ⟨_, before, hrepeats, rfl⟩
  · rintro ⟨i, before, hrepeats, rfl⟩
    -- two steps that are both the first one to offend are one
    have same : ∀ {k}, (∀ j < k, ¬ cases.Offends (stepsOf d) j) →
        cases.Offends (stepsOf d) k → k = i := fun hbefore hk =>
      Nat.le_antisymm (Nat.le_of_not_lt fun hlt => hbefore i hlt hrepeats.offends)
        (Nat.le_of_not_lt fun hlt => before _ hlt hk)
    rcases outcome_addDocument cases location d with ⟨hnone, -⟩ | outcome
    · have := hrepeats.1
      rw [hnone] at this
      cases this
    · generalize cases.addDocument location d = result at outcome ⊢
      cases outcome with
      | added quiet => exact absurd hrepeats.offends (quiet i)
      | unnamed hbefore hstep hid =>
        obtain rfl := same hbefore ⟨_, hstep, fun id hid' => nomatch hid.symm.trans hid'⟩
        have := hrepeats.1
        rw [hstep, Option.bind_some, hid] at this
        cases this
      | repeated hbefore h =>
        obtain rfl := same hbefore h.offends
        obtain ⟨rfl, rfl⟩ := h.unique before hrepeats
        rfl

/-! ## Documents one after the other -/

/-- **The cases are the steps of the documents**, no id is there twice, and every step has
one.

This is a statement about all that was loaded, and the documents in it are only those that
were accepted: a document that was refused has left no step behind. That each step has an
id is what makes the list of ids as long as that of the steps. -/
structure Holds (cases : CaseIndex) (docs : List (String × Document)) : Prop where
  /-- The cases are what the steps become. -/
  entries : cases.entries =
    docs.flatMap fun doc => entriesOf doc.1 (configOf? doc.2) (stepsOf doc.2)
  /-- No id is there twice. -/
  nodup : cases.ids.Nodup
  /-- Every step has an id. -/
  named : ∀ doc ∈ docs, ∀ step ∈ stepsOf doc.2, idOf? step ≠ none

theorem holds_empty : Holds .empty [] := ⟨rfl, List.nodup_nil, nofun⟩

/-- If no step offends, no id comes up twice. -/
theorem nodup_of_not_offends (h : cases.ids.Nodup) (quiet : ∀ i, ¬ cases.Offends steps i) :
    (cases.ids ++ steps.filterMap idOf?).Nodup := by
  have upTo : ∀ n, (cases.ids ++ (steps.take n).filterMap idOf?).Nodup := by
    intro n
    induction n with
    | zero => simpa using h
    | succ n ih =>
      rw [List.take_add_one, List.filterMap_append, ← List.append_assoc]
      cases hstep : steps[n]? with
      | none => simpa using ih
      | some step =>
        cases hid : idOf? step with
        | none => simpa [hid] using ih
        | some id =>
          have free : id ∉ cases.ids ++ (steps.take n).filterMap idOf? := fun htaken =>
            quiet n ⟨step, hstep, fun id' hid' =>
              Option.some.inj (hid.symm.trans hid') ▸ htaken⟩
          rw [Option.toList_some, List.filterMap_cons_some hid, List.filterMap_nil]
          exact List.nodup_append_comm.mp (List.nodup_cons.mpr ⟨free, ih⟩)
  simpa using upTo steps.length

/-- **A document that is accepted is one more.** None of its steps offends, so their ids
are new and different from each other, and every one of them becomes an entry. -/
theorem Holds.add {docs : List (String × Document)} {doc : String × Document}
    {cases' : CaseIndex} (h : cases.Holds docs)
    (hadd : cases.addDocument doc.1 doc.2 = .ok cases') : cases'.Holds (docs ++ [doc]) := by
  obtain ⟨quiet, rfl⟩ := exists_of_addDocument hadd
  refine ⟨?_, ?_, ?_⟩
  · rw [List.flatMap_append, List.flatMap_singleton, ← h.entries]
    rfl
  · rw [ids_adding]
    exact nodup_of_not_offends h.nodup quiet
  · intro other hother step hstep hid
    rcases List.mem_append.mp hother with hother | hother
    · exact h.named other hother step hstep hid
    · obtain rfl := List.mem_singleton.mp hother
      obtain ⟨i, hi⟩ := List.getElem?_of_mem hstep
      exact quiet i ⟨step, hi, fun id hid' => nomatch hid.symm.trans hid'⟩

/-- In cases without repetitions a case is found exactly if it is there. -/
theorem find?_eq_some_iff (h : cases.ids.Nodup) :
    cases.find? id = some entry ↔ entry ∈ cases.entries ∧ entry.caseId = id := by
  refine ⟨fun hfind => ⟨List.mem_of_find?_eq_some hfind, caseId_of_find? hfind⟩, ?_⟩
  rintro ⟨hmem, rfl⟩
  have there : (cases.find? entry.caseId).isSome :=
    (cases.contains_iff_mem_ids _).mpr (List.mem_map_of_mem hmem)
  obtain ⟨other, hother⟩ := Option.isSome_iff_exists.mp there
  rw [hother, List.inj_on_of_nodup_map h (List.mem_of_find?_eq_some hother) hmem
    (caseId_of_find? hother)]

/-- The ids are those of the steps of the documents, in their order. -/
theorem Holds.ids {docs : List (String × Document)} (h : cases.Holds docs) :
    cases.ids.map some = docs.flatMap fun doc => (stepsOf doc.2).map idOf? := by
  rw [CaseIndex.ids, h.entries, List.map_flatMap, List.map_flatMap]
  refine List.flatMap_congr fun doc hdoc => ?_
  rw [map_caseId_entriesOf, List.map_filterMap_some_eq_filter_map_isSome]
  refine List.filter_eq_self.mpr fun id? hid => ?_
  obtain ⟨step, hstep, rfl⟩ := List.mem_map.mp hid
  exact Option.isSome_iff_ne_none.mpr (h.named doc hdoc step hstep)

/-- What is found under an id is the step whose `case_id` is the id, with the location
and the configuration of its document, and its own location. -/
theorem Holds.finds {docs : List (String × Document)} (h : cases.Holds docs) :
    cases.find? id = some entry ↔
      ∃ doc ∈ docs, ∃ i step, (stepsOf doc.2)[i]? = some step
        ∧ step.get? "case_id" = some (.text id)
        ∧ entry = ⟨id, doc.1, stepLocation doc.1 i, configOf? doc.2, step⟩ := by
  rw [find?_eq_some_iff h.nodup, h.entries, List.mem_flatMap]
  constructor
  · rintro ⟨⟨doc, hdoc, hmem⟩, rfl⟩
    obtain ⟨i, step, caseId, hstep, hid, rfl⟩ := mem_entriesOf_iff.mp hmem
    exact ⟨doc, hdoc, i, step, hstep, text_of_idOf? hid, rfl⟩
  · rintro ⟨doc, hdoc, i, step, hstep, htext, rfl⟩
    refine ⟨⟨doc, hdoc, mem_entriesOf_iff.mpr ⟨i, step, id, hstep, ?_, rfl⟩⟩, rfl⟩
    obtain ⟨caseId, hid⟩ := Option.ne_none_iff_exists'.mp
      (h.named doc hdoc step (List.mem_of_getElem? hstep))
    have same := (text_of_idOf? hid).symm.trans htext
    cases same
    exact hid

end CaseIndex

end CaseRunner
