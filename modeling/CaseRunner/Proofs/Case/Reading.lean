import CaseRunner.Case.Dependency
import CaseRunner.Case.Step
import CaseRunner.Proofs.Computation
import CaseRunner.Proofs.Document.Ascending

/-!
# What is read of references

Which cases a step needs is found out twice: from the document, as far as this names cases
at the places of references (`referencedIds`), and from the typed setup actions, which are
the ones that are done (`Step.needs`). A document may hold things at those places that are
no references; but then it is no step. So where there is a step, the two agree.

The first way is lenient and the second one strict. It has to be so, as circles are looked
for in steps that have not been read yet, some of which are not read at all in the end. A
lenient reader that found less than the strict one would let a circle through.

What is known of the strict readers is known by what they accept: each lemma begins with a
document that was read and says what it was. Nothing is said here of documents that are
refused.
-/

namespace CaseRunner

/-- The ids of the cases that a setup action runs. -/
def SetupAction.needs : SetupAction → List String
  | .testcase references => references.toList.map (·.caseId)
  | _ => []

/-- The ids of the cases that the setup of a step runs, in order, as often as they are
named there. -/
def Step.needs (step : Step) : List String := step.setup.flatMap (·.needs)

/-! ## Readers in general -/

/-- A document is a name, or a mapping with one name and what comes with it. These are the
two ways to write a choice, with and without something to go with it. -/
theorem Document.named_eq_ok_iff {d : Document} {name : String} {payload? : Option Document} :
    d.named = .ok (name, payload?) ↔
      d = .text name ∧ payload? = none
        ∨ ∃ payload, d = .mapping [(name, payload)] ∧ payload? = some payload := by
  cases d with
  | null | bool | number | list => simp [named]
  | text s => simp [named, eq_comm]
  | mapping fields =>
    match fields with
    | [] => simp [named]
    | [(s, payload)] => simp [named, eq_comm, and_assoc]
    | _ :: _ :: _ => simp [named]

namespace Schema

theorem text_eq_ok_iff {d : Document} {s : String} : text d = .ok s ↔ d = .text s := by
  cases d <;> simp [text, mismatch, Source.text?, Document.text?]

/-- What is read in one of two ways is read in the first or in the second. -/
theorem of_either {α : Type} {type : String}
    {first second : Document → Except ReadFault α} {d : Document} {a : α}
    (h : either type first second d = .ok a) :
    first d = .ok a ∨ second d = .ok a := by
  unfold either at h
  cases hf : first d with
  | ok b => rw [hf] at h; exact .inl h
  | error e =>
    rw [hf] at h
    cases hs : second d with
    | ok b => rw [hs] at h; exact .inr h
    | error e' => rw [hs] at h; cases h

theorem of_list {α : Type} {read : Document → Except ReadFault α} {d : Document}
    {as : List α} (h : list read d = .ok as) :
    ∃ items, d = .list items ∧ items.mapM read = .ok as := by
  cases d with
  | list items => exact ⟨items, rfl, h⟩
  | null | bool | number | text | mapping => cases h

/-- What is read as one of several kinds is a mapping with the name of the kind, and what
stands under the name is read as this kind. Which kinds there are is a list, so that the
lemma is the same for all choices. -/
theorem of_tagged {α : Type} {readers : List (String × (Document → Except ReadFault α))}
    {d : Document} {a : α} (h : tagged readers d = .ok a) :
    ∃ name payload read, d = .mapping [(name, payload)] ∧ readers.lookup name = some read
      ∧ read payload = .ok a := by
  obtain ⟨⟨name, payload?⟩, hn, hread⟩ := bind_eq_ok_iff.mp h
  dsimp only at hread
  cases hl : readers.lookup name with
  | none => rw [hl] at hread; cases hread
  | some read =>
    rw [hl] at hread
    cases payload? with
    | none => cases hread
    | some payload =>
      rcases Document.named_eq_ok_iff.mp hn with ⟨-, hnone⟩ | ⟨payload', rfl, hsome⟩
      · cases hnone
      · cases hsome
        exact ⟨name, payload, read, rfl, hl, hread⟩

end Schema

/-! ## References -/

namespace CaseReference

/-- Only the member `case_id` says what the id is. -/
theorem id_of_set {a b : String × Option String × Option String} {field : String}
    {d : Document} (h : record.set a field d = .ok b) (hf : field ≠ "case_id") :
    b.1 = a.1 := by
  unfold record at h
  dsimp only at h
  split at h
  · exact absurd rfl hf
  · obtain ⟨v, -, rfl⟩ := map_eq_ok_iff.mp h; rfl
  · obtain ⟨v, -, rfl⟩ := map_eq_ok_iff.mp h; rfl
  · cases h; rfl

/-- The id that is read from members is the text under `case_id`, if there is
one. -/
theorem id_of_members {members : Fields} {a b : String × Option String × Option String}
    (hr : record.repeated? members = none)
    (h : members.foldlM
      (fun a (field, s) =>
        if record.knows field then record.set a field s else return a) a = .ok b) :
    match Document.field? "case_id" members with
    | some d => d = .text b.1
    | none => b.1 = a.1 := by
  induction members generalizing a with
  | nil => cases h; rfl
  | cons m rest ih =>
    obtain ⟨name, d⟩ := m
    unfold Schema.Record.repeated? at hr
    split at hr
    · cases hr
    next hnot =>
    rw [List.foldlM_cons] at h
    obtain ⟨c, hc, h⟩ := bind_eq_ok_iff.mp h
    dsimp only at hc
    have later := ih hr h
    unfold Document.field?
    have known : record.knows "case_id" = true := by decide
    by_cases hn : name = "case_id"
    · subst hn
      rw [known, Bool.true_and, Bool.not_eq_true] at hnot
      rw [Document.field?_eq_none_iff.mpr hnot] at later
      rw [if_pos known] at hc
      obtain ⟨v, hv, rfl⟩ := map_eq_ok_iff.mp hc
      rw [if_pos rfl, Schema.text_eq_ok_iff.mp hv, later]
    · have hkept : c.1 = a.1 := by
        split at hc
        · exact id_of_set hc hn
        · cases hc; rfl
      rw [if_neg hn, ← hkept]
      exact later

/-- **A reference that is read is one reference, with one id.** It may be written as a
text, as a mapping or as a list of the fields; the lenient reader looks at all three, and
finds the same text in each. -/
theorem referenceIds_of_read {d : Document} {reference : CaseReference}
    (h : read d = .ok reference) : referenceIds d = [reference.caseId] := by
  rcases Schema.of_either h with h | h
  · obtain ⟨id, hid, rfl⟩ := map_eq_ok_iff.mp h
    rw [Schema.text_eq_ok_iff.mp hid]
    rfl
  · obtain ⟨r, hr, rfl⟩ := map_eq_ok_iff.mp h
    cases d with
    | null | bool | number | text | list => cases hr
    | mapping fields =>
      change record.ofMembers fields = .ok r at hr
      unfold Schema.Record.ofMembers at hr
      cases hrep : record.repeated? fields with
      | some field => rw [hrep] at hr; cases hr
      | none =>
        rw [hrep] at hr
        obtain ⟨a, ha, hr⟩ := bind_eq_ok_iff.mp hr
        have found := id_of_members hrep ha
        cases hf : Document.field? "case_id" fields with
        | some d =>
          rw [hf] at found
          have hr : a = r := by
            split at hr
            · cases hr
            · exact Except.ok.inj hr
          subst hr found
          simp only [referenceIds, hf]
          rfl
        | none =>
          have hmissing := Document.field?_eq_none_iff.mp hf
          simp [record, hmissing] at hr

/-- The references of a list that is read are the references of its items. -/
theorem referenceIds_of_mapM {ds : List Document} {references : List CaseReference}
    (h : ds.mapM read = .ok references) :
    referenceIdsOfItems ds = references.map (·.caseId) := by
  induction ds generalizing references with
  | nil => cases h; rfl
  | cons d ds ih =>
    rw [List.mapM_cons] at h
    obtain ⟨reference, hd, h⟩ := bind_eq_ok_iff.mp h
    obtain ⟨rest, hds, h⟩ := bind_eq_ok_iff.mp h
    cases h
    rw [referenceIdsOfItems, referenceIds_of_read hd, ih hds]
    rfl

end CaseReference

/-! ## Actions and steps -/

/-- The ids that the document of a setup action names. The document may be anything; where
there is nothing to be found there are no ids. -/
def actionIds (a : Document) : List String := ((a.get? "testcase").map referenceIds).getD []

/-- What a setup action runs stands under `testcase`. An action of another kind has another
name there, and since a mapping that is read as an action has only one name, nothing stands
under `testcase` then. -/
theorem SetupAction.needs_of_read {d : Document} {action : SetupAction}
    (h : read d = .ok action) :
    action.needs = actionIds d := by
  obtain ⟨name, payload, reader, rfl, hl, h⟩ := Schema.of_tagged h
  show _ = ((if name = "testcase" then some payload else none).map referenceIds).getD []
  repeat rw [List.lookup_cons] at hl
  split at hl
  next hname =>
    rw [if_pos (beq_iff_eq.mp hname)]
    cases hl
    obtain ⟨references, hr, rfl⟩ := map_eq_ok_iff.mp h
    rcases Schema.of_either hr with hr | hr
    · obtain ⟨reference, hone, rfl⟩ := map_eq_ok_iff.mp hr
      exact (CaseReference.referenceIds_of_read hone).symm
    · obtain ⟨references, hmany, rfl⟩ := map_eq_ok_iff.mp hr
      obtain ⟨items, rfl, hitems⟩ := Schema.of_list hmany
      exact (CaseReference.referenceIds_of_mapM hitems).symm
  next hname =>
    rw [if_neg (beq_eq_false_iff_ne.mp hname)]
    -- the other actions run no case
    split at hl
    · cases hl
      obtain ⟨_, -, rfl⟩ := map_eq_ok_iff.mp h
      rfl
    split at hl
    · cases hl
      obtain ⟨_, -, rfl⟩ := map_eq_ok_iff.mp h
      rfl
    split at hl
    · cases hl
      obtain ⟨_, -, rfl⟩ := map_eq_ok_iff.mp h
      rfl
    · cases hl

/-- What a field of a step is read from. -/
theorem Step.of_field? {α : Type} {read : Document → Except ReadFault α}
    {fields : Fields} {name location : String} {a? : Option α}
    (h : field? read fields name location = .ok a?) :
    (a? = none
        ∧ (Document.field? name fields = none ∨ Document.field? name fields = some .null))
      ∨ ∃ d a, Document.field? name fields = some d ∧ read d = .ok a ∧ a? = some a := by
  unfold field? at h
  split at h
  next hf => cases h; exact .inl ⟨rfl, .inl hf⟩
  next hf => cases h; exact .inl ⟨rfl, .inr hf⟩
  next d _ hf =>
    obtain ⟨a, ha, rfl⟩ := map_eq_ok_iff.mp (mapError_eq_ok_iff.mp h)
    exact .inr ⟨d, a, hf, ha, rfl⟩

/-- The items of the list under a name; none where there is no list. -/
def Document.itemsOf (d : Document) (name : String) : List Document :=
  match d.get? name with
  | some (.list items) => items
  | _ => []

theorem referencedIds_eq_flatMap (d : Document) :
    referencedIds d = (d.itemsOf "setup").flatMap actionIds := by
  unfold referencedIds Document.itemsOf
  cases d.get? "setup" with
  | none => rfl
  | some given => cases given <;> rfl

/-- **What a step is read from**: its id stands under `case_id`, and its setup actions are
read one by one from the items under `setup`. Of everything else that is read of a step
nothing is needed. -/
theorem Step.exists_of_read {d : Document} {location : String} {step : Step}
    (h : read d location = .ok step) :
    d.get? "case_id" = some (.text step.caseId)
      ∧ List.Forall₂ (fun a action => SetupAction.read a = .ok action) (d.itemsOf "setup")
          step.setup := by
  unfold read at h
  cases d with
  | null | bool | number | text | list => cases h
  | mapping fields =>
    obtain ⟨caseId?, hid, h⟩ := bind_eq_ok_iff.mp h
    rcases of_field? hid with ⟨rfl, -⟩ | ⟨d, caseId, hd, hread, rfl⟩
    · cases h
    dsimp only at h
    split at h
    next request hrequest =>
      obtain ⟨name, -, h⟩ := bind_eq_ok_iff.mp h
      obtain ⟨description, -, h⟩ := bind_eq_ok_iff.mp h
      obtain ⟨isRun, -, h⟩ := bind_eq_ok_iff.mp h
      obtain ⟨setup?, hsetup, h⟩ := bind_eq_ok_iff.mp h
      obtain ⟨teardown, -, h⟩ := bind_eq_ok_iff.mp h
      obtain ⟨allure, -, h⟩ := bind_eq_ok_iff.mp h
      cases h
      refine ⟨by rw [Document.get?, hd, Schema.text_eq_ok_iff.mp hread], ?_⟩
      unfold Document.itemsOf
      rw [show (Document.mapping fields).get? "setup"
        = Document.field? "setup" fields from rfl]
      rcases of_field? hsetup with ⟨rfl, hs | hs⟩ | ⟨d, actions, hs, hactions, rfl⟩
      · rw [hs]
        exact .nil
      · rw [hs]
        exact .nil
      · obtain ⟨items, rfl, hitems⟩ := Schema.of_list hactions
        rw [hs]
        exact mapM_eq_ok_iff.mp hitems
    · cases h

/-- Lists that make the same item by item make the same. -/
theorem flatMap_eq_of_forall₂ {α β γ : Type} {f : α → List γ} {g : β → List γ} {as : List α}
    {bs : List β} (h : List.Forall₂ (fun a b => f a = g b) as bs) :
    as.flatMap f = bs.flatMap g := by
  induction h with
  | nil => rfl
  | cons hab _ ih => rw [List.flatMap_cons, List.flatMap_cons, hab, ih]

/-- **A step needs the cases that its document names**, and carries its id. By going
through the items of the setup side by side with the actions that are read from them. -/
theorem Step.of_read {d : Document} {location : String} {step : Step}
    (h : read d location = .ok step) :
    d.get? "case_id" = some (.text step.caseId) ∧ step.needs = referencedIds d := by
  obtain ⟨hid, hsetup⟩ := exists_of_read h
  refine ⟨hid, ?_⟩
  rw [referencedIds_eq_flatMap, needs]
  exact (flatMap_eq_of_forall₂ (hsetup.imp fun _ _ hread =>
    (SetupAction.needs_of_read hread).symm)).symm

end CaseRunner
