import CaseRunner.Proofs.Document.Alike

/-!
# Which texts of a document are visited

Not every text of a document is visited when its texts are replaced: some members are left
alone, with all they hold. The visits are listed here with their places, so that it can be
said of the visits alone what replacing the texts comes to: whether two passes over a
document give it back (`restores_iff`).

The list is made by the same recursion as the walk and has no other purpose than to name
what the walk comes by. A statement about a document and a visit turns into one about the
members of a list, which can be put without any recursion, and so can be read.
-/

namespace CaseRunner

namespace Document

mutual

/-- **The texts of a document that are visited**, with their places, in the order of
visits. The places are those of the texts in the document, from the inside out, as they
stand in the messages about them. -/
def visits (skip : Place → String → Bool) (place : Place) : Document → List (Place × String)
  | .text s => [(place, s)]
  | .list items => itemVisits skip place 0 items
  | .mapping fields => fieldVisits skip place fields
  | _ => []

/-- The visits to the items of a list from an index on. -/
def itemVisits (skip : Place → String → Bool) (place : Place) (i : Nat) :
    List Document → List (Place × String)
  | [] => []
  | d :: rest => visits skip (.index i :: place) d ++ itemVisits skip place (i + 1) rest

/-- The visits to the members of a mapping. -/
def fieldVisits (skip : Place → String → Bool) (place : Place) :
    Fields → List (Place × String)
  | [] => []
  | (name, d) :: rest =>
    (if skip place name then [] else visits skip (.key name :: place) d)
      ++ fieldVisits skip place rest

end

mutual

/-- What is visited is a text of the document. -/
theorem mem_leaves_of_mem_visits {skip : Place → String → Bool} {v : Place × String}
    (place : Place) : (d : Document) → v ∈ visits skip place d → v.2 ∈ leaves d
  | .null, h | .bool _, h | .number _, h => nomatch h
  | .text s, h => by
    obtain rfl := List.mem_singleton.mp h
    exact List.mem_singleton_self s
  | .list ds, h => mem_itemLeaves_of_mem_itemVisits place 0 ds h
  | .mapping fs, h => mem_fieldLeaves_of_mem_fieldVisits place fs h

theorem mem_itemLeaves_of_mem_itemVisits {skip : Place → String → Bool} {v : Place × String}
    (place : Place) (i : Nat) : (ds : List Document) → v ∈ itemVisits skip place i ds →
      v.2 ∈ itemLeaves ds
  | [], h => nomatch h
  | d :: ds, h => by
    rcases List.mem_append.mp h with h | h
    · exact List.mem_append_left _ (mem_leaves_of_mem_visits _ d h)
    · exact List.mem_append_right _ (mem_itemLeaves_of_mem_itemVisits place _ ds h)

theorem mem_fieldLeaves_of_mem_fieldVisits {skip : Place → String → Bool}
    {v : Place × String} (place : Place) : (fs : Fields) → v ∈ fieldVisits skip place fs →
      v.2 ∈ fieldLeaves fs
  | [], h => nomatch h
  | (name, d) :: fs, h => by
    rcases List.mem_append.mp h with h | h
    · split at h
      · cases h
      · exact List.mem_append_left _ (mem_leaves_of_mem_visits _ d h)
    · exact List.mem_append_right _ (mem_fieldLeaves_of_mem_fieldVisits place fs h)

end

/-! ## Visits without a state -/

section Settled

variable {ε σ : Type} {skip : Place → String → Bool}
  {visit : Place → String → ExceptT ε (StateM σ) String}
  {visit' : Place → String → Except ε String}

mutual

/-- **Visits that always answer the same** can do without their state. The state of such a
visit may be anything, such as what was looked up already; the walk answers as if each text
were visited anew. -/
theorem answers_replaceTexts (hv : ∀ place s, Answers (visit place s) (visit' place s))
    (place : Place) : (d : Document) →
      Answers (replaceTexts skip visit place d) (replaceTexts skip visit' place d)
  | .null => Answers.pure _
  | .bool _ => Answers.pure _
  | .number _ => Answers.pure _
  | .text s => (hv place s).bind fun _ => Answers.pure _
  | .list ds => (answers_replaceItemTexts hv place 0 ds).bind fun _ => Answers.pure _
  | .mapping fs => (answers_replaceFieldTexts hv place fs).bind fun _ => Answers.pure _

theorem answers_replaceItemTexts (hv : ∀ place s, Answers (visit place s) (visit' place s))
    (place : Place) (i : Nat) : (ds : List Document) →
      Answers (replaceItemTexts skip visit place i ds) (replaceItemTexts skip visit' place i ds)
  | [] => Answers.pure _
  | d :: ds => (answers_replaceTexts hv _ d).bind fun _ =>
    (answers_replaceItemTexts hv place (i + 1) ds).bind fun _ => Answers.pure _

theorem answers_replaceFieldTexts (hv : ∀ place s, Answers (visit place s) (visit' place s))
    (place : Place) : (fs : Fields) →
      Answers (replaceFieldTexts skip visit place fs) (replaceFieldTexts skip visit' place fs)
  | [] => Answers.pure _
  | (name, d) :: fs => by
    rw [replaceFieldTexts, replaceFieldTexts]
    split
    · exact (Answers.pure d).bind fun _ =>
        (answers_replaceFieldTexts hv place fs).bind fun _ => Answers.pure _
    · exact (answers_replaceTexts hv _ d).bind fun _ =>
        (answers_replaceFieldTexts hv place fs).bind fun _ => Answers.pure _

end

end Settled

/-! ## What all texts have in common -/

section Everywhere

variable {ε : Type} {P : String → Prop} {visit : Place → String → Except ε String}

mutual

/-- **Where every visit gives a text with a property**, all texts of the document have it.
All texts are visited here, and none is left alone. -/
theorem forall_leaves_of_replaceTexts (hv : ∀ place s t, visit place s = .ok t → P t)
    (place : Place) : (d : Document) → {e : Document} →
      replaceTexts (fun _ _ => false) visit place d = .ok e → ∀ s ∈ leaves e, P s
  | .null, _, h | .bool _, _, h | .number _, _, h => by
    cases h
    exact nofun
  | .text s, _, h => by
    obtain ⟨t, ht, h⟩ := bind_eq_ok_iff.mp h
    cases h
    exact List.forall_mem_singleton.mpr (hv place s t ht)
  | .list ds, _, h => by
    obtain ⟨es, hes, h⟩ := bind_eq_ok_iff.mp h
    cases h
    exact forall_itemLeaves_of_replaceItemTexts hv place 0 ds hes
  | .mapping fs, _, h => by
    obtain ⟨gs, hgs, h⟩ := bind_eq_ok_iff.mp h
    cases h
    exact forall_fieldLeaves_of_replaceFieldTexts hv place fs hgs

theorem forall_itemLeaves_of_replaceItemTexts
    (hv : ∀ place s t, visit place s = .ok t → P t) (place : Place) (i : Nat) :
    (ds : List Document) → {es : List Document} →
      replaceItemTexts (fun _ _ => false) visit place i ds = .ok es → ∀ s ∈ itemLeaves es, P s
  | [], _, h => by
    cases h
    exact nofun
  | d :: ds, _, h => by
    obtain ⟨e, he, h⟩ := bind_eq_ok_iff.mp h
    obtain ⟨es, hes, h⟩ := bind_eq_ok_iff.mp h
    cases h
    exact List.forall_mem_append.mpr ⟨forall_leaves_of_replaceTexts hv _ d he,
      forall_itemLeaves_of_replaceItemTexts hv place _ ds hes⟩

theorem forall_fieldLeaves_of_replaceFieldTexts
    (hv : ∀ place s t, visit place s = .ok t → P t) (place : Place) :
    (fs : Fields) → {gs : Fields} →
      replaceFieldTexts (fun _ _ => false) visit place fs = .ok gs → ∀ s ∈ fieldLeaves gs, P s
  | [], _, h => by
    cases h
    exact nofun
  | (name, d) :: fs, _, h => by
    obtain ⟨e, he, h⟩ := bind_eq_ok_iff.mp h
    obtain ⟨gs, hgs, h⟩ := bind_eq_ok_iff.mp h
    cases h
    exact List.forall_mem_append.mpr ⟨forall_leaves_of_replaceTexts hv _ d he,
      forall_fieldLeaves_of_replaceFieldTexts hv place fs hgs⟩

end

/-- Where every visit gives back what it is to, the document stays. -/
theorem replaceTexts_of_fixed {d : Document} (place : Place)
    (h : ∀ place, ∀ s ∈ leaves d, visit place s = .ok s) :
    replaceTexts (fun _ _ => false) visit place d = .ok d := by
  have same : replaceTexts (fun _ _ => false) (fun _ s => Except.ok s) place d
      = (.ok d : Except ε Document) :=
    (replaceTexts_eq_ok_iff (R := Eq) (fun _ _ _ => by simp) place d d).mpr (.refl Eq.refl d)
  refine replaceTexts_of_agree place d same fun place s hs t ht => ?_
  cases ht
  exact h place s hs

end Everywhere

/-! ## Two passes -/

section Twice

variable {ε : Type} {skip : Place → String → Bool}
  {first second : Place → String → Except ε String}

/-- A member is visited or left alone, and then those after it. -/
theorem replaceFieldTexts_cons_eq_ok_iff {place : Place} {name : String} {d : Document}
    {fs gs : Fields} : replaceFieldTexts skip first place ((name, d) :: fs) = .ok gs ↔
      ∃ e, (if skip place name then .ok d
          else replaceTexts skip first (.key name :: place) d) = .ok e
        ∧ ∃ es, replaceFieldTexts skip first place fs = .ok es ∧ gs = (name, e) :: es := by
  have rest (e : Document) : (do
      return (name, e) :: (← replaceFieldTexts skip first place fs) : Except ε Fields) = .ok gs ↔
        ∃ es, replaceFieldTexts skip first place fs = .ok es ∧ gs = (name, e) :: es := by
    refine bind_eq_ok_iff.trans (exists_congr fun es => and_congr_right fun _ => ?_)
    exact ⟨fun h => (Except.ok.inj h).symm, fun h => congrArg Except.ok h.symm⟩
  rw [replaceFieldTexts]
  split
  · exact bind_eq_ok_iff.trans (exists_congr fun e => and_congr_right fun _ => rest e)
  · exact bind_eq_ok_iff.trans (exists_congr fun e => and_congr_right fun _ => rest e)

mutual

/-- **Two passes give a document back** exactly if they give back each text that the first
one visits, where the second one, which visits all, gives back those that it finds
unchanged.

The texts that the first pass leaves alone are visited by the second one all the same,
which is what the hypothesis is for. A pass may come to give back a text although it has
changed it in between; therefore the condition speaks of the text in the middle. -/
theorem restores_iff (place : Place) : (d : Document) →
    (∀ place, ∀ s ∈ leaves d, second place s = .ok s) →
    ((∃ e, replaceTexts skip first place d = .ok e
        ∧ replaceTexts (fun _ _ => false) second place e = .ok d)
      ↔ ∀ v ∈ visits skip place d, ∃ t, first v.1 v.2 = .ok t ∧ second v.1 t = .ok v.2)
  | .null, _ | .bool _, _ | .number _, _ => ⟨fun _ => nofun, fun _ => ⟨_, rfl, rfl⟩⟩
  | .text s, _ => by
    rw [visits, List.forall_mem_singleton]
    constructor
    · rintro ⟨e, he, h⟩
      obtain ⟨t, ht, he⟩ := bind_eq_ok_iff.mp he
      cases he
      obtain ⟨u, hu, h⟩ := bind_eq_ok_iff.mp h
      cases h
      exact ⟨t, ht, hu⟩
    · rintro ⟨t, ht, hu⟩
      refine ⟨.text t, bind_eq_ok_iff.mpr ⟨t, ht, rfl⟩, ?_⟩
      exact bind_eq_ok_iff.mpr ⟨s, hu, rfl⟩
  | .list ds, fixed => by
    rw [visits, ← restoresItems_iff place 0 ds fixed]
    constructor
    · rintro ⟨e, he, h⟩
      obtain ⟨es, hes, he⟩ := bind_eq_ok_iff.mp he
      cases he
      obtain ⟨ds', hds, h⟩ := bind_eq_ok_iff.mp h
      cases h
      exact ⟨es, hes, hds⟩
    · rintro ⟨es, hes, hds⟩
      refine ⟨.list es, bind_eq_ok_iff.mpr ⟨es, hes, rfl⟩, ?_⟩
      exact bind_eq_ok_iff.mpr ⟨ds, hds, rfl⟩
  | .mapping fs, fixed => by
    rw [visits, ← restoresFields_iff place fs fixed]
    constructor
    · rintro ⟨e, he, h⟩
      obtain ⟨gs, hgs, he⟩ := bind_eq_ok_iff.mp he
      cases he
      obtain ⟨fs', hfs, h⟩ := bind_eq_ok_iff.mp h
      cases h
      exact ⟨gs, hgs, hfs⟩
    · rintro ⟨gs, hgs, hfs⟩
      refine ⟨.mapping gs, bind_eq_ok_iff.mpr ⟨gs, hgs, rfl⟩, ?_⟩
      exact bind_eq_ok_iff.mpr ⟨fs, hfs, rfl⟩

/-- The same for the items of a list, each at its index. -/
theorem restoresItems_iff (place : Place) (i : Nat) : (ds : List Document) →
    (∀ place, ∀ s ∈ itemLeaves ds, second place s = .ok s) →
    ((∃ es, replaceItemTexts skip first place i ds = .ok es
        ∧ replaceItemTexts (fun _ _ => false) second place i es = .ok ds)
      ↔ ∀ v ∈ itemVisits skip place i ds,
          ∃ t, first v.1 v.2 = .ok t ∧ second v.1 t = .ok v.2)
  | [], _ => ⟨fun _ => nofun, fun _ => ⟨[], rfl, rfl⟩⟩
  | d :: ds, fixed => by
    have head := restores_iff (.index i :: place) d
      fun place s hs => fixed place s (List.mem_append_left _ hs)
    have tail := restoresItems_iff place (i + 1) ds
      fun place s hs => fixed place s (List.mem_append_right _ hs)
    rw [itemVisits, List.forall_mem_append, ← head, ← tail]
    constructor
    · rintro ⟨es', hes', h⟩
      obtain ⟨e, he, hes'⟩ := bind_eq_ok_iff.mp hes'
      obtain ⟨es, hes, hes'⟩ := bind_eq_ok_iff.mp hes'
      cases hes'
      obtain ⟨d', hd, h⟩ := bind_eq_ok_iff.mp h
      obtain ⟨ds', hds, h⟩ := bind_eq_ok_iff.mp h
      cases h
      exact ⟨⟨e, he, hd⟩, es, hes, hds⟩
    · rintro ⟨⟨e, he, hd⟩, es, hes, hds⟩
      refine ⟨e :: es, bind_eq_ok_iff.mpr ⟨e, he, bind_eq_ok_iff.mpr ⟨es, hes, rfl⟩⟩, ?_⟩
      exact bind_eq_ok_iff.mpr ⟨d, hd, bind_eq_ok_iff.mpr ⟨ds, hds, rfl⟩⟩

/-- The same for the members of a mapping. A member that is left out has no visit, and
stays as it was. -/
theorem restoresFields_iff (place : Place) : (fs : Fields) →
    (∀ place, ∀ s ∈ fieldLeaves fs, second place s = .ok s) →
    ((∃ gs, replaceFieldTexts skip first place fs = .ok gs
        ∧ replaceFieldTexts (fun _ _ => false) second place gs = .ok fs)
      ↔ ∀ v ∈ fieldVisits skip place fs,
          ∃ t, first v.1 v.2 = .ok t ∧ second v.1 t = .ok v.2)
  | [], _ => ⟨fun _ => nofun, fun _ => ⟨[], rfl, rfl⟩⟩
  | (name, d) :: fs, fixed => by
    have hd : ∀ place, ∀ s ∈ leaves d, second place s = .ok s :=
      fun place s hs => fixed place s (List.mem_append_left _ hs)
    have tail := restoresFields_iff place fs
      fun place s hs => fixed place s (List.mem_append_right _ hs)
    -- what the first pass leaves alone the second one finds unchanged
    have head : (∃ e, (if skip place name then .ok d
          else replaceTexts skip first (.key name :: place) d) = .ok e
        ∧ replaceTexts (fun _ _ => false) second (.key name :: place) e = .ok d)
        ↔ ∀ v ∈ (if skip place name then [] else visits skip (.key name :: place) d),
          ∃ t, first v.1 v.2 = .ok t ∧ second v.1 t = .ok v.2 := by
      split
      · exact ⟨fun _ => nofun, fun _ => ⟨d, rfl, replaceTexts_of_fixed _ hd⟩⟩
      · exact restores_iff (.key name :: place) d hd
    rw [fieldVisits, List.forall_mem_append, ← head, ← tail]
    constructor
    · rintro ⟨gs', hgs', h⟩
      obtain ⟨e, he, gs, hgs, rfl⟩ := replaceFieldTexts_cons_eq_ok_iff.mp hgs'
      obtain ⟨d', hd', fs', hfs, heq⟩ := replaceFieldTexts_cons_eq_ok_iff.mp h
      cases heq
      exact ⟨⟨e, he, hd'⟩, gs, hgs, hfs⟩
    · rintro ⟨⟨e, he, hd'⟩, gs, hgs, hfs⟩
      exact ⟨(name, e) :: gs, replaceFieldTexts_cons_eq_ok_iff.mpr ⟨e, he, gs, hgs, rfl⟩,
        replaceFieldTexts_cons_eq_ok_iff.mpr ⟨d, hd', fs, hfs, rfl⟩⟩

end

end Twice

end Document

end CaseRunner
