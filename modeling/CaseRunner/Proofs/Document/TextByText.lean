import CaseRunner.Proofs.Document.Visits
import Mathlib.Data.List.Forall2

/-!
# Replacing texts one at a time

The texts of a document are replaced in one walk, but each of them could as well be
replaced by itself, in a document that holds nothing else and holds it at the same place
(`Document.at`). The walk comes to what the single texts come to
(`Document.textByText_replaceTexts`): if all of them can be replaced, the document keeps
its shape and has each of them replaced, and otherwise the error is that of the first one
that cannot. Members that are left alone make no exception: their texts are as good as
visited and given back (`Document.replaceTexts_eq_spare`).

A visit may have a state, such as the calls made so far. Then what a text becomes is known
up to the state in which it is visited (`Document.walked_of_replaceTexts`).

What a pass does to a single text can be asked of the pass itself, without a look inside:
it is given the document in which the text is alone. So that a pass works text by text is a
property that any function on documents may have or lack. A pass that counted the texts, or
that let one text depend on another, would lack it.
-/

namespace CaseRunner.Document

/-- **The texts of a document** with their places, in the order of visits. -/
abbrev texts (place : Place) (d : Document) : List (Place × String) :=
  visits (fun _ _ => false) place d

/-- **A document alone at a place**: members without others around it, and items behind
nulls. The nulls are there for the number of the item, which is a part of its place, and
hold no texts. -/
def «at» : Place → Document → Document
  | [], d => d
  | .key name :: outer, d => «at» outer (.mapping [(name, d)])
  | .index i :: outer, d => «at» outer (.list (List.replicate i .null ++ [d]))

/-- Of the same shape, whatever the texts are. -/
abbrev SameShape : Document → Document → Prop := Alike fun _ _ => True

/-! ## Lists of texts -/

section Lists

variable {α β : Type} {R : α → β → Prop}

/-- Lists that are put together from parts of equal lengths go with each other part by
part. -/
theorem forall₂_append_iff {as as' : List α} {bs bs' : List β} (h : as.length = bs.length) :
    List.Forall₂ R (as ++ as') (bs ++ bs') ↔ List.Forall₂ R as bs ∧ List.Forall₂ R as' bs' := by
  induction as generalizing bs with
  | nil =>
    obtain rfl := List.length_eq_zero_iff.mp h.symm
    simp
  | cons a as ih =>
    cases bs with
    | nil => cases h
    | cons b bs =>
      have ih := ih (Nat.succ.inj h)
      simp only [List.cons_append, List.forall₂_cons, ih, and_assoc]

/-- Each member of a list goes with one of the other. -/
theorem exists_right_of_mem {as : List α} {bs : List β} (h : List.Forall₂ R as bs) {a : α}
    (mem : a ∈ as) : ∃ b ∈ bs, R a b := by
  induction h with
  | nil => cases mem
  | @cons a' b as bs related _ ih =>
    rcases List.mem_cons.mp mem with rfl | mem
    · exact ⟨b, List.mem_cons_self, related⟩
    · obtain ⟨c, hc, related⟩ := ih mem
      exact ⟨c, List.mem_cons_of_mem _ hc, related⟩

theorem exists_left_of_mem {as : List α} {bs : List β} (h : List.Forall₂ R as bs) {b : β}
    (mem : b ∈ bs) : ∃ a ∈ as, R a b :=
  exists_right_of_mem h.flip mem

end Lists

mutual

/-- Documents of the same shape have texts at the same places. -/
theorem Alike.places {R : String → String → Prop} (place : Place) : {d e : Document} →
    Alike R d e → (texts place d).map Prod.fst = (texts place e).map Prod.fst
  | _, _, .null | _, _, .bool _ | _, _, .number _ | _, _, .text _ => rfl
  | _, _, .list h => AlikeItems.places place 0 h
  | _, _, .mapping h => AlikeFields.places place h

theorem AlikeItems.places {R : String → String → Prop} (place : Place) (i : Nat) :
    {ds es : List Document} → AlikeItems R ds es →
      (itemVisits (fun _ _ => false) place i ds).map Prod.fst
        = (itemVisits (fun _ _ => false) place i es).map Prod.fst
  | _, _, .nil => rfl
  | _, _, .cons head tail => by
    rw [itemVisits, itemVisits, List.map_append, List.map_append]
    exact congrArg₂ _ (head.places _) (tail.places place (i + 1))

theorem AlikeFields.places {R : String → String → Prop} (place : Place) :
    {fs gs : Fields} → AlikeFields R fs gs →
      (fieldVisits (fun _ _ => false) place fs).map Prod.fst
        = (fieldVisits (fun _ _ => false) place gs).map Prod.fst
  | _, _, .nil => rfl
  | _, _, .cons head tail => by
    rw [fieldVisits, fieldVisits, List.map_append, List.map_append]
    exact congrArg₂ _ (head.places _) (tail.places place)

end

theorem length_of_places {l l' : List (Place × String)} (h : l.map Prod.fst = l'.map Prod.fst) :
    l.length = l'.length := by
  simpa using congrArg List.length h

/-! ## A walk to every text -/

section Walk

variable {ε : Type} {visit : Place → String → Except ε String}

/-- A text becomes what the visit to it gives, at the same place. The lists of texts of two
documents are put side by side with this, so that it is also said that there are as many of
them. -/
def Becomes (visit : Place → String → Except ε String) (v w : Place × String) : Prop :=
  w.1 = v.1 ∧ visit v.1 v.2 = .ok w.2

mutual

/-- **What a walk comes to that succeeds**: a document of the same shape, with each text
become what the visit to it gives. The places are needed besides the shape, as a visit may
depend on them. -/
theorem replaceTexts_eq_ok_iff_texts (place : Place) : (d e : Document) →
    (replaceTexts (fun _ _ => false) visit place d = .ok e ↔
      SameShape d e ∧ List.Forall₂ (Becomes visit) (texts place d) (texts place e))
  | .null, e | .bool _, e | .number _, e => by
    constructor
    · intro h
      cases h
      exact ⟨.refl (fun _ => trivial) _, .nil⟩
    · rintro ⟨h, -⟩
      cases h
      rfl
  | .text s, e => by
    rw [replaceTexts, bind_eq_ok_iff]
    constructor
    · rintro ⟨t, ht, h⟩
      cases h
      exact ⟨.text trivial, .cons ⟨rfl, ht⟩ .nil⟩
    · rintro ⟨h, hall⟩
      cases h with
      | text =>
        cases hall with
        | cons becomes => exact ⟨_, becomes.2, rfl⟩
  | .list ds, e => by
    rw [replaceTexts, bind_eq_ok_iff]
    constructor
    · rintro ⟨es, hes, h⟩
      cases h
      obtain ⟨shape, hall⟩ := (replaceItemTexts_eq_ok_iff_texts place 0 ds es).mp hes
      exact ⟨.list shape, hall⟩
    · rintro ⟨h, hall⟩
      cases h with
      | list shape =>
        exact ⟨_, (replaceItemTexts_eq_ok_iff_texts place 0 ds _).mpr ⟨shape, hall⟩, rfl⟩
  | .mapping fs, e => by
    rw [replaceTexts, bind_eq_ok_iff]
    constructor
    · rintro ⟨gs, hgs, h⟩
      cases h
      obtain ⟨shape, hall⟩ := (replaceFieldTexts_eq_ok_iff_texts place fs gs).mp hgs
      exact ⟨.mapping shape, hall⟩
    · rintro ⟨h, hall⟩
      cases h with
      | mapping shape =>
        exact ⟨_, (replaceFieldTexts_eq_ok_iff_texts place fs _).mpr ⟨shape, hall⟩, rfl⟩

theorem replaceItemTexts_eq_ok_iff_texts (place : Place) (i : Nat) : (ds es : List Document) →
    (replaceItemTexts (fun _ _ => false) visit place i ds = .ok es ↔
      AlikeItems (fun _ _ => True) ds es ∧ List.Forall₂ (Becomes visit)
        (itemVisits (fun _ _ => false) place i ds) (itemVisits (fun _ _ => false) place i es))
  | [], es => by
    constructor
    · intro h
      cases h
      exact ⟨.nil, .nil⟩
    · rintro ⟨h, -⟩
      cases h
      rfl
  | d :: ds, es => by
    rw [replaceItemTexts, bind_eq_ok_iff]
    constructor
    · rintro ⟨e, he, h⟩
      obtain ⟨es, hes, h⟩ := bind_eq_ok_iff.mp h
      cases h
      obtain ⟨shape, hall⟩ := (replaceTexts_eq_ok_iff_texts _ d e).mp he
      obtain ⟨shapes, halls⟩ := (replaceItemTexts_eq_ok_iff_texts place (i + 1) ds es).mp hes
      exact ⟨.cons shape shapes, List.rel_append hall halls⟩
    · rintro ⟨h, hall⟩
      cases h with
      | cons shape shapes =>
        -- at the same places there are as many texts, so that those of the item end alike
        have hlength := length_of_places (shape.places (.index i :: place))
        obtain ⟨head, tail⟩ := (forall₂_append_iff hlength).mp hall
        refine ⟨_, (replaceTexts_eq_ok_iff_texts _ d _).mpr ⟨shape, head⟩, ?_⟩
        exact bind_eq_ok_iff.mpr
          ⟨_, (replaceItemTexts_eq_ok_iff_texts place (i + 1) ds _).mpr ⟨shapes, tail⟩, rfl⟩

theorem replaceFieldTexts_eq_ok_iff_texts (place : Place) : (fs gs : Fields) →
    (replaceFieldTexts (fun _ _ => false) visit place fs = .ok gs ↔
      AlikeFields (fun _ _ => True) fs gs ∧ List.Forall₂ (Becomes visit)
        (fieldVisits (fun _ _ => false) place fs) (fieldVisits (fun _ _ => false) place gs))
  | [], gs => by
    constructor
    · intro h
      cases h
      exact ⟨.nil, .nil⟩
    · rintro ⟨h, -⟩
      cases h
      rfl
  | (name, d) :: fs, gs => by
    rw [replaceFieldTexts_cons_eq_ok_iff]
    constructor
    · rintro ⟨e, he, gs, hgs, rfl⟩
      obtain ⟨shape, hall⟩ := (replaceTexts_eq_ok_iff_texts _ d e).mp he
      obtain ⟨shapes, halls⟩ := (replaceFieldTexts_eq_ok_iff_texts place fs gs).mp hgs
      exact ⟨.cons shape shapes, List.rel_append hall halls⟩
    · rintro ⟨h, hall⟩
      cases h with
      | cons shape shapes =>
        have hlength := length_of_places (shape.places (.key name :: place))
        obtain ⟨head, tail⟩ := (forall₂_append_iff hlength).mp hall
        exact ⟨_, (replaceTexts_eq_ok_iff_texts _ d _).mpr ⟨shape, head⟩, _,
          (replaceFieldTexts_eq_ok_iff_texts place fs _).mpr ⟨shapes, tail⟩, rfl⟩

end

end Walk

/-! ## The first text that fails -/

section First

variable {ε β : Type} {visit : Place → String → Except ε β}

/-- **The first of the visits that fails**: those before it do not. Nothing is said of
those behind it, which were never made. -/
def FailsFirst (visit : Place → String → Except ε β) (l : List (Place × String))
    (v : Place × String) (error : ε) : Prop :=
  (∃ before after, l = before ++ v :: after ∧ ∀ u ∈ before, ∃ t, visit u.1 u.2 = .ok t)
    ∧ visit v.1 v.2 = .error error

theorem not_failsFirst_nil {v : Place × String} {error : ε} : ¬ FailsFirst visit [] v error := by
  rintro ⟨⟨before, after, h, -⟩, -⟩
  simp at h

/-- A place is the first to fail in two lists if it is the first of the one, or the first
of the other and nothing fails in the one. -/
theorem failsFirst_append_iff {l l' : List (Place × String)} {v : Place × String} {error : ε} :
    FailsFirst visit (l ++ l') v error ↔ FailsFirst visit l v error
      ∨ (∀ u ∈ l, ∃ t, visit u.1 u.2 = .ok t) ∧ FailsFirst visit l' v error := by
  constructor
  · rintro ⟨⟨before, after, h, fine⟩, fails⟩
    rcases List.append_eq_append_iff.mp h with ⟨part, rfl, rfl⟩ | ⟨part, rfl, hpart⟩
    · rw [List.forall_mem_append] at fine
      exact .inr ⟨fine.1, ⟨part, after, rfl, fine.2⟩, fails⟩
    · cases part with
      | nil =>
        rw [List.append_nil]
        exact .inr ⟨fine, ⟨[], after, hpart.symm, List.forall_mem_nil _⟩, fails⟩
      | cons u part =>
        obtain ⟨rfl, -⟩ := List.cons.inj hpart
        exact .inl ⟨⟨before, part, rfl, fine⟩, fails⟩
  · rintro (⟨⟨before, after, rfl, fine⟩, fails⟩ | ⟨fine, ⟨before, after, rfl, fine'⟩, fails⟩)
    · exact ⟨⟨before, after ++ l', by rw [List.append_assoc, List.cons_append], fine⟩, fails⟩
    · refine ⟨⟨l ++ before, after, (List.append_assoc ..).symm, ?_⟩, fails⟩
      exact List.forall_mem_append.mpr ⟨fine, fine'⟩

/-- Either no visit fails, or there is a first that does. -/
theorem forall_ok_or_failsFirst (visit : Place → String → Except ε β) :
    (l : List (Place × String)) → (∀ u ∈ l, ∃ t, visit u.1 u.2 = .ok t)
      ∨ ∃ v error, FailsFirst visit l v error
  | [] => .inl (List.forall_mem_nil _)
  | u :: l => by
    cases h : visit u.1 u.2 with
    | error error => exact .inr ⟨u, error, ⟨[], l, rfl, List.forall_mem_nil _⟩, h⟩
    | ok t =>
      rcases forall_ok_or_failsFirst visit l with
        fine | ⟨v, error, ⟨before, after, rfl, fine⟩, fails⟩
      · exact .inl (List.forall_mem_cons.mpr ⟨⟨t, h⟩, fine⟩)
      · refine .inr ⟨v, error, ⟨u :: before, after, rfl, ?_⟩, fails⟩
        exact List.forall_mem_cons.mpr ⟨⟨t, h⟩, fine⟩

theorem FailsFirst.mem {l : List (Place × String)} {v : Place × String} {error : ε}
    (h : FailsFirst visit l v error) : v ∈ l := by
  obtain ⟨⟨before, after, rfl, -⟩, -⟩ := h
  exact List.mem_append_right _ List.mem_cons_self

/-- What succeeds exactly if no visit fails, and fails as the first that does. Said of a
computation and a list of visits, it can be put together part by part, as lists are: what
goes as one list and then as another goes as both in turn. -/
def Goes (visit : Place → String → Except ε β) {α : Type} (x : Except ε α)
    (l : List (Place × String)) : Prop :=
  ∀ error, x = .error error ↔ ∃ v, FailsFirst visit l v error

theorem Goes.isOk_iff {α : Type} {x : Except ε α} {l : List (Place × String)}
    (h : Goes visit x l) : (∃ a, x = .ok a) ↔ ∀ u ∈ l, ∃ t, visit u.1 u.2 = .ok t := by
  constructor
  · rintro ⟨a, rfl⟩
    refine (forall_ok_or_failsFirst visit l).resolve_right ?_
    rintro ⟨v, error, first⟩
    cases (h error).mpr ⟨v, first⟩
  · intro fine
    cases x with
    | ok a => exact ⟨a, rfl⟩
    | error error =>
      obtain ⟨v, first⟩ := (h error).mp rfl
      obtain ⟨t, ht⟩ := fine v first.mem
      rw [first.2] at ht
      cases ht

/-- What cannot fail goes with no visits. -/
theorem Goes.ok {α : Type} (a : α) : Goes visit (.ok a) [] := by
  refine fun error => ⟨nofun, ?_⟩
  rintro ⟨v, first⟩
  exact absurd first not_failsFirst_nil

/-- Visits in turn go as those of the first part and then those of the second. -/
theorem Goes.bind {α γ : Type} {x : Except ε α} {f : α → Except ε γ}
    {l l' : List (Place × String)} (hx : Goes visit x l) (hf : ∀ a, Goes visit (f a) l') :
    Goes visit (x >>= f) (l ++ l') := by
  intro error
  rw [bind_eq_error_iff, hx error]
  simp only [failsFirst_append_iff, exists_or, exists_and_left, ← hx.isOk_iff]
  refine or_congr_right ⟨?_, ?_⟩
  · rintro ⟨a, ha, h⟩
    exact ⟨⟨a, ha⟩, (hf a error).mp h⟩
  · rintro ⟨⟨a, ha⟩, first⟩
    exact ⟨a, ha, (hf a error).mpr first⟩

/-- A last step that cannot fail changes nothing. -/
theorem Goes.bind_pure {α γ : Type} {x : Except ε α} {f : α → γ} {l : List (Place × String)}
    (hx : Goes visit x l) : Goes visit (x >>= fun a => pure (f a)) l := by
  have last (a : α) : Goes visit (pure (f a) : Except ε γ) [] := .ok (f a)
  simpa using hx.bind last

end First

section Walk

variable {ε : Type} {visit : Place → String → Except ε String}

mutual

/-- **A walk fails as the first visit that does**, and succeeds if none does. The cases are
those of documents, and each of them is one of the ways of putting such computations
together. -/
theorem goes_replaceTexts (place : Place) : (d : Document) →
    Goes visit (replaceTexts (fun _ _ => false) visit place d) (texts place d)
  | .null | .bool _ | .number _ => .ok _
  | .text s => by
    rw [texts, visits]
    refine Goes.bind_pure fun error => ⟨fun h => ?_, ?_⟩
    · exact ⟨(place, s), ⟨[], [], rfl, List.forall_mem_nil _⟩, h⟩
    · rintro ⟨v, first⟩
      obtain rfl := List.mem_singleton.mp first.mem
      exact first.2
  | .list ds => (goes_replaceItemTexts place 0 ds).bind_pure
  | .mapping fs => (goes_replaceFieldTexts place fs).bind_pure

theorem goes_replaceItemTexts (place : Place) (i : Nat) : (ds : List Document) →
    Goes visit (replaceItemTexts (fun _ _ => false) visit place i ds)
      (itemVisits (fun _ _ => false) place i ds)
  | [] => .ok _
  | d :: ds => (goes_replaceTexts _ d).bind fun _ =>
    (goes_replaceItemTexts place (i + 1) ds).bind_pure

theorem goes_replaceFieldTexts (place : Place) : (fs : Fields) →
    Goes visit (replaceFieldTexts (fun _ _ => false) visit place fs)
      (fieldVisits (fun _ _ => false) place fs)
  | [] => .ok _
  | (_, d) :: fs => (goes_replaceTexts _ d).bind fun _ =>
    (goes_replaceFieldTexts place fs).bind_pure

end

end Walk

/-! ## Texts left alone -/

section Spared

variable {ε : Type} {skip : Place → String → Bool} {visit : Place → String → Except ε String}

/-- **A place is left alone** if it is, or lies in, a member that is. -/
def Place.skipped (skip : Place → String → Bool) : Place → Bool
  | [] => false
  | .key name :: outer => skip outer name || skipped skip outer
  | .index _ :: outer => skipped skip outer

/-- A visit to the texts that are not left alone, which gives back the others. It asks of
each text whether it lies in a member that is left alone, where the walk asks this once for
the member. -/
def spare (skip : Place → String → Bool) (visit : Place → String → Except ε String)
    (place : Place) (s : String) : Except ε String :=
  if place.skipped skip then .ok s else visit place s

mutual

/-- The texts in what is left alone are left alone. -/
theorem skipped_of_mem_texts {place : Place} (h : place.skipped skip = true) :
    (d : Document) → ∀ v ∈ texts place d, v.1.skipped skip = true
  | .null | .bool _ | .number _ => List.forall_mem_nil _
  | .text _ => List.forall_mem_singleton.mpr h
  | .list ds => skipped_of_mem_itemTexts h 0 ds
  | .mapping fs => skipped_of_mem_fieldTexts h fs

theorem skipped_of_mem_itemTexts {place : Place} (h : place.skipped skip = true) (i : Nat) :
    (ds : List Document) →
      ∀ v ∈ itemVisits (fun _ _ => false) place i ds, v.1.skipped skip = true
  | [] => List.forall_mem_nil _
  | d :: ds =>
    have hd : Place.skipped skip (.index i :: place) = true := h
    List.forall_mem_append.mpr
      ⟨skipped_of_mem_texts hd d, skipped_of_mem_itemTexts h (i + 1) ds⟩

theorem skipped_of_mem_fieldTexts {place : Place} (h : place.skipped skip = true) :
    (fs : Fields) → ∀ v ∈ fieldVisits (fun _ _ => false) place fs, v.1.skipped skip = true
  | [] => List.forall_mem_nil _
  | (_, d) :: fs => List.forall_mem_append.mpr
    ⟨skipped_of_mem_texts (by rw [Place.skipped, h, Bool.or_true]) d,
      skipped_of_mem_fieldTexts h fs⟩

end

/-- A document in what is left alone stays as it is. -/
theorem replaceTexts_spare_of_skipped {place : Place} (h : place.skipped skip = true)
    (d : Document) : replaceTexts (fun _ _ => false) (spare skip visit) place d = .ok d := by
  refine (replaceTexts_eq_ok_iff_texts place d d).mpr ⟨.refl (fun _ => trivial) d, ?_⟩
  refine List.forall₂_same.mpr fun v hv => ⟨rfl, ?_⟩
  unfold spare
  rw [if_pos (skipped_of_mem_texts h d v hv)]

mutual

/-- **To leave members alone is to visit their texts and give them back.** This takes the
place of the walk not to be left alone itself. With it a walk that leaves members alone is
one that goes everywhere, with another visit, and everything that is known of such walks
holds of it. -/
theorem replaceTexts_eq_spare {place : Place} (h : place.skipped skip = false) :
    (d : Document) → replaceTexts skip visit place d
      = replaceTexts (fun _ _ => false) (spare skip visit) place d
  | .null | .bool _ | .number _ => rfl
  | .text s => by
    unfold replaceTexts spare
    rw [if_neg (Bool.eq_false_iff.mp h)]
  | .list ds => by
    unfold replaceTexts
    rw [replaceItemTexts_eq_spare h 0 ds]
  | .mapping fs => by
    unfold replaceTexts
    rw [replaceFieldTexts_eq_spare h fs]

theorem replaceItemTexts_eq_spare {place : Place} (h : place.skipped skip = false) (i : Nat) :
    (ds : List Document) → replaceItemTexts skip visit place i ds
      = replaceItemTexts (fun _ _ => false) (spare skip visit) place i ds
  | [] => rfl
  | d :: ds => by
    have hd : Place.skipped skip (.index i :: place) = false := h
    unfold replaceItemTexts
    rw [replaceTexts_eq_spare hd d, replaceItemTexts_eq_spare h (i + 1) ds]

/-- A walk that leaves out some places is one that goes everywhere and does nothing there.
Members are where places are left out, so this is the case that matters; items and whole
documents follow. -/
theorem replaceFieldTexts_eq_spare {place : Place} (h : place.skipped skip = false) :
    (fs : Fields) → replaceFieldTexts skip visit place fs
      = replaceFieldTexts (fun _ _ => false) (spare skip visit) place fs
  | [] => rfl
  | (name, d) :: fs => by
    unfold replaceFieldTexts
    rw [replaceFieldTexts_eq_spare h fs, if_neg Bool.false_ne_true]
    cases hname : skip place name with
    | true =>
      have hd : Place.skipped skip (.key name :: place) = true := by
        rw [Place.skipped, hname, Bool.true_or]
      rw [if_pos rfl, replaceTexts_spare_of_skipped hd d]
      rfl
    | false =>
      have hd : Place.skipped skip (.key name :: place) = false := by
        rw [Place.skipped, hname, h, Bool.or_false]
      rw [if_neg Bool.false_ne_true, replaceTexts_eq_spare hd d]

end

end Spared

/-! ## Walks with a state -/

section Stateful

variable {ε σ : Type} {skip : Place → String → Bool}
  {visit : Place → String → ExceptT ε (StateM σ) String}

/-- **What a walk makes of a text** that succeeds: a text that is left alone stays, and any
other is what the visit to it yields, whatever the state is by then. Where visits always
answer the same the state is of no interest, and this is what the single visit gives. -/
def Walked (skip : Place → String → Bool) (visit : Place → String → ExceptT ε (StateM σ) String)
    (v w : Place × String) : Prop :=
  w.1 = v.1 ∧ if v.1.skipped skip then w.2 = v.2 else ∃ s t, Yields (visit v.1 v.2) s (.ok w.2) t

/-- In what is left alone all texts stay. -/
theorem walked_of_skipped {place : Place} (h : place.skipped skip = true) (d : Document) :
    List.Forall₂ (Walked skip visit) (texts place d) (texts place d) := by
  refine List.forall₂_same.mpr fun v hv => ⟨rfl, ?_⟩
  rw [if_pos (skipped_of_mem_texts h d v hv)]

mutual

/-- **A walk that succeeds** gives a document of the same shape, and has walked over each
text. The state goes from one visit to the next and is forgotten here, but for being some
state. -/
theorem walked_of_replaceTexts {place : Place} (h : place.skipped skip = false) :
    (d : Document) → {e : Document} → {s t : σ} →
      Yields (replaceTexts skip visit place d) s (.ok e) t →
      SameShape d e ∧ List.Forall₂ (Walked skip visit) (texts place d) (texts place e)
  | .null, _, _, _, ran | .bool _, _, _, _, ran | .number _, _, _, _, ran => by
    cases (yields_pure_iff.mp ran).1
    exact ⟨.refl (fun _ => trivial) _, .nil⟩
  | .text _, _, _, _, ran => by
    obtain ⟨u, s', hu, ran⟩ := yields_bind_ok_iff.mp ran
    cases (yields_pure_iff.mp ran).1
    refine ⟨.text trivial, .cons ⟨rfl, ?_⟩ .nil⟩
    rw [if_neg (Bool.eq_false_iff.mp h)]
    exact ⟨_, _, hu⟩
  | .list ds, _, _, _, ran => by
    obtain ⟨es, s', hes, ran⟩ := yields_bind_ok_iff.mp ran
    cases (yields_pure_iff.mp ran).1
    obtain ⟨shape, all⟩ := walked_of_replaceItemTexts h 0 ds hes
    exact ⟨.list shape, all⟩
  | .mapping fs, _, _, _, ran => by
    obtain ⟨gs, s', hgs, ran⟩ := yields_bind_ok_iff.mp ran
    cases (yields_pure_iff.mp ran).1
    obtain ⟨shape, all⟩ := walked_of_replaceFieldTexts h fs hgs
    exact ⟨.mapping shape, all⟩

theorem walked_of_replaceItemTexts {place : Place} (h : place.skipped skip = false) (i : Nat) :
    (ds : List Document) → {es : List Document} → {s t : σ} →
      Yields (replaceItemTexts skip visit place i ds) s (.ok es) t →
      AlikeItems (fun _ _ => True) ds es ∧ List.Forall₂ (Walked skip visit)
        (itemVisits (fun _ _ => false) place i ds) (itemVisits (fun _ _ => false) place i es)
  | [], _, _, _, ran => by
    cases (yields_pure_iff.mp ran).1
    exact ⟨.nil, .nil⟩
  | d :: ds, _, _, _, ran => by
    obtain ⟨e, s', he, ran⟩ := yields_bind_ok_iff.mp ran
    obtain ⟨es, s'', hes, ran⟩ := yields_bind_ok_iff.mp ran
    cases (yields_pure_iff.mp ran).1
    have hd : Place.skipped skip (.index i :: place) = false := h
    obtain ⟨shape, head⟩ := walked_of_replaceTexts hd d he
    obtain ⟨shapes, tail⟩ := walked_of_replaceItemTexts h (i + 1) ds hes
    exact ⟨.cons shape shapes, List.rel_append head tail⟩

theorem walked_of_replaceFieldTexts {place : Place} (h : place.skipped skip = false) :
    (fs : Fields) → {gs : Fields} → {s t : σ} →
      Yields (replaceFieldTexts skip visit place fs) s (.ok gs) t →
      AlikeFields (fun _ _ => True) fs gs ∧ List.Forall₂ (Walked skip visit)
        (fieldVisits (fun _ _ => false) place fs) (fieldVisits (fun _ _ => false) place gs)
  | [], _, _, _, ran => by
    cases (yields_pure_iff.mp ran).1
    exact ⟨.nil, .nil⟩
  | (name, d) :: fs, _, _, _, ran => by
    rw [replaceFieldTexts] at ran
    split at ran
    next hname =>
      have hd : Place.skipped skip (.key name :: place) = true := by
        rw [Place.skipped, hname, Bool.true_or]
      obtain ⟨e, s', he, ran⟩ := yields_bind_ok_iff.mp ran
      obtain ⟨gs, s'', hgs, ran⟩ := yields_bind_ok_iff.mp ran
      cases (yields_pure_iff.mp he).1
      cases (yields_pure_iff.mp ran).1
      obtain ⟨shapes, tail⟩ := walked_of_replaceFieldTexts h fs hgs
      exact ⟨.cons (.refl (fun _ => trivial) d) shapes,
        List.rel_append (walked_of_skipped hd d) tail⟩
    next hname =>
      have hd : Place.skipped skip (.key name :: place) = false := by
        rw [Place.skipped, Bool.eq_false_iff.mpr hname, h, Bool.or_false]
      obtain ⟨e, s', he, ran⟩ := yields_bind_ok_iff.mp ran
      obtain ⟨gs, s'', hgs, ran⟩ := yields_bind_ok_iff.mp ran
      cases (yields_pure_iff.mp ran).1
      obtain ⟨shape, head⟩ := walked_of_replaceTexts hd d he
      obtain ⟨shapes, tail⟩ := walked_of_replaceFieldTexts h fs hgs
      exact ⟨.cons shape shapes, List.rel_append head tail⟩

end

end Stateful

/-! ## Texts alone -/

section Alone

variable {ε : Type} {visit : Place → String → Except ε String}

/-- Nulls before an item are walked over. -/
theorem replaceItemTexts_replicate (place : Place) (n i : Nat) (d : Document) :
    replaceItemTexts (fun _ _ => false) visit place i (List.replicate n .null ++ [d])
      = (replaceTexts (fun _ _ => false) visit (.index (i + n) :: place) d).map
          fun e => List.replicate n .null ++ [e] := by
  induction n generalizing i with
  | zero =>
    rw [Nat.add_zero]
    show (replaceTexts (fun _ _ => false) visit (.index i :: place) d >>= fun e => pure [e]) = _
    cases replaceTexts (fun _ _ => false) visit (.index i :: place) d <;> rfl
  | succ n ih =>
    rw [List.replicate_succ, List.cons_append, replaceItemTexts, ih (i + 1)]
    have : i + 1 + n = i + (n + 1) := by omega
    rw [this]
    cases replaceTexts (fun _ _ => false) visit (.index (i + (n + 1)) :: place) d <;> rfl

/-- **A walk over a document alone at a place** is the walk that begins at the place. By
induction on the place, each step of which is walked over without finding anything else. -/
theorem replaceTexts_at (place : Place) (d : Document) :
    replaceTexts (fun _ _ => false) visit [] («at» place d)
      = (replaceTexts (fun _ _ => false) visit place d).map («at» place) := by
  induction place generalizing d with
  | nil =>
    show _ = Except.map id _
    rw [Except.map_id, id]
    rfl
  | cons segment outer ih =>
    cases segment with
    | key name =>
      rw [«at», ih, replaceTexts, replaceFieldTexts, replaceFieldTexts,
        if_neg Bool.false_ne_true]
      cases replaceTexts (fun _ _ => false) visit (.key name :: outer) d <;> rfl
    | index i =>
      rw [«at», ih, replaceTexts, replaceItemTexts_replicate, Nat.zero_add]
      cases replaceTexts (fun _ _ => false) visit (.index i :: outer) d <;> rfl

/-- A walk that need not go everywhere and has a state answers for a document alone at a
place what it answers at the place. -/
theorem answers_replaceTexts_at {σ : Type} {skip : Place → String → Bool}
    {visit : Place → String → ExceptT ε (StateM σ) String} {place : Place} {d e : Document}
    (h : place.skipped skip = false) (hd : Answers (replaceTexts skip visit place d) (.ok e)) :
    Answers (replaceTexts skip visit [] («at» place d)) (.ok («at» place e)) := by
  induction place generalizing d e with
  | nil => exact hd
  | cons segment outer ih =>
    cases segment with
    | key name =>
      obtain ⟨hname, houter⟩ := Bool.or_eq_false_iff.mp h
      have member : Answers (replaceFieldTexts skip visit outer [(name, d)]) (.ok [(name, e)]) := by
        rw [replaceFieldTexts, if_neg (by simp [hname])]
        refine hd.bind_ok ?_
        exact Answers.bind_ok (Answers.pure []) (Answers.pure _)
      exact ih houter (Answers.bind_ok member (Answers.pure _))
    | index i =>
      have nulls (n k : Nat) (hk : k + n = i) :
          Answers (replaceItemTexts skip visit outer k (List.replicate n .null ++ [d]))
            (.ok (List.replicate n .null ++ [e])) := by
        induction n generalizing k with
        | zero =>
          obtain rfl : k = i := hk
          refine hd.bind_ok ?_
          exact Answers.bind_ok (Answers.pure []) (Answers.pure _)
        | succ n ih =>
          have rest := ih (k + 1) (by omega)
          refine Answers.bind_ok (Answers.pure Document.null) ?_
          exact Answers.bind_ok rest (Answers.pure _)
      exact ih h (Answers.bind_ok (nulls i 0 (Nat.zero_add i)) (Answers.pure _))

/-- The texts of a document alone at a place are where they are in the document there. -/
theorem texts_at (place : Place) (d : Document) : texts [] («at» place d) = texts place d := by
  induction place generalizing d with
  | nil => rfl
  | cons segment outer ih =>
    cases segment with
    | key name => simp [«at», ih, visits, fieldVisits]
    | index i =>
      have nulls (n k : Nat) : itemVisits (fun _ _ => false) outer k (List.replicate n .null ++ [d])
          = texts (.index (k + n) :: outer) d := by
        induction n generalizing k with
        | zero => simp [itemVisits]
        | succ n ih => simp [List.replicate_succ, itemVisits, visits, ih, Nat.add_right_comm]; rfl
      simp [«at», ih, visits, nulls]

/-- **What a pass gives for a text alone** at a place. -/
def alone (P : Document → Except ε Document) (place : Place) (s : String) :
    Except ε Document :=
  P («at» place (.text s))

/-- A walk visits a text alone as it visits it among others. -/
theorem alone_replaceTexts (place : Place) (s : String) :
    alone (replaceTexts (fun _ _ => false) visit []) place s
      = (visit place s).map fun t => «at» place (.text t) := by
  unfold alone
  rw [replaceTexts_at, replaceTexts]
  cases visit place s <;> rfl

/-- **A pass over documents works text by text.** A document that it gives has the shape of
the one before, and each text of it is what the pass gives for the text before, alone at
its place. It fails exactly if it fails for one of the texts alone, as it does for the
first such text, and the error tells of the place of this one.

What it is for an error to tell of a place is a parameter, as each pass has its own words.
-/
structure TextByText (tells : Place → ε → Prop) (P : Document → Except ε Document) :
    Prop where
  /-- The document keeps its shape, and has each text replaced. -/
  ok : ∀ d e, P d = .ok e → SameShape d e ∧ List.Forall₂
    (fun v w => w.1 = v.1 ∧ alone P v.1 v.2 = .ok («at» v.1 (.text w.2))) (texts [] d) (texts [] e)
  /-- It fails exactly if a text alone makes it fail. -/
  fails_iff : ∀ d, (∃ error, P d = .error error)
    ↔ ∃ v ∈ texts [] d, ∃ error, alone P v.1 v.2 = .error error
  /-- The error is that of the first of these texts, and tells its place. -/
  first : ∀ d error, P d = .error error →
    ∃ v, FailsFirst (alone P) (texts [] d) v error ∧ tells v.1 error

/-- **Replacing texts works text by text**, whatever members are left alone. All that is
asked of the visits is that their errors tell of the place which was visited. -/
theorem textByText_replaceTexts {skip : Place → String → Bool} {tells : Place → ε → Prop}
    (told : ∀ place s, Fails (tells place) (visit place s)) :
    TextByText tells (replaceTexts skip visit []) := by
  have walk : replaceTexts skip visit []
      = replaceTexts (fun _ _ => false) (spare skip visit) [] :=
    funext (replaceTexts_eq_spare rfl)
  have ok (place : Place) (s t : String) (h : spare skip visit place s = .ok t) :
      alone (replaceTexts skip visit []) place s = .ok («at» place (.text t)) := by
    rw [walk, alone_replaceTexts, h]
    rfl
  have error_iff (place : Place) (s : String) (error : ε) :
      alone (replaceTexts skip visit []) place s = .error error
        ↔ spare skip visit place s = .error error := by
    rw [walk, alone_replaceTexts]
    cases spare skip visit place s with
    | ok t => exact ⟨nofun, nofun⟩
    | error e =>
      exact ⟨fun h => congrArg Except.error (Except.error.inj h),
        fun h => congrArg Except.error (Except.error.inj h)⟩
  refine ⟨fun d e h => ?_, fun d => ?_, fun d error h => ?_⟩
  · rw [walk] at h
    obtain ⟨shape, all⟩ := (replaceTexts_eq_ok_iff_texts [] d e).mp h
    exact ⟨shape, all.imp fun v w becomes => ⟨becomes.1, ok v.1 v.2 w.2 becomes.2⟩⟩
  · simp only [error_iff]
    rw [walk]
    constructor
    · rintro ⟨error, h⟩
      obtain ⟨v, first⟩ := (goes_replaceTexts [] d error).mp h
      exact ⟨v, first.mem, error, first.2⟩
    · rintro ⟨v, hv, error, h⟩
      rcases forall_ok_or_failsFirst (spare skip visit) (texts [] d) with fine | ⟨u, e, first⟩
      · obtain ⟨t, ht⟩ := fine v hv
        rw [h] at ht
        cases ht
      · exact ⟨e, (goes_replaceTexts [] d e).mpr ⟨u, first⟩⟩
  · rw [walk] at h
    obtain ⟨v, ⟨before, after, hl, fine⟩, fails⟩ := (goes_replaceTexts [] d error).mp h
    refine ⟨v, ⟨⟨before, after, hl, fun u hu => ?_⟩, (error_iff _ _ _).mpr fails⟩, ?_⟩
    · obtain ⟨t, ht⟩ := fine u hu
      exact ⟨_, ok _ _ _ ht⟩
    · unfold spare at fails
      split at fails
      · cases fails
      · exact told _ _ _ fails

end Alone

end CaseRunner.Document
