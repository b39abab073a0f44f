import CaseRunner.Proofs.Document.Walking
import CaseRunner.Proofs.Computation

/-!
# What visiting the texts of a document keeps

A document whose texts are replaced keeps its shape: the same lists and mappings with the
same names, and texts where texts were. `Alike R d e` says that `e` has the shape of `d`,
and that each of its texts stands in the relation `R` to the text at the same place.

Texts are replaced by computations of several kinds. All that matters of a kind is what a
computation may give (`Giving`), so that the shape is looked at once. Where the texts are
replaced one by one without a state, more can be said: all of them are replaced, or the
first that cannot be is the error.

The relation is a parameter, as each pass over a document makes texts of another kind. With
the relation that always holds only the shape is left.
-/

namespace CaseRunner

/-- **A kind of computation of which one knows what it may give.** No more is asked than
what one would conclude from an answer: that a value which is given at once is the answer,
and that behind an answer to a whole there are answers to its parts. It need not be
possible to conclude anything in the other direction. -/
class Giving (m : Type → Type) [Monad m] where
  /-- May the computation give the value? -/
  Gives : {α : Type} → m α → α → Prop
  of_pure : {α : Type} → {a b : α} → Gives (pure a) b → b = a
  of_bind : {α β : Type} → {x : m α} → {f : α → m β} → {b : β} → Gives (x >>= f) b →
    ∃ a, Gives x a ∧ Gives (f a) b

/-- What can fail gives its answer. -/
instance {ε : Type} : Giving (Except ε) where
  Gives x a := x = .ok a
  of_pure h := (Except.ok.inj h).symm
  of_bind {_ _ x _ _} h := by
    cases x with
    | error e => cases h
    | ok a => exact ⟨a, rfl, h⟩

/-- What can fail and changes a state gives its answers from all states. -/
instance {ε σ : Type} : Giving (ExceptT ε (StateM σ)) where
  Gives c a := ∃ s t, Yields c s (.ok a) t
  of_pure := by
    rintro _ _ _ ⟨s, t, h⟩
    exact Except.ok.inj (yields_pure_iff.mp h).1
  of_bind := by
    rintro _ _ _ _ _ ⟨s, u, h⟩
    obtain ⟨a, t, hx, hf⟩ := yields_bind_ok_iff.mp h
    exact ⟨a, ⟨s, t, hx⟩, t, u, hf⟩

namespace Document

mutual

/-- **Documents of the same shape**, whose texts stand in a relation place by place. There
is one constructor for each of those of documents, so that induction on the relation goes
through both documents at once, and cases in which they differ in shape do not come up. -/
inductive Alike (R : String → String → Prop) : Document → Document → Prop
  | null : Alike R .null .null
  | bool (b : Bool) : Alike R (.bool b) (.bool b)
  | number (n : Number) : Alike R (.number n) (.number n)
  | text {s t : String} (h : R s t) : Alike R (.text s) (.text t)
  | list {ds es : List Document} (h : AlikeItems R ds es) : Alike R (.list ds) (.list es)
  | mapping {fs gs : Fields} (h : AlikeFields R fs gs) :
      Alike R (.mapping fs) (.mapping gs)

/-- `Alike` item by item. -/
inductive AlikeItems (R : String → String → Prop) : List Document → List Document → Prop
  | nil : AlikeItems R [] []
  | cons {d e : Document} {ds es : List Document} (head : Alike R d e)
      (tail : AlikeItems R ds es) : AlikeItems R (d :: ds) (e :: es)

/-- `Alike` member by member, under the same names. -/
inductive AlikeFields (R : String → String → Prop) : Fields → Fields → Prop
  | nil : AlikeFields R [] []
  | cons {name : String} {d e : Document} {fs gs : Fields} (head : Alike R d e)
      (tail : AlikeFields R fs gs) : AlikeFields R ((name, d) :: fs) ((name, e) :: gs)

end

section Replacing

variable {R : String → String → Prop}

mutual

theorem Alike.refl (hR : ∀ s, R s s) : (d : Document) → Alike R d d
  | .null => .null
  | .bool b => .bool b
  | .number n => .number n
  | .text s => .text (hR s)
  | .list ds => .list (AlikeItems.refl hR ds)
  | .mapping fs => .mapping (AlikeFields.refl hR fs)

theorem AlikeItems.refl (hR : ∀ s, R s s) : (ds : List Document) → AlikeItems R ds ds
  | [] => .nil
  | d :: ds => .cons (Alike.refl hR d) (AlikeItems.refl hR ds)

theorem AlikeFields.refl (hR : ∀ s, R s s) : (fs : Fields) → AlikeFields R fs fs
  | [] => .nil
  | (_, d) :: fs => .cons (Alike.refl hR d) (AlikeFields.refl hR fs)

end

variable {m : Type → Type} [Monad m] [Giving m] {skip : Place → String → Bool}
  {visit : Place → String → m String}

open Giving

mutual

/-- **Replacing the texts of a document keeps its shape**, and each text stands to the old
one as every visit makes it stand. The relation must be reflexive for the sake of the
members that are left alone. -/
theorem alike_of_replaceTexts (hR : ∀ s, R s s)
    (hv : ∀ place s t, Gives (visit place s) t → R s t) (place : Place) :
    (d : Document) → {e : Document} → Gives (replaceTexts skip visit place d) e →
      Alike R d e
  | .null, _, h => by
    obtain rfl := of_pure h
    exact .null
  | .bool b, _, h => by
    obtain rfl := of_pure h
    exact .bool b
  | .number n, _, h => by
    obtain rfl := of_pure h
    exact .number n
  | .text s, _, h => by
    obtain ⟨t, ht, h⟩ := of_bind h
    obtain rfl := of_pure h
    exact .text (hv place s t ht)
  | .list ds, _, h => by
    obtain ⟨es, hes, h⟩ := of_bind h
    obtain rfl := of_pure h
    exact .list (alikeItems_of_replaceItemTexts hR hv place 0 ds hes)
  | .mapping fs, _, h => by
    obtain ⟨gs, hgs, h⟩ := of_bind h
    obtain rfl := of_pure h
    exact .mapping (alikeFields_of_replaceFieldTexts hR hv place fs hgs)

theorem alikeItems_of_replaceItemTexts (hR : ∀ s, R s s)
    (hv : ∀ place s t, Gives (visit place s) t → R s t) (place : Place) (i : Nat) :
    (ds : List Document) → {es : List Document} →
      Gives (replaceItemTexts skip visit place i ds) es → AlikeItems R ds es
  | [], _, h => by
    obtain rfl := of_pure h
    exact .nil
  | d :: ds, _, h => by
    obtain ⟨e, he, h⟩ := of_bind h
    obtain ⟨es, hes, h⟩ := of_bind h
    obtain rfl := of_pure h
    exact .cons (alike_of_replaceTexts hR hv _ d he)
      (alikeItems_of_replaceItemTexts hR hv place (i + 1) ds hes)

theorem alikeFields_of_replaceFieldTexts (hR : ∀ s, R s s)
    (hv : ∀ place s t, Gives (visit place s) t → R s t) (place : Place) :
    (fs : Fields) → {gs : Fields} → Gives (replaceFieldTexts skip visit place fs) gs →
      AlikeFields R fs gs
  | [], _, h => by
    obtain rfl := of_pure h
    exact .nil
  | (name, d) :: fs, gs, h => by
    rw [replaceFieldTexts] at h
    -- a member that is skipped stays as it is
    obtain ⟨e, head, h⟩ : ∃ e, Alike R d e ∧
        Gives (do return (name, e) :: (← replaceFieldTexts skip visit place fs)) gs := by
      split at h
      · obtain ⟨e, he, hrest⟩ := of_bind h
        obtain rfl := of_pure he
        exact ⟨e, .refl hR e, hrest⟩
      · obtain ⟨e, he, hrest⟩ := of_bind h
        exact ⟨e, alike_of_replaceTexts hR hv _ d he, hrest⟩
    obtain ⟨gs, hgs, h⟩ := of_bind h
    obtain rfl := of_pure h
    exact .cons head (alikeFields_of_replaceFieldTexts hR hv place fs hgs)

end

end Replacing

/-! ## Visits that agree -/

section Agreeing

variable {ε : Type} {skip : Place → String → Bool}
  {visit visit' : Place → String → Except ε String}

mutual

/-- **Only the visits to the texts of a document matter**: where all of them give
something, others that give the same there replace the texts alike. Nothing is asked of the
others for texts that the document does not have. -/
theorem replaceTexts_of_agree (place : Place) : (d : Document) → {e : Document} →
    replaceTexts skip visit place d = .ok e →
    (∀ place, ∀ s ∈ leaves d, ∀ t, visit place s = .ok t → visit' place s = .ok t) →
      replaceTexts skip visit' place d = .ok e
  | .null, _, h, _ | .bool _, _, h, _ | .number _, _, h, _ => h
  | .text s, _, h, agree => by
    obtain ⟨t, ht, h⟩ := bind_eq_ok_iff.mp h
    rw [replaceTexts]
    exact bind_eq_ok_iff.mpr ⟨t, agree place s List.mem_cons_self t ht, h⟩
  | .list ds, _, h, agree => by
    obtain ⟨es, hes, h⟩ := bind_eq_ok_iff.mp h
    rw [replaceTexts]
    exact bind_eq_ok_iff.mpr ⟨es, replaceItemTexts_of_agree place 0 ds hes agree, h⟩
  | .mapping fs, _, h, agree => by
    obtain ⟨gs, hgs, h⟩ := bind_eq_ok_iff.mp h
    rw [replaceTexts]
    exact bind_eq_ok_iff.mpr ⟨gs, replaceFieldTexts_of_agree place fs hgs agree, h⟩

theorem replaceItemTexts_of_agree (place : Place) (i : Nat) : (ds : List Document) →
    {es : List Document} → replaceItemTexts skip visit place i ds = .ok es →
    (∀ place, ∀ s ∈ itemLeaves ds, ∀ t, visit place s = .ok t → visit' place s = .ok t) →
      replaceItemTexts skip visit' place i ds = .ok es
  | [], _, h, _ => h
  | d :: ds, _, h, agree => by
    obtain ⟨e, he, h⟩ := bind_eq_ok_iff.mp h
    obtain ⟨es, hes, h⟩ := bind_eq_ok_iff.mp h
    rw [replaceItemTexts]
    refine bind_eq_ok_iff.mpr ⟨e, replaceTexts_of_agree _ d he fun place s hs => ?_, ?_⟩
    · exact agree place s (List.mem_append_left _ hs)
    refine bind_eq_ok_iff.mpr
      ⟨es, replaceItemTexts_of_agree _ _ ds hes fun place s hs => ?_, h⟩
    exact agree place s (List.mem_append_right _ hs)

theorem replaceFieldTexts_of_agree (place : Place) : (fs : Fields) → {gs : Fields} →
    replaceFieldTexts skip visit place fs = .ok gs →
    (∀ place, ∀ s ∈ fieldLeaves fs, ∀ t, visit place s = .ok t → visit' place s = .ok t) →
      replaceFieldTexts skip visit' place fs = .ok gs
  | [], _, h, _ => h
  | (name, d) :: fs, _, h, agree => by
    rw [replaceFieldTexts] at h ⊢
    have rest : ∀ gs, replaceFieldTexts skip visit place fs = .ok gs →
        replaceFieldTexts skip visit' place fs = .ok gs := fun gs hgs =>
      replaceFieldTexts_of_agree place fs hgs fun place s hs =>
        agree place s (List.mem_append_right _ hs)
    split at h
    next hskip =>
      rw [if_pos hskip]
      obtain ⟨e, he, h⟩ := bind_eq_ok_iff.mp h
      obtain ⟨gs, hgs, h⟩ := bind_eq_ok_iff.mp h
      exact bind_eq_ok_iff.mpr ⟨e, he, bind_eq_ok_iff.mpr ⟨gs, rest gs hgs, h⟩⟩
    next hskip =>
      rw [if_neg hskip]
      obtain ⟨e, he, h⟩ := bind_eq_ok_iff.mp h
      obtain ⟨gs, hgs, h⟩ := bind_eq_ok_iff.mp h
      refine bind_eq_ok_iff.mpr ⟨e, replaceTexts_of_agree _ d he fun place s hs => ?_, ?_⟩
      · exact agree place s (List.mem_append_left _ hs)
      · exact bind_eq_ok_iff.mpr ⟨gs, rest gs hgs, h⟩

end

end Agreeing

/-! ## Visits to every text -/

section Everywhere

variable {ε : Type} {R : String → String → Prop} {visit : Place → String → Except ε String}

mutual

/-- **Replacing every text of a document gives what is alike to it, and only that**, if
visiting a text gives what stands to it, and only that. So a pass whose visits are known by
a relation is known by the same relation for whole documents. -/
theorem replaceTexts_eq_ok_iff (hv : ∀ place s t, visit place s = .ok t ↔ R s t)
    (place : Place) : (d e : Document) →
      (replaceTexts (fun _ _ => false) visit place d = .ok e ↔ Alike R d e)
  | .null, e => by
    show Except.ok Document.null = Except.ok e ↔ _
    exact ⟨fun h => by cases h; exact .null, fun h => by cases h; rfl⟩
  | .bool b, e => by
    show Except.ok (Document.bool b) = Except.ok e ↔ _
    exact ⟨fun h => by cases h; exact .bool b, fun h => by cases h; rfl⟩
  | .number n, e => by
    show Except.ok (Document.number n) = Except.ok e ↔ _
    exact ⟨fun h => by cases h; exact .number n, fun h => by cases h; rfl⟩
  | .text s, e => by
    rw [replaceTexts, bind_eq_ok_iff]
    constructor
    · rintro ⟨t, ht, h⟩
      cases h
      exact .text ((hv place s t).mp ht)
    · rintro (_ | _ | _ | ⟨ht⟩)
      exact ⟨_, (hv place s _).mpr ht, rfl⟩
  | .list ds, e => by
    rw [replaceTexts, bind_eq_ok_iff]
    constructor
    · rintro ⟨es, hes, h⟩
      cases h
      exact .list ((replaceItemTexts_eq_ok_iff hv place 0 ds es).mp hes)
    · intro h
      cases h with
      | list h => exact ⟨_, (replaceItemTexts_eq_ok_iff hv place 0 ds _).mpr h, rfl⟩
  | .mapping fs, e => by
    rw [replaceTexts, bind_eq_ok_iff]
    constructor
    · rintro ⟨gs, hgs, h⟩
      cases h
      exact .mapping ((replaceFieldTexts_eq_ok_iff hv place fs gs).mp hgs)
    · intro h
      cases h with
      | mapping h => exact ⟨_, (replaceFieldTexts_eq_ok_iff hv place fs _).mpr h, rfl⟩

theorem replaceItemTexts_eq_ok_iff (hv : ∀ place s t, visit place s = .ok t ↔ R s t)
    (place : Place) (i : Nat) : (ds es : List Document) →
      (replaceItemTexts (fun _ _ => false) visit place i ds = .ok es ↔ AlikeItems R ds es)
  | [], es => by
    show Except.ok [] = Except.ok es ↔ _
    exact ⟨fun h => by cases h; exact .nil, fun h => by cases h; rfl⟩
  | d :: ds, es => by
    rw [replaceItemTexts, bind_eq_ok_iff]
    constructor
    · rintro ⟨e, he, h⟩
      obtain ⟨es, hes, h⟩ := bind_eq_ok_iff.mp h
      cases h
      exact .cons ((replaceTexts_eq_ok_iff hv _ d e).mp he)
        ((replaceItemTexts_eq_ok_iff hv place (i + 1) ds es).mp hes)
    · intro h
      cases h with
      | cons head tail =>
        refine ⟨_, (replaceTexts_eq_ok_iff hv _ d _).mpr head, ?_⟩
        exact bind_eq_ok_iff.mpr
          ⟨_, (replaceItemTexts_eq_ok_iff hv place (i + 1) ds _).mpr tail, rfl⟩

theorem replaceFieldTexts_eq_ok_iff (hv : ∀ place s t, visit place s = .ok t ↔ R s t)
    (place : Place) : (fs gs : Fields) →
      (replaceFieldTexts (fun _ _ => false) visit place fs = .ok gs ↔ AlikeFields R fs gs)
  | [], gs => by
    show Except.ok [] = Except.ok gs ↔ _
    exact ⟨fun h => by cases h; exact .nil, fun h => by cases h; rfl⟩
  | (name, d) :: fs, gs => by
    rw [replaceFieldTexts, if_neg Bool.false_ne_true, bind_eq_ok_iff]
    constructor
    · rintro ⟨e, he, h⟩
      obtain ⟨gs, hgs, h⟩ := bind_eq_ok_iff.mp h
      cases h
      exact .cons ((replaceTexts_eq_ok_iff hv _ d e).mp he)
        ((replaceFieldTexts_eq_ok_iff hv place fs gs).mp hgs)
    · intro h
      cases h with
      | cons head tail =>
        refine ⟨_, (replaceTexts_eq_ok_iff hv _ d _).mpr head, ?_⟩
        exact bind_eq_ok_iff.mpr
          ⟨_, (replaceFieldTexts_eq_ok_iff hv place fs _).mpr tail, rfl⟩

end

variable {skip : Place → String → Bool} {error : ε}

mutual

/-- **The error of replacing texts is the error of one of the visits.** Walking through the
document has no errors of its own. -/
theorem exists_of_replaceTexts_error (place : Place) : (d : Document) →
    replaceTexts skip visit place d = .error error →
      ∃ place, ∃ s ∈ leaves d, visit place s = .error error
  | .null, h | .bool _, h | .number _, h => nomatch h
  | .text s, h => by
    rcases bind_eq_error_iff.mp h with h | ⟨t, -, h⟩
    · exact ⟨place, s, List.mem_cons_self, h⟩
    · cases h
  | .list ds, h => by
    rcases bind_eq_error_iff.mp h with h | ⟨es, -, h⟩
    · exact exists_of_replaceItemTexts_error place 0 ds h
    · cases h
  | .mapping fs, h => by
    rcases bind_eq_error_iff.mp h with h | ⟨gs, -, h⟩
    · exact exists_of_replaceFieldTexts_error place fs h
    · cases h

theorem exists_of_replaceItemTexts_error (place : Place) (i : Nat) : (ds : List Document) →
    replaceItemTexts skip visit place i ds = .error error →
      ∃ place, ∃ s ∈ itemLeaves ds, visit place s = .error error
  | [], h => nomatch h
  | d :: ds, h => by
    rcases bind_eq_error_iff.mp h with h | ⟨e, -, h⟩
    · obtain ⟨place, s, hs, h⟩ := exists_of_replaceTexts_error _ d h
      exact ⟨place, s, List.mem_append_left _ hs, h⟩
    rcases bind_eq_error_iff.mp h with h | ⟨es, -, h⟩
    · obtain ⟨place, s, hs, h⟩ := exists_of_replaceItemTexts_error place (i + 1) ds h
      exact ⟨place, s, List.mem_append_right _ hs, h⟩
    · cases h

theorem exists_of_replaceFieldTexts_error (place : Place) : (fs : Fields) →
    replaceFieldTexts skip visit place fs = .error error →
      ∃ place, ∃ s ∈ fieldLeaves fs, visit place s = .error error
  | [], h => nomatch h
  | (name, d) :: fs, h => by
    rw [replaceFieldTexts] at h
    -- the error is the member's, or that of the members after it
    have : replaceTexts skip visit (.key name :: place) d = .error error
        ∨ replaceFieldTexts skip visit place fs = .error error := by
      split at h
      · rcases bind_eq_error_iff.mp h with h | ⟨e, -, h⟩
        · cases h
        · exact .inr ((bind_eq_error_iff.mp h).resolve_right nofun)
      · rcases bind_eq_error_iff.mp h with h | ⟨e, -, h⟩
        · exact .inl h
        · exact .inr ((bind_eq_error_iff.mp h).resolve_right nofun)
    rcases this with h | h
    · obtain ⟨place, s, hs, h⟩ := exists_of_replaceTexts_error _ d h
      exact ⟨place, s, List.mem_append_left _ hs, h⟩
    · obtain ⟨place, s, hs, h⟩ := exists_of_replaceFieldTexts_error place fs h
      exact ⟨place, s, List.mem_append_right _ hs, h⟩

end

end Everywhere

section Raising

variable {ε σ : Type} {P : ε → Prop} {skip : Place → String → Bool}
  {visit : Place → String → ExceptT ε (StateM σ) String}

mutual

/-- **Replacing texts goes wrong only as a visit does.** Nothing in the document itself is
a reason to fail, whatever shape it has. -/
theorem raises_replaceTexts (hv : ∀ place s, Raises P (visit place s)) (place : Place) :
    (d : Document) → Raises P (replaceTexts skip visit place d)
  | .null => Raises.pure _
  | .bool _ => Raises.pure _
  | .number _ => Raises.pure _
  | .text s => (hv place s).bind fun _ => Raises.pure _
  | .list ds => (raises_replaceItemTexts hv place 0 ds).bind fun _ => Raises.pure _
  | .mapping fs => (raises_replaceFieldTexts hv place fs).bind fun _ => Raises.pure _

theorem raises_replaceItemTexts (hv : ∀ place s, Raises P (visit place s)) (place : Place)
    (i : Nat) : (ds : List Document) → Raises P (replaceItemTexts skip visit place i ds)
  | [] => Raises.pure _
  | d :: ds => (raises_replaceTexts hv _ d).bind fun _ =>
    (raises_replaceItemTexts hv place (i + 1) ds).bind fun _ => Raises.pure _

theorem raises_replaceFieldTexts (hv : ∀ place s, Raises P (visit place s)) (place : Place) :
    (fs : Fields) → Raises P (replaceFieldTexts skip visit place fs)
  | [] => Raises.pure _
  | (name, d) :: fs => by
    have rest (e : Document) : Raises P (do
        return (name, e) :: (← replaceFieldTexts skip visit place fs)) :=
      (raises_replaceFieldTexts hv place fs).bind fun _ => Raises.pure _
    rw [replaceFieldTexts]
    split
    · exact (Raises.pure d).bind rest
    · exact (raises_replaceTexts hv _ d).bind rest

end

end Raising

/-! ## Members -/

section Members

variable {R : String → String → Prop} {d e : Document} {fs gs : Fields}

/-- Under a name both have a member or neither, and the members are alike. -/
theorem AlikeFields.field? (h : AlikeFields R fs gs) (name : String) :
    (field? name fs = none ∧ field? name gs = none)
      ∨ ∃ x y, field? name fs = some x ∧ field? name gs = some y ∧ Alike R x y := by
  induction fs generalizing gs with
  | nil =>
    cases h with
    | nil => exact .inl ⟨rfl, rfl⟩
  | cons f fs ih =>
    cases h with
    | cons head tail =>
      unfold Document.field?
      split
      · exact .inr ⟨_, _, rfl, rfl, head⟩
      · exact ih tail

theorem Alike.get? (h : Alike R d e) (name : String) :
    (d.get? name = none ∧ e.get? name = none)
      ∨ ∃ x y, d.get? name = some x ∧ e.get? name = some y ∧ Alike R x y := by
  cases h with
  | mapping h => exact h.field? name
  | null | bool | number | text | list => exact .inl ⟨rfl, rfl⟩

/-- The text under a name stands to the text that was there. -/
theorem Alike.get?_text {name s : String} (h : Alike R d e)
    (hd : d.get? name = some (.text s)) : ∃ t, e.get? name = some (.text t) ∧ R s t := by
  rcases h.get? name with ⟨hn, -⟩ | ⟨x, y, hx, hy, hxy⟩
  · rw [hd] at hn
    cases hn
  · rw [hd] at hx
    cases hx
    cases hxy with
    | text ht => exact ⟨_, hy, ht⟩

end Members

end Document

end CaseRunner
