import CaseRunner.Crash
import CaseRunner.Error
import Mathlib.Control.Monad.Basic
import Mathlib.Data.List.Forall2
import Mathlib.Order.Defs.Unbundled

/-!
# Computations that may fail and change a state

A run is put together from computations that give an answer or an error and change a state
on the way. `Yields c s r t` says that `c`, begun in the state `s`, ends with `r` in the
state `t`; one lemma for each way of putting computations together says what the whole
yields in terms of what its parts yield, so that a computation is taken apart from its last
state backwards and never unfolded.

A property of the state before and the state after that holds of nothing happening and of
two things happening in turn is a preorder, and `Keeps R c` says that `c` only moves along
it. What a part does to the state then has to be said once, and what the whole does
follows. In the same way `Raises P c` says that all errors that `c` can end with have a
property.

A crash makes a third end. What may be relied on behind a part that has answered, or has
failed in a way that somebody hears of, cannot be relied on behind one that has crashed,
since nothing comes after a crash. Therefore `Leads` carries a relation that knows whether
there was one, and `Agree` asks two computations to keep a property only where they do not
crash.

The four ways to speak of a computation differ in what they leave out. `Keeps` and `Leads`
say nothing of the answer, `Raises` nothing of the state, and `Answers` says that the state
does not matter to the answer at all. Each is closed under `bind`, and this is what makes
each of them good for computations of any length.
-/

namespace CaseRunner

variable {ε σ α β : Type}

section Answers

variable {x : Except ε α}

theorem bind_eq_ok_iff {f : α → Except ε β} {b : β} :
    x >>= f = .ok b ↔ ∃ a, x = .ok a ∧ f a = .ok b := by
  cases x with
  | ok a => exact ⟨fun h => ⟨a, rfl, h⟩, fun ⟨_, ha, h⟩ => Except.ok.inj ha ▸ h⟩
  | error e => exact ⟨fun h => (by cases h), fun ⟨_, ha, _⟩ => (by cases ha)⟩

theorem bind_eq_error_iff {f : α → Except ε β} {e : ε} :
    x >>= f = .error e ↔ x = .error e ∨ ∃ a, x = .ok a ∧ f a = .error e := by
  cases x with
  | ok a => exact ⟨fun h => .inr ⟨a, rfl, h⟩,
      fun h => h.elim nofun fun ⟨_, ha, h⟩ => Except.ok.inj ha ▸ h⟩
  | error e' => exact ⟨fun h => .inl (congrArg Except.error (Except.error.inj h)),
      fun h => h.elim (fun h => congrArg Except.error (Except.error.inj h)) nofun⟩

theorem map_eq_ok_iff {f : α → β} {b : β} :
    x.map f = .ok b ↔ ∃ a, x = .ok a ∧ f a = b := by
  cases x with
  | ok a =>
    exact ⟨fun h => ⟨a, rfl, Except.ok.inj h⟩,
      fun ⟨_, ha, h⟩ => h ▸ Except.ok.inj ha ▸ rfl⟩
  | error e => exact ⟨fun h => (by cases h), fun ⟨_, ha, _⟩ => (by cases ha)⟩

theorem mapError_eq_ok_iff {ε' : Type} {f : ε → ε'} {a : α} :
    x.mapError f = .ok a ↔ x = .ok a := by
  cases x with
  | ok b =>
    exact ⟨fun h => congrArg Except.ok (Except.ok.inj h),
      fun h => congrArg Except.ok (Except.ok.inj h)⟩
  | error e => exact ⟨fun h => (by cases h), fun h => (by cases h)⟩

theorem toOption_eq_some_iff {a : α} : x.toOption = some a ↔ x = .ok a := by
  cases x with
  | error e => exact iff_of_false nofun nofun
  | ok b => exact ⟨fun h => congrArg _ (Option.some.inj h), fun h => congrArg _ (Except.ok.inj h)⟩

theorem toOption_eq_map {ε' : Type} {y : Except ε' β} {f : α → β}
    (h : ∀ b, y = .ok b ↔ ∃ a, x = .ok a ∧ f a = b) : y.toOption = x.toOption.map f := by
  refine Option.ext fun b => ?_
  simp only [Option.map_eq_some_iff, toOption_eq_some_iff, h]

theorem map_eq_map_map {γ : Type} {f : α → β} {g : β → γ} {h : α → γ}
    (hgf : ∀ a, h a = g (f a)) : x.map h = (x.map f).map g := by
  cases x with
  | error e => rfl
  | ok a => exact congrArg Except.ok (hgf a)

theorem mapError_eq_error_iff {ε' : Type} {f : ε → ε'} {e : ε'} :
    x.mapError f = .error e ↔ ∃ e₀, x = .error e₀ ∧ f e₀ = e := by
  cases x with
  | ok a => exact ⟨nofun, fun ⟨_, h, _⟩ => nomatch h⟩
  | error e₀ => exact ⟨fun h => ⟨e₀, rfl, Except.error.inj h⟩,
      fun ⟨_, h, he⟩ => congrArg Except.error (Except.error.inj h ▸ he)⟩

/-- Answers are given one after the other exactly if each is given. -/
theorem mapM_eq_ok_iff {f : α → Except ε β} {as : List α} {bs : List β} :
    as.mapM f = .ok bs ↔ List.Forall₂ (fun a b => f a = .ok b) as bs := by
  induction as generalizing bs with
  | nil =>
    rw [List.mapM_nil, List.forall₂_nil_left_iff]
    exact ⟨fun h => (Except.ok.inj h).symm, fun h => congrArg Except.ok h.symm⟩
  | cons a as ih =>
    rw [List.mapM_cons, bind_eq_ok_iff]
    constructor
    · rintro ⟨b, hb, h⟩
      obtain ⟨bs, hbs, h⟩ := bind_eq_ok_iff.mp h
      cases h
      exact .cons hb (ih.mp hbs)
    · rintro (_ | ⟨hb, hbs⟩)
      exact ⟨_, hb, bind_eq_ok_iff.mpr ⟨_, ih.mpr hbs, rfl⟩⟩

/-- Answers are given one after the other if there is one each time. -/
theorem exists_mapM_eq_ok_iff {f : α → Except ε β} {as : List α} :
    (∃ bs, as.mapM f = .ok bs) ↔ ∀ a ∈ as, ∃ b, f a = .ok b := by
  simp only [mapM_eq_ok_iff]
  induction as with
  | nil => exact ⟨fun _ => nofun, fun _ => ⟨[], .nil⟩⟩
  | cons a as ih =>
    rw [List.forall_mem_cons, ← ih]
    constructor
    · rintro ⟨-, _ | ⟨hb, hbs⟩⟩
      exact ⟨⟨_, hb⟩, _, hbs⟩
    · rintro ⟨⟨b, hb⟩, bs, hbs⟩
      exact ⟨b :: bs, .cons hb hbs⟩

/-- **What every step of a fold keeps holds in the end.** The step may use that it has
answered: a fold that stops on the way has no end to speak of. -/
theorem of_foldlM {P : α → Prop} {step : α → β → Except ε α}
    (hstep : ∀ a x b, P a → step a x = .ok b → P b) {l : List β} {a b : α} (ha : P a)
    (h : l.foldlM step a = .ok b) : P b := by
  induction l generalizing a with
  | nil => exact Except.ok.inj h ▸ ha
  | cons x l ih =>
    rw [List.foldlM_cons] at h
    obtain ⟨c, hc, h⟩ := bind_eq_ok_iff.mp h
    exact ih (hstep a x c ha hc) h

end Answers

/-- **What a computation yields**, begun in a state: an answer or an error, and the state
that it leaves.

The state is there after an error as much as after an answer. What a computation has
changed before it fails remains changed, and much of what is to be shown about runs is
about just this. -/
def Yields (c : ExceptT ε (StateM σ) α) (s : σ) (r : Except ε α) (t : σ) : Prop :=
  c.run s = (r, t)

instance [DecidableEq ε] [DecidableEq σ] [DecidableEq α] (c : ExceptT ε (StateM σ) α) (s : σ)
    (r : Except ε α) (t : σ) : Decidable (Yields c s r t) :=
  inferInstanceAs (Decidable (@Eq (Except ε α × σ) (c.run s) (r, t)))

section Yields

variable {c : ExceptT ε (StateM σ) α} {f : α → ExceptT ε (StateM σ) β} {s t u : σ}

/-- A computation yields something. -/
theorem yields_run (c : ExceptT ε (StateM σ) α) (s : σ) :
    Yields c s (c.run s).1 (c.run s).2 := rfl

theorem yields_pure_iff {a : α} {r : Except ε α} :
    Yields (pure a : ExceptT ε (StateM σ) α) s r t ↔ r = .ok a ∧ t = s := by
  show (Except.ok a, s) = (r, t) ↔ _
  rw [Prod.mk.injEq]
  exact and_congr eq_comm eq_comm

theorem yields_throw_iff {e : ε} {r : Except ε α} :
    Yields (throw e : ExceptT ε (StateM σ) α) s r t ↔ r = .error e ∧ t = s := by
  show (Except.error e, s) = (r, t) ↔ _
  rw [Prod.mk.injEq]
  exact and_congr eq_comm eq_comm

theorem yields_get_iff {r : Except ε σ} :
    Yields (get : ExceptT ε (StateM σ) σ) s r t ↔ r = .ok s ∧ t = s := by
  show (Except.ok s, s) = (r, t) ↔ _
  rw [Prod.mk.injEq]
  exact and_congr eq_comm eq_comm

theorem yields_get_bind_iff {f : σ → ExceptT ε (StateM σ) β} {r : Except ε β} :
    Yields (get >>= f) s r t ↔ Yields (f s) s r t := Iff.rfl

/-- A change of the state cannot fail. -/
theorem yields_modify_bind_iff {g : σ → σ} {f : PUnit → ExceptT ε (StateM σ) β}
    {r : Except ε β} : Yields (modify g >>= f) s r t ↔ Yields (f ⟨⟩) (g s) r t := Iff.rfl

/-- What does not look at the state yields what it is. -/
theorem yields_mk_pure_iff {x r : Except ε α} :
    Yields (ExceptT.mk (pure x) : ExceptT ε (StateM σ) α) s r t ↔ r = x ∧ t = s := by
  show (x, s) = (r, t) ↔ _
  rw [Prod.mk.injEq]
  exact and_congr eq_comm eq_comm

/-- Rewording errors changes no state. -/
theorem Yields.of_adapt {ε' : Type} {g : ε → ε'} {r : Except ε' α}
    (h : Yields (c.adapt g) s r t) : ∃ r₀, Yields c s r₀ t ∧ r = r₀.mapError g := by
  refine ⟨(c.run s).1, ?_, ?_⟩
  · rw [show t = (c.run s).2 from congrArg Prod.snd h.symm]
    exact yields_run c s
  · exact congrArg Prod.fst h.symm

theorem yields_modify_iff {g : σ → σ} {r : Except ε PUnit} :
    Yields (modify g : ExceptT ε (StateM σ) PUnit) s r t ↔ r = .ok ⟨⟩ ∧ t = g s := by
  show (Except.ok PUnit.unit, g s) = (r, t) ↔ _
  rw [Prod.mk.injEq]
  exact and_congr eq_comm eq_comm

theorem yields_set_iff {s' : σ} {r : Except ε PUnit} :
    Yields (set s' : ExceptT ε (StateM σ) PUnit) s r t ↔ r = .ok ⟨⟩ ∧ t = s' := by
  show (Except.ok PUnit.unit, s') = (r, t) ↔ _
  rw [Prod.mk.injEq]
  exact and_congr eq_comm eq_comm

theorem run_bind (c : ExceptT ε (StateM σ) α) (f : α → ExceptT ε (StateM σ) β) (s : σ) :
    (c >>= f).run s = match c.run s with
      | (.ok a, t) => (f a).run t
      | (.error e, t) => (.error e, t) := by
  show ((ExceptT.bindCont f) (c.run s).1).run (c.run s).2 = _
  cases h : c.run s with
  | mk r t => cases r <;> rfl

/-- **Two computations in turn** yield what the second does after the first, or the error
of the first. In the second case the state is the one at which the first came to a halt, so
that nothing of the second shows in it. -/
theorem yields_bind_iff {r : Except ε β} :
    Yields (c >>= f) s r u ↔
      (∃ a t, Yields c s (.ok a) t ∧ Yields (f a) t r u)
        ∨ ∃ e, Yields c s (.error e) u ∧ r = .error e := by
  unfold Yields
  rw [run_bind]
  generalize c.run s = x
  obtain ⟨x, t⟩ := x
  cases x with
  | ok a =>
    constructor
    · exact fun h => .inl ⟨a, t, rfl, h⟩
    · rintro (⟨a', t', h, h'⟩ | ⟨e, h, -⟩)
      · cases h
        exact h'
      · cases h
  | error e =>
    constructor
    · intro h
      cases h
      exact .inr ⟨e, rfl, rfl⟩
    · rintro (⟨a', t', h, -⟩ | ⟨e', h, rfl⟩)
      · cases h
      · cases h
        rfl

/-- Two computations in turn give an answer only if both do. This is the case of
`yields_bind_iff` that is met most often, as whoever has an answer knows that nothing went
wrong. -/
theorem yields_bind_ok_iff {b : β} :
    Yields (c >>= f) s (.ok b) u ↔
      ∃ a t, Yields c s (.ok a) t ∧ Yields (f a) t (.ok b) u := by
  rw [yields_bind_iff]
  constructor
  · rintro (h | ⟨e, -, h⟩)
    · exact h
    · cases h
  · exact .inl

/-- What sets the state to something made of an outside answer, if there is one,
leaves the state as it was or sets it so. -/
theorem Yields.of_mk_pure_set {x : Except ε α} {g : α → σ} {r : Except ε PUnit}
    (h : Yields (ExceptT.mk (pure x) >>= fun a => set (g a)) s r t) :
    t = s ∨ ∃ a, t = g a := by
  rcases yields_bind_iff.mp h with ⟨a, s', hx, hs⟩ | ⟨e, hx, -⟩
  · exact .inr ⟨a, (yields_set_iff.mp hs).2⟩
  · exact .inl (yields_mk_pure_iff.mp hx).2

end Yields

/-! ## Moving along a preorder -/

/-- **A computation moves along a relation**, from whatever state it begins in and however
it ends.

The relation is to be a preorder: then what moves along it may be put in turn, and what
does nothing moves along it. It compares two states only, so it can say that a journal has
grown or that a stack is as it was, but not what the computation has answered. -/
def Keeps (R : σ → σ → Prop) (c : ExceptT ε (StateM σ) α) : Prop :=
  ∀ s r t, Yields c s r t → R s t

namespace Keeps

variable {R : σ → σ → Prop} [IsPreorder σ R] {c : ExceptT ε (StateM σ) α}
  {f : α → ExceptT ε (StateM σ) β}

theorem pure (a : α) : Keeps R (pure a : ExceptT ε (StateM σ) α) := by
  intro s r t h
  obtain ⟨-, rfl⟩ := yields_pure_iff.mp h
  exact refl_of R t

theorem throw (e : ε) : Keeps R (throw e : ExceptT ε (StateM σ) α) := by
  intro s r t h
  obtain ⟨-, rfl⟩ := yields_throw_iff.mp h
  exact refl_of R t

theorem get : Keeps R (get : ExceptT ε (StateM σ) σ) := by
  intro s r t h
  obtain ⟨-, rfl⟩ := yields_get_iff.mp h
  exact refl_of R t

omit [IsPreorder σ R] in
/-- After looking at the state one knows it. -/
theorem get_bind {f : σ → ExceptT ε (StateM σ) β}
    (hf : ∀ s r t, Yields (f s) s r t → R s t) :
    Keeps R (MonadState.get >>= f) :=
  fun s r t h => hf s r t (yields_get_bind_iff.mp h)

omit [IsPreorder σ R] in
theorem modify {g : σ → σ} (hg : ∀ s, R s (g s)) :
    Keeps R (modify g : ExceptT ε (StateM σ) PUnit) := by
  intro s r t h
  obtain ⟨-, rfl⟩ := yields_modify_iff.mp h
  exact hg s

theorem mk_pure (x : Except ε α) :
    Keeps R (ExceptT.mk (Pure.pure x) : ExceptT ε (StateM σ) α) := by
  intro s r t h
  obtain ⟨-, rfl⟩ := yields_mk_pure_iff.mp h
  exact refl_of R t

omit [IsPreorder σ R] in
theorem adapt {ε' : Type} {g : ε → ε'} (hc : Keeps R c) : Keeps R (c.adapt g) := by
  intro s r t h
  obtain ⟨r₀, h₀, -⟩ := h.of_adapt
  exact hc s r₀ t h₀

theorem bind (hc : Keeps R c) (hf : ∀ a, Keeps R (f a)) : Keeps R (c >>= f) := by
  intro s r u h
  rcases yields_bind_iff.mp h with ⟨a, t, h₁, h₂⟩ | ⟨e, h₁, -⟩
  · exact trans_of R (hc s _ t h₁) (hf a t r u h₂)
  · exact hc s _ u h₁

theorem throw_bind (e : ε) (f : α → ExceptT ε (StateM σ) β) :
    Keeps R ((MonadExcept.throw e : ExceptT ε (StateM σ) α) >>= f) :=
  throw e

theorem forM {f : α → ExceptT ε (StateM σ) PUnit} (hf : ∀ a, Keeps R (f a)) (l : List α) :
    Keeps R (l.forM f) := by
  induction l with
  | nil => exact Keeps.pure PUnit.unit
  | cons a l ih => exact (hf a).bind fun _ => ih

end Keeps

/-! ## Moving along until there is a crash -/

/-- **A computation leads along a relation** that depends on whether it crashes, from
whatever state it begins in.

A stack that is restored behind every answer and every error is not restored behind a
crash. One relation for both ends would have to be the weaker of the two, and then nothing
could be said of what comes after the part. With the ends told apart the part promises
everything to those that come after it, and what is true of any moment to those that look
on. -/
def Leads (R : Prop → σ → σ → Prop) (c : ExceptT (Stop ε) (StateM σ) α) : Prop :=
  ∀ s r t, Yields c s r t → R (Stop.Crashes r) s t

/-- **Only what has not crashed goes on**: a relation that holds of nothing happening, and
of two things happening in turn, of which only the second one may crash. For relations that
do not look at the crash this is a preorder. -/
class UntilCrash (R : Prop → σ → σ → Prop) : Prop where
  /-- Nothing happens. -/
  refl (s : σ) : R False s s
  /-- Two things happen in turn. -/
  trans {crashed : Prop} {s t u : σ} : R False s t → R crashed t u → R crashed s u

namespace Leads

variable {R : Prop → σ → σ → Prop} {c : ExceptT (Stop ε) (StateM σ) α}
  {f : α → ExceptT (Stop ε) (StateM σ) β}

/-- What moves along the relation without crashes does so with them if these make no
difference. -/
theorem of_keeps (hc : Keeps (R False) c)
    (hR : ∀ crashed s t, R False s t → R crashed s t) : Leads R c :=
  fun s r t h => hR _ s t (hc s r t h)

/-- What comes of a computation that does not crash. -/
theorem of_ok (hc : Leads R c) {s t : σ} {a : α} (h : Yields c s (.ok a) t) : R False s t :=
  eq_false (Stop.not_crashes_ok a) ▸ hc s _ t h

/-- A change of the state never crashes. -/
theorem modify {g : σ → σ} (hg : ∀ s, R False s (g s)) :
    Leads R (modify g : ExceptT (Stop ε) (StateM σ) PUnit) := by
  intro s r t h
  obtain ⟨rfl, rfl⟩ := yields_modify_iff.mp h
  rw [eq_false (Stop.not_crashes_ok _)]
  exact hg s

/-- After looking at the state one knows it. -/
theorem get_bind {f : σ → ExceptT (Stop ε) (StateM σ) β}
    (hf : ∀ s r t, Yields (f s) s r t → R (Stop.Crashes r) s t) :
    Leads R (MonadState.get >>= f) :=
  fun s r t h => hf s r t (yields_get_bind_iff.mp h)

variable [UntilCrash R]

/-- A result that is no crash leaves the state alone. -/
theorem mk_lift (x : Except ε α) :
    Leads R (ExceptT.mk (Pure.pure (Stop.lift x)) : ExceptT (Stop ε) (StateM σ) α) := by
  intro s r t h
  obtain ⟨rfl, rfl⟩ := yields_mk_pure_iff.mp h
  rw [eq_false (Stop.not_crashes_lift x)]
  exact UntilCrash.refl t

theorem pure (a : α) : Leads R (pure a : ExceptT (Stop ε) (StateM σ) α) := mk_lift (.ok a)

theorem throw (e : ε) :
    Leads R (MonadExcept.throw (.error e) : ExceptT (Stop ε) (StateM σ) α) :=
  mk_lift (.error e)

theorem bind (hc : Leads R c) (hf : ∀ a, Leads R (f a)) : Leads R (c >>= f) := by
  intro s r u h
  rcases yields_bind_iff.mp h with ⟨a, t, h₁, h₂⟩ | ⟨stop, h₁, rfl⟩
  · exact UntilCrash.trans (hc.of_ok h₁) (hf a t r u h₂)
  · have crash : Stop.Crashes (.error stop : Except (Stop ε) α)
        = Stop.Crashes (.error stop : Except (Stop ε) β) :=
      propext ⟨Stop.Crashes.error, Stop.Crashes.error⟩
    exact crash ▸ hc s _ u h₁

theorem get : Leads R (get : ExceptT (Stop ε) (StateM σ) σ) :=
  get_bind fun s r t h => pure s s r t h

theorem throw_bind (e : ε) (f : α → ExceptT (Stop ε) (StateM σ) β) :
    Leads R ((MonadExcept.throw (.error e) : ExceptT (Stop ε) (StateM σ) α) >>= f) :=
  throw e

theorem forM {f : α → ExceptT (Stop ε) (StateM σ) PUnit} (hf : ∀ a, Leads R (f a))
    (l : List α) : Leads R (l.forM f) := by
  induction l with
  | nil => exact Leads.pure PUnit.unit
  | cons a l ih => exact (hf a).bind fun _ => ih

theorem mapM {f : α → ExceptT (Stop ε) (StateM σ) β} (hf : ∀ a, Leads R (f a))
    (l : List α) : Leads R (l.mapM f) := by
  induction l with
  | nil => exact Leads.pure []
  | cons a l ih =>
    rw [List.mapM_cons]
    exact (hf a).bind fun b => ih.bind fun bs => Leads.pure (b :: bs)

omit [UntilCrash R] in
/-- Rewording errors makes no crash and hides none. -/
theorem adapt {ε' : Type} {g : ε → ε'} (hc : Leads R c) : Leads R (c.adapt (Stop.map g)) := by
  intro s r t h
  obtain ⟨r₀, h₀, rfl⟩ := h.of_adapt
  have crash : Stop.Crashes r₀ = Stop.Crashes (r₀.mapError (Stop.map g)) :=
    propext Stop.crashes_mapError_iff.symm
  exact crash ▸ hc s r₀ t h₀

end Leads

/-! ## What may go wrong -/

/-- **All errors that a result can be** have a property. A result that is an answer
satisfies this whatever the property is; that there is an answer is never concluded from
it. -/
def Fails (P : ε → Prop) (x : Except ε α) : Prop := ∀ e, x = .error e → P e

namespace Fails

variable {P : ε → Prop} {x : Except ε α}

theorem ok (a : α) : Fails P (.ok a) := nofun

theorem mono {Q : ε → Prop} (hx : Fails P x) (h : ∀ e, P e → Q e) : Fails Q x :=
  fun e he => h e (hx e he)

theorem error {e : ε} (h : P e) : Fails P (.error e : Except ε α) := by
  intro e' he
  cases he
  exact h

theorem bind {f : α → Except ε β} (hx : Fails P x) (hf : ∀ a, Fails P (f a)) :
    Fails P (x >>= f) := by
  intro e he
  rcases bind_eq_error_iff.mp he with he | ⟨a, -, he⟩
  · exact hx e he
  · exact hf a e he

theorem map {f : α → β} (hx : Fails P x) : Fails P (x.map f) := by
  intro e he
  cases x with
  | ok a => cases he
  | error e' => exact hx e (congrArg Except.error (Except.error.inj he))

theorem mapError {ε' : Type} {Q : ε' → Prop} {g : ε → ε'} (hx : Fails P x)
    (hg : ∀ e, P e → Q (g e)) : Fails Q (x.mapError g) := by
  intro e he
  obtain ⟨e₀, he₀, rfl⟩ := mapError_eq_error_iff.mp he
  exact hg e₀ (hx e₀ he₀)

theorem mapM {f : α → Except ε β} (hf : ∀ a, Fails P (f a)) (as : List α) :
    Fails P (as.mapM f) := by
  induction as with
  | nil => exact .ok []
  | cons a as ih =>
    rw [List.mapM_cons]
    exact .bind (hf a) fun b => .bind ih fun bs => .ok (b :: bs)

/-- Whatever the errors are that are reworded. -/
theorem reworded {ε' : Type} {Q : ε' → Prop} {g : ε → ε'} (hg : ∀ e, Q (g e)) :
    Fails Q (x.mapError g) := by
  intro e he
  obtain ⟨e₀, -, rfl⟩ := mapError_eq_error_iff.mp he
  exact hg e₀

/-- The errors of a result that cannot crash are those that it has. -/
theorem lift (hx : Fails P x) : Fails (Stop.Only P) (Stop.lift x) := by
  intro stop h
  obtain ⟨e, he, rfl⟩ := Stop.lift_eq_error_iff.mp h
  exact Stop.only_error_iff.mpr (hx e he)

end Fails

/-- **All errors that a computation can end with** have a property, whatever state it
begins in. Errors are reworded on their way out, so the property changes with the words:
`adapt` says how, and `reworded` is for words that hide what was there before. -/
def Raises (P : ε → Prop) (c : ExceptT ε (StateM σ) α) : Prop :=
  ∀ s e t, Yields c s (.error e) t → P e

namespace Raises

variable {P : ε → Prop} {c : ExceptT ε (StateM σ) α} {f : α → ExceptT ε (StateM σ) β}

theorem mono {Q : ε → Prop} (hc : Raises P c) (h : ∀ e, P e → Q e) : Raises Q c :=
  fun s e t he => h e (hc s e t he)

theorem pure (a : α) : Raises P (pure a : ExceptT ε (StateM σ) α) := by
  intro s e t h
  cases (yields_pure_iff.mp h).1

theorem throw {e : ε} (he : P e) : Raises P (throw e : ExceptT ε (StateM σ) α) := by
  intro s e' t h
  cases (yields_throw_iff.mp h).1
  exact he

theorem throw_bind {e : ε} (he : P e) (f : α → ExceptT ε (StateM σ) β) :
    Raises P ((MonadExcept.throw e : ExceptT ε (StateM σ) α) >>= f) :=
  throw he

theorem get : Raises P (get : ExceptT ε (StateM σ) σ) := by
  intro s e t h
  cases (yields_get_iff.mp h).1

theorem modify (g : σ → σ) : Raises P (modify g : ExceptT ε (StateM σ) PUnit) := by
  intro s e t h
  cases (yields_modify_iff.mp h).1

theorem set (s : σ) : Raises P (set s : ExceptT ε (StateM σ) PUnit) := by
  intro s e t h
  cases (yields_set_iff.mp h).1

theorem mk_pure {x : Except ε α} (h : Fails P x) :
    Raises P (ExceptT.mk (Pure.pure x) : ExceptT ε (StateM σ) α) := by
  intro s e t hy
  exact h e (yields_mk_pure_iff.mp hy).1.symm

theorem bind (hc : Raises P c) (hf : ∀ a, Raises P (f a)) : Raises P (c >>= f) := by
  intro s e u h
  rcases yields_bind_iff.mp h with ⟨a, t, -, h⟩ | ⟨e', h, he⟩
  · exact hf a t e u h
  · cases he
    exact hc s e u h

theorem adapt {ε' : Type} {Q : ε' → Prop} {g : ε → ε'} (hc : Raises P c)
    (hg : ∀ e, P e → Q (g e)) : Raises Q (c.adapt g) := by
  intro s e t h
  obtain ⟨r, hr, he⟩ := h.of_adapt
  obtain ⟨e₀, rfl, rfl⟩ := mapError_eq_error_iff.mp he.symm
  exact hg e₀ (hc s e₀ t hr)

/-- Whatever the errors are that are reworded. -/
theorem reworded {ε' : Type} {Q : ε' → Prop} {g : ε → ε'} (hg : ∀ e, Q (g e)) :
    Raises Q (c.adapt g) := by
  intro s e t h
  obtain ⟨r, -, he⟩ := h.of_adapt
  obtain ⟨e₀, -, rfl⟩ := mapError_eq_error_iff.mp he.symm
  exact hg e₀

theorem forM {f : α → ExceptT ε (StateM σ) PUnit} (hf : ∀ a, Raises P (f a)) (l : List α) :
    Raises P (l.forM f) := by
  induction l with
  | nil => exact Raises.pure PUnit.unit
  | cons a l ih => exact (hf a).bind fun _ => ih

end Raises

/-! ## Doing the same -/

/-- **Two computations do the same** wherever a property holds, and keep the property
unless they crash: behind a crash nobody asks for it.

This is how a definition that is cut off at some depth is compared with one that is cut off
deeper. The two are different functions, and they differ where the cut is reached. But
where the property keeps the cut out of reach, each can stand for the other. -/
def Agree (P : σ → Prop) (c c' : ExceptT (Stop ε) (StateM σ) α) : Prop :=
  ∀ s, P s → c.run s = c'.run s ∧ (¬ Stop.Crashes (c.run s).1 → P (c.run s).2)

namespace Agree

variable {P : σ → Prop} {c c' : ExceptT (Stop ε) (StateM σ) α}
  {f f' : α → ExceptT (Stop ε) (StateM σ) β}

/-- A computation that keeps the property does the same as itself. -/
theorem of_keeps {R : σ → σ → Prop} (hc : Keeps R c) (hR : ∀ s t, R s t → P s → P t) :
    Agree P c c :=
  fun s hs => ⟨rfl, fun _ => hR s _ (hc s _ _ (yields_run c s)) hs⟩

/-- What follows needs to do the same only where the first computation may
lead. -/
theorem bind (hc : Agree P c c')
    (hf : ∀ a s t, P s → Yields c s (.ok a) t → Agree P (f a) (f' a)) :
    Agree P (c >>= f) (c' >>= f') := by
  intro s hs
  obtain ⟨heq, hP⟩ := hc s hs
  rw [run_bind, run_bind, ← heq]
  cases hrun : c.run s with
  | mk r t =>
    rw [hrun] at hP
    cases r with
    | ok a => exact hf a s t hs hrun t (hP (Stop.not_crashes_ok a))
    | error stop => exact ⟨rfl, fun survived => hP (mt Stop.Crashes.error survived)⟩

theorem pure (a : α) : Agree P (pure a : ExceptT (Stop ε) (StateM σ) α) (Pure.pure a) :=
  fun _ hs => ⟨rfl, fun _ => hs⟩

theorem forM {f f' : α → ExceptT (Stop ε) (StateM σ) PUnit}
    (hf : ∀ a, Agree P (f a) (f' a)) (l : List α) : Agree P (l.forM f) (l.forM f') := by
  induction l with
  | nil => exact pure PUnit.unit
  | cons a l ih => exact (hf a).bind fun _ _ _ _ _ => ih

theorem mapM {f f' : α → ExceptT (Stop ε) (StateM σ) β} (hf : ∀ a, Agree P (f a) (f' a))
    (l : List α) : Agree P (l.mapM f) (l.mapM f') := by
  induction l with
  | nil => exact pure []
  | cons a l ih =>
    rw [List.mapM_cons, List.mapM_cons]
    exact (hf a).bind fun b _ _ _ _ => ih.bind fun bs _ _ _ _ => pure (b :: bs)

end Agree

/-! ## Answering always the same -/

/-- **A computation always answers the same**, whatever state it begins in. It may still
change the state. So this is weaker than being a pure result, and it is what holds of a
computation that remembers what it has looked up, if what it remembers is right. -/
def Answers (c : ExceptT ε (StateM σ) α) (x : Except ε α) : Prop := ∀ s, (c.run s).1 = x

namespace Answers

variable {c : ExceptT ε (StateM σ) α} {x : Except ε α} {f : α → ExceptT ε (StateM σ) β}

theorem pure (a : α) : Answers (pure a : ExceptT ε (StateM σ) α) (.ok a) := fun _ => rfl

theorem mk_pure (x : Except ε α) :
    Answers (ExceptT.mk (Pure.pure x) : ExceptT ε (StateM σ) α) x := fun _ => rfl

theorem bind {g : α → Except ε β} (hc : Answers c x) (hf : ∀ a, Answers (f a) (g a)) :
    Answers (c >>= f) (x >>= g) := by
  intro s
  rw [run_bind]
  have hx := hc s
  generalize c.run s = ran at hx ⊢
  obtain ⟨y, t⟩ := ran
  cases hx
  cases y with
  | ok a => exact hf a t
  | error e => rfl

/-- Two computations in turn, where the first one always answers with a value. -/
theorem bind_ok {a : α} {y : Except ε β} (hc : Answers c (.ok a)) (hf : Answers (f a) y) :
    Answers (c >>= f) y := by
  intro s
  rw [run_bind]
  have ha := hc s
  generalize c.run s = ran at ha ⊢
  obtain ⟨x, t⟩ := ran
  cases ha
  exact hf t

/-- Rewording errors rewords the answer. -/
theorem adapt {ε' : Type} {g : ε → ε'} (hc : Answers c x) :
    Answers (c.adapt g) (x.mapError g) := by
  intro s
  rw [← hc s]
  rfl

/-- There is only one answer. -/
theorem unique {y : Except ε α} (hx : Answers c x) (hy : Answers c y) (s : σ) : x = y :=
  (hx s).symm.trans (hy s)

/-- What it yields somewhere is its answer. -/
theorem eq_of_yields (hc : Answers c x) {s t : σ} {r : Except ε α} (h : Yields c s r t) :
    r = x :=
  (congrArg Prod.fst h).symm.trans (hc s)

end Answers

/-- **A computation is settled**: what it answers does not depend on the state. The answer
itself is left open, for where only its being the same is of interest. -/
def Settled (c : ExceptT ε (StateM σ) α) : Prop := ∃ x, Answers c x

namespace Settled

variable {c : ExceptT ε (StateM σ) α} {f : α → ExceptT ε (StateM σ) β}

theorem pure (a : α) : Settled (pure a : ExceptT ε (StateM σ) α) := ⟨.ok a, fun _ => rfl⟩

theorem throw (e : ε) : Settled (throw e : ExceptT ε (StateM σ) α) := ⟨.error e, fun _ => rfl⟩

theorem bind (hc : Settled c) (hf : ∀ a, Settled (f a)) : Settled (c >>= f) := by
  obtain ⟨x, hx⟩ := hc
  exact ⟨x >>= fun a => (hf a).choose, hx.bind fun a => (hf a).choose_spec⟩

theorem adapt {ε' : Type} {g : ε → ε'} (hc : Settled c) : Settled (c.adapt g) := by
  obtain ⟨x, hx⟩ := hc
  exact ⟨x.mapError g, hx.adapt⟩

/-- The answer is that from any state. -/
theorem answers (hc : Settled c) (s : σ) : Answers c (c.run s).1 := by
  obtain ⟨x, hx⟩ := hc
  rw [hx s]
  exact hx

end Settled

end CaseRunner
