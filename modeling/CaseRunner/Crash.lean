import CaseRunner.Binary64
import CaseRunner.Functions.Calendar

/-!
# Crashes

Times, moments and counts are kept in numbers of a fixed size, and documents and settings
may ask for more than these hold: a wait of `1e20` seconds is a number like any other to
those who read it. What does not fit is not an error. An error is told to whoever asked,
becomes the verdict of a case, and the next case is run; a number that does not fit ends
the program, and nobody is told of anything.

So there are two ways to have no answer (`Stop`), and only one of them can be caught
(`Stop.told`). Which numbers fit is said in one place (`Quantity.fits`), and everything
that keeps such a number asks there first (`Quantity.check`). A crash carries the number
that did not fit, and with it that it did not: there is no crash for another reason.
-/

namespace CaseRunner

/-- A number that has to fit where it is kept. -/
inductive Quantity where
  /-- A span of time in seconds, such as a wait or the time that a request may take. -/
  | span (seconds : Binary64)
  /-- A moment that the clock is to be compared with. -/
  | moment (t : Moment)
  /-- How often a request is tried. -/
  | tries (n : Nat)
  deriving DecidableEq, Repr

namespace Quantity

/-- The last moment that the clock can show: its seconds have 63 bits. -/
def lastMoment : Moment := pow2 63 * 1000000000 - 1

/-- Does the number fit? The seconds of a span have 64 bits, and counts have 32. -/
def fits : Quantity → Bool
  | .span seconds => seconds.lt (.ofInt (pow2 64))
  | .moment t => t ≤ lastMoment
  | .tries n => n < pow2 32

end Quantity

/-- Why a computation has no answer. -/
inductive Stop (ε : Type) where
  /-- There is an error, of which its caller is told. -/
  | error (e : ε)
  /-- A number does not fit. -/
  | crash (q : Quantity) (unfit : q.fits = false)
  deriving DecidableEq, Repr

namespace Stop

variable {ε ε' α : Type}

/-- Rewords an error. There are no words for a crash. -/
def map (f : ε → ε') : Stop ε → Stop ε'
  | .error e => .error (f e)
  | .crash q unfit => .crash q unfit

/-- A result that cannot crash. -/
def lift (r : Except ε α) : Except (Stop ε) α := r.mapError .error

/-- What the caller of a computation is told: its answer or its error. A crash is not told
but goes on. -/
def told : Except (Stop ε) α → Except (Stop ε) (Except ε α)
  | .ok a => .ok (.ok a)
  | .error (.error e) => .ok (.error e)
  | .error (.crash q unfit) => .error (.crash q unfit)

/-- The error has a property, if it is one. -/
def Only (P : ε → Prop) (stop : Stop ε) : Prop := ∀ e, stop = .error e → P e

/-- **A computation crashes.** -/
def Crashes (x : Except (Stop ε) α) : Prop := ∃ q unfit, x = .error (.crash q unfit)

theorem only_error_iff {P : ε → Prop} {e : ε} : (error e).Only P ↔ P e :=
  ⟨fun h => h e rfl, fun h _ he => Stop.error.inj he ▸ h⟩

theorem only_crash {P : ε → Prop} {q : Quantity} (unfit : q.fits = false) :
    (crash q unfit : Stop ε).Only P := nofun

/-- Whatever the errors are that are reworded. -/
theorem only_map {P : ε' → Prop} {f : ε → ε'} (hf : ∀ e, P (f e)) (stop : Stop ε) :
    (stop.map f).Only P := by
  cases stop with
  | error e => exact only_error_iff.mpr (hf e)
  | crash q unfit => exact only_crash unfit

/-! ## What is caught and what is not

A result either is one that cannot crash or is a crash, and telling it to the caller
separates the two. -/

section Telling

variable {r : Except ε α} {x : Except (Stop ε) α} {stop : Stop ε} {a : α} {e : ε}

@[simp] theorem lift_ok (a : α) : lift (.ok a : Except ε α) = .ok a := rfl

@[simp] theorem lift_error (e : ε) : lift (.error e : Except ε α) = .error (.error e) := rfl

theorem lift_eq_ok_iff : lift r = .ok a ↔ r = .ok a := by
  cases r <;> simp

theorem lift_eq_error_iff : lift r = .error stop ↔ ∃ e, r = .error e ∧ stop = .error e := by
  cases r <;> simp [eq_comm]

theorem lift_inj {r' : Except ε α} : lift r = lift r' ↔ r = r' := by
  cases r <;> cases r' <;> simp

theorem map_lift {β : Type} (f : α → β) : (lift r).map f = lift (r.map f) := by
  cases r <;> rfl

theorem lift_eq_error_error_iff : lift r = .error (.error e) ↔ r = .error e := by
  cases r <;> simp

theorem not_crashes_lift (r : Except ε α) : ¬ Crashes (lift r) := by
  rintro ⟨q, unfit, h⟩
  obtain ⟨e, -, h⟩ := lift_eq_error_iff.mp h
  cases h

theorem not_crashes_ok (a : α) : ¬ Crashes (.ok a : Except (Stop ε) α) :=
  not_crashes_lift (.ok a)

theorem not_crashes_error (e : ε) : ¬ Crashes (.error (.error e) : Except (Stop ε) α) :=
  not_crashes_lift (.error e)

theorem crashes_crash {q : Quantity} (unfit : q.fits = false) :
    Crashes (.error (.crash q unfit) : Except (Stop ε) α) := ⟨q, unfit, rfl⟩

/-- A crash is one whatever the answer would have been. -/
theorem Crashes.error {β : Type} (h : Crashes (.error stop : Except (Stop ε) α)) :
    Crashes (.error stop : Except (Stop ε) β) := by
  obtain ⟨q, unfit, h⟩ := h
  exact Except.error.inj h ▸ crashes_crash unfit

theorem crashes_mapError_iff {f : ε → ε'} : Crashes (x.mapError (map f)) ↔ Crashes x := by
  rcases x with (e | ⟨q, unfit⟩) | a
  · exact iff_of_false (not_crashes_error (f e)) (not_crashes_error e)
  · exact iff_of_true (crashes_crash unfit) (crashes_crash unfit)
  · exact iff_of_false (not_crashes_ok a) (not_crashes_ok a)

theorem told_lift (r : Except ε α) : told (lift r) = .ok r := by
  cases r <;> rfl

theorem told_eq_ok_iff : told x = .ok r ↔ x = lift r := by
  constructor
  · intro h
    rcases x with (_ | _) | _
    · exact Except.ok.inj h ▸ rfl
    · cases h
    · exact Except.ok.inj h ▸ rfl
  · rintro rfl
    exact told_lift r

theorem told_eq_error_iff :
    told x = .error stop ↔ ∃ q unfit, stop = .crash q unfit ∧ x = .error (.crash q unfit) := by
  constructor
  · intro h
    rcases x with (_ | ⟨q, unfit⟩) | _
    · cases h
    · exact ⟨q, unfit, (Except.error.inj h).symm, rfl⟩
    · cases h
  · rintro ⟨q, unfit, rfl, rfl⟩
    rfl

theorem crashes_told_iff : Crashes (told x) ↔ Crashes x := by
  rcases x with (e | ⟨q, unfit⟩) | a
  · exact iff_of_false (not_crashes_ok _) (not_crashes_error e)
  · exact iff_of_true (crashes_crash unfit) (crashes_crash unfit)
  · exact iff_of_false (not_crashes_ok _) (not_crashes_ok a)

/-- A computation crashes in its first part, or in what comes after it. -/
theorem crashes_bind_iff {β : Type} {f : α → Except (Stop ε) β} :
    Crashes (x >>= f) ↔ Crashes x ∨ ∃ a, x = .ok a ∧ Crashes (f a) := by
  cases x with
  | ok a => simp [Bind.bind, Except.bind, not_crashes_ok a]
  | error stop =>
    show Crashes (.error stop) ↔ _
    exact ⟨fun h => .inl h.error, fun h => h.elim Crashes.error (by simp)⟩

/-- What does not crash is as good as a result that cannot. -/
theorem exists_lift_of_not_crashes (h : ¬ Crashes x) : ∃ r, x = lift r := by
  rcases x with (e | ⟨q, unfit⟩) | a
  · exact ⟨.error e, rfl⟩
  · exact absurd (crashes_crash unfit) h
  · exact ⟨.ok a, rfl⟩

end Telling

end Stop

namespace Quantity

variable {ε : Type} {q : Quantity} {stop : Stop ε}

/-- Goes on if a number fits, and crashes otherwise. -/
def check {ε : Type} (q : Quantity) : Except (Stop ε) Unit :=
  if unfit : q.fits = false then .error (.crash q unfit) else .ok ()

theorem check_of_fits (fits : q.fits = true) : (q.check : Except (Stop ε) Unit) = .ok () := by
  rw [check, dif_neg (by simp [fits])]

theorem check_of_unfit (unfit : q.fits = false) :
    (q.check : Except (Stop ε) Unit) = .error (.crash q unfit) :=
  dif_pos unfit

theorem crashes_check_iff : Stop.Crashes (q.check : Except (Stop ε) Unit) ↔ q.fits = false := by
  cases fits : q.fits with
  | true =>
    rw [check_of_fits fits]
    exact iff_of_false (Stop.not_crashes_ok _) (by simp)
  | false =>
    rw [check_of_unfit fits]
    exact iff_of_true (Stop.crashes_crash fits) rfl

/-- A number that does not fit is not an error. -/
theorem check_ne_error (q : Quantity) (e : ε) : q.check ≠ .error (.error e) := by
  rw [check]
  split <;> simp

end Quantity

example : (Quantity.span (.ofInt (pow2 64 - 2048))).fits = true := by decide +kernel
example : (Quantity.span (.ofInt (pow2 64))).fits = false := by decide +kernel

end CaseRunner
