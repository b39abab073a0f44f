import CaseRunner.Proofs.Variables.Keys
import CaseRunner.Proofs.Variables.Stored
import Mathlib.Data.List.Induction

/-!
# How long an entry of the cache lives

An entry lives from when it is set until it expires, is removed, or its key is set anew
(`Cache.Lives`). This is said of the calls that were made, not of what a cache holds. A
cache holds more: an entry that has expired stays until the next time that something is
set, whatever its key is (`Cache.lookup_after_iff`). Whether it is still there does not
show when its key is looked up, as its expiry is looked at as well
(`Cache.get?_after_iff`). But it shows when the key is removed: the answer is that there
was an entry (`Cache.holds_after_iff`). So the answers of a cache are those of a map of
what lives, but for the removal of an entry that lingers (`Cache.fits_iff`).

A time to live is added to the moment of the call, and the sum has to be a moment that the
clock can show. Where there is no room for it the call has no answer, and neither has any
call after it. So what is said of a cache after some calls is said of calls for which there
was room, and what happens to the first for which there is none is a case of its own.
-/

namespace CaseRunner

/-- What a cache is asked to do with a key. -/
inductive CacheCall.Act where
  /-- To set it, for a while if a time to live is given. -/
  | set (value : String) (ttl : Option Nat)
  /-- To look it up. -/
  | get
  /-- To remove it. -/
  | delete

/-- A call of a cache. -/
structure CacheCall where
  /-- The moment of the call. -/
  moment : Moment
  /-- The key of the call. -/
  key : String
  /-- What is to be done with it. -/
  act : CacheCall.Act

/-- What a cache answers. -/
inductive CacheAnswer where
  /-- The key was set. -/
  | done
  /-- The value that was found, if there was one. -/
  | found (value? : Option String)
  /-- The key was removed. Was there an entry? -/
  | removed (there : Bool)
  /-- There is no answer, as there is no room for the moment at which an entry expires. -/
  | crashed
  deriving DecidableEq

namespace CacheCall

/-- Something is set by the call. -/
def Sets (call : CacheCall) : Prop := ∃ value ttl, call.act = .set value ttl

/-- **Is there room** for the moment at which an entry expires, if the call sets one that
does? This depends on the call alone: on its moment and on the time to live that it names.
-/
def hasRoom (call : CacheCall) : Bool :=
  match call.act with
  | .set _ (some ttl) => (Quantity.moment (call.moment + ttl)).fits
  | .set _ none | .get | .delete => true

end CacheCall

namespace Cache

/-- The answer to a call, and the cache after it. A call that crashes leaves the cache as
it is, not that anybody would see it. -/
def perform (c : Cache) (call : CacheCall) : CacheAnswer × Cache :=
  match call.act with
  | .set value ttl =>
    match (ttl.mapM (expiryAfter call.moment) : Except (Stop RunError) (Option Moment)) with
    | .ok expiry => (.done, c.set call.key value expiry call.moment)
    | .error _ => (.crashed, c)
  | .get => (.found (c.get? call.key call.moment), c)
  | .delete => (.removed (c.holds call.key), c.erase call.key)

/-- The cache after calls in turn. -/
def after (past : List CacheCall) : Cache := past.foldl (fun c call => (c.perform call).2) empty

/-- The answer to a call after other calls in turn. -/
def answer (past : List CacheCall) (call : CacheCall) : CacheAnswer :=
  ((after past).perform call).1

/-- **The clock does not go back** from one call to a later one. -/
def InTurn (calls : List CacheCall) : Prop := calls.Pairwise fun a b => a.moment ≤ b.moment

instance (calls : List CacheCall) : Decidable (InTurn calls) :=
  inferInstanceAs (Decidable (List.Pairwise _ _))

/-! ## What lives -/

/-- **A key was last set** to an entry, before certain calls that have neither set nor
removed it. The calls since are kept as part of the statement, because what was set among
them decides about what the cache drops, even if it concerns other keys. -/
structure LastSet (past : List CacheCall) (key : String) (e : CacheEntry)
    (since : List CacheCall) : Prop where
  /-- It was set. -/
  begun : ∃ before moment ttl,
    past = before ++ ⟨moment, key, .set e.value ttl⟩ :: since
      ∧ e.expiry = ttl.map fun t : Nat => moment + t
  /-- It was only looked up since. -/
  kept : ∀ call ∈ since, call.key = key → call.act = .get

/-- **A value lives** under a key after certain calls: the key was last set to it, and it
has not expired. This mentions neither the cache nor when it drops entries, and it is what
a user of the cache has in mind. -/
def Lives (past : List CacheCall) (key value : String) (now : Moment) : Prop :=
  ∃ e since, LastSet past key e since ∧ e.value = value ∧ e.isExpired now = false

/-- **An entry lingers**: it has expired, and nothing at all has been set since then. It is
no longer alive and not yet dropped; and no passing of time will drop it, but only the next
call that sets something. -/
def Lingers (past : List CacheCall) (key : String) (now : Moment) : Prop :=
  ∃ e since, LastSet past key e since ∧ e.isExpired now = true
    ∧ ∀ call ∈ since, call.Sets → e.isExpired call.moment = false

/-- **An answer fits what lives**: a value is found if it lives, and an entry is removed if
some value lives. To set a key is simply done, which a crash is not. -/
def Fits (past : List CacheCall) (call : CacheCall) (a : CacheAnswer) : Prop :=
  match call.act with
  | .set .. => a = .done
  | .get => ∃ value?, a = .found value?
      ∧ ∀ value, value? = some value ↔ Lives past call.key value call.moment
  | .delete => ∃ there, a = .removed there
      ∧ (there = true ↔ ∃ value, Lives past call.key value call.moment)

section Calls

variable {past since : List CacheCall} {call : CacheCall} {key : String} {e : CacheEntry}
  {now : Moment}

section Setting

variable {c : Cache} {value : String} {ttl : Option Nat}

theorem perform_set (room : CacheCall.hasRoom ⟨now, key, .set value ttl⟩ = true) :
    c.perform ⟨now, key, .set value ttl⟩
      = (.done, c.set key value (ttl.map fun t : Nat => now + t) now) := by
  cases ttl with
  | none => rfl
  | some ttl =>
    have expiry : ((some ttl).mapM (expiryAfter now) : Except (Stop RunError) (Option Moment))
        = .ok (some (now + ttl)) :=
      congrArg (some <$> ·) (expiryAfter_of_fits room)
    rw [perform]
    dsimp only
    rw [expiry]
    rfl

/-- A call for which there is no room leaves the cache as it is. -/
theorem perform_of_crash (crash : call.hasRoom = false) : c.perform call = (.crashed, c) := by
  obtain ⟨now, key, act⟩ := call
  match act with
  | .set value (some ttl) =>
    have expiry : ((some ttl).mapM (expiryAfter now) : Except (Stop RunError) (Option Moment))
        = .error (.crash (.moment (now + ttl)) crash) :=
      congrArg (some <$> ·) (expiryAfter_of_unfit crash)
    rw [perform]
    dsimp only
    rw [expiry]
  | .set value none | .get | .delete => cases crash

end Setting

theorem not_lastSet_nil : ¬ LastSet [] key e since := by
  rintro ⟨⟨before, moment, ttl, h, -⟩, -⟩
  simp at h

/-- The key was last set by the last call, or by an earlier one and kept by the last. -/
theorem lastSet_append_iff : LastSet (past ++ [call]) key e since ↔
    (since = [] ∧ ∃ ttl, call = ⟨call.moment, key, .set e.value ttl⟩
        ∧ e.expiry = ttl.map fun t : Nat => call.moment + t)
      ∨ ∃ earlier, since = earlier ++ [call] ∧ LastSet past key e earlier
        ∧ (call.key = key → call.act = .get) := by
  constructor
  · rintro ⟨⟨before, moment, ttl, h, expiry⟩, kept⟩
    rcases List.eq_nil_or_concat since with rfl | ⟨earlier, last, rfl⟩
    · obtain ⟨-, h⟩ := List.append_inj' h rfl
      obtain rfl := (List.cons.inj h).1
      exact .inl ⟨rfl, ttl, rfl, expiry⟩
    · rw [List.concat_eq_append] at h kept ⊢
      rw [← List.cons_append, ← List.append_assoc] at h
      obtain ⟨rfl, hlast⟩ := List.append_inj' h rfl
      obtain rfl := List.singleton_inj.mp hlast
      exact .inr ⟨earlier, rfl, ⟨⟨before, moment, ttl, rfl, expiry⟩,
        fun c hc => kept c (List.mem_append_left _ hc)⟩, kept call (by simp)⟩
  · rintro (⟨rfl, ttl, hcall, expiry⟩ | ⟨earlier, rfl, ⟨⟨before, moment, ttl, rfl, expiry⟩, kept⟩,
      last⟩)
    · exact ⟨⟨past, call.moment, ttl, by rw [← hcall], expiry⟩, nofun⟩
    · refine ⟨⟨before, moment, ttl, by simp, expiry⟩, fun c hc => ?_⟩
      rcases List.mem_append.mp hc with hc | hc
      · exact kept c hc
      · exact List.mem_singleton.mp hc ▸ last

/-! ## What a cache holds -/

/-- **An entry is kept** by a cache: the key was last set to it, and it had not expired
whenever something was set since. An entry may have expired when its own key is set, if its
time to live is zero, and it is kept all the same: entries are dropped before the new one
is put in. -/
def Kept (past : List CacheCall) (key : String) (e : CacheEntry) : Prop :=
  ∃ since, LastSet past key e since ∧ ∀ call ∈ since, call.Sets → e.isExpired call.moment = false

/-- A call that leaves the key as it is keeps its entry, unless something is set and the entry
has expired. -/
theorem kept_append_of_leaves (leaves : call.key = key → call.act = .get) :
    Kept (past ++ [call]) key e ↔
      Kept past key e ∧ (call.Sets → e.isExpired call.moment = false) := by
  unfold Kept
  simp only [lastSet_append_iff]
  constructor
  · rintro ⟨since, ⟨rfl, ttl, hcall, -⟩ | ⟨earlier, rfl, last, -⟩, fresh⟩
    · rw [hcall] at leaves
      cases leaves rfl
    · exact ⟨⟨earlier, last, fun c hc => fresh c (List.mem_append_left _ hc)⟩,
        fresh call (by simp)⟩
  · rintro ⟨⟨earlier, last, fresh⟩, now⟩
    refine ⟨earlier ++ [call], .inr ⟨earlier, rfl, last, leaves⟩, fun c hc => ?_⟩
    rcases List.mem_append.mp hc with hc | hc
    · exact fresh c hc
    · exact List.mem_singleton.mp hc ▸ now

/-- A call that sets or removes the key leaves only the entry that it sets. -/
theorem kept_append_of_ends (ends : call.act ≠ .get) :
    Kept (past ++ [call]) call.key e ↔
      ∃ ttl, call.act = .set e.value ttl ∧ e.expiry = ttl.map fun t : Nat => call.moment + t := by
  unfold Kept
  simp only [lastSet_append_iff]
  constructor
  · rintro ⟨since, ⟨rfl, ttl, hcall, expiry⟩ | ⟨earlier, rfl, -, leaves⟩, -⟩
    · exact ⟨ttl, congrArg CacheCall.act hcall, expiry⟩
    · exact absurd (leaves trivial) ends
  · rintro ⟨ttl, hact, expiry⟩
    exact ⟨[], .inl ⟨rfl, ttl, hact ▸ rfl, expiry⟩, nofun⟩

theorem after_append (past : List CacheCall) (call : CacheCall) :
    after (past ++ [call]) = ((after past).perform call).2 := List.foldl_concat ..

/-- Whatever calls were made, no key has two entries. -/
theorem sound_after (past : List CacheCall) : (after past).Sound := by
  induction past using List.reverseRecOn with
  | nil => exact sound_empty
  | append_singleton past call ih =>
    rw [after_append, perform]
    cases call.act with
    | set value ttl =>
      dsimp only
      split
      · exact ih.set _ _ _ _
      · exact ih
    | get => exact ih
    | delete => exact ih.erase _

/-- **What a cache holds** after calls in turn that have had answers. By induction on the
calls. A call under another key keeps the entry, unless something is set and the entry has
expired by then, and a call under the key itself decides alone what is held. -/
theorem lookup_after_iff (room : ∀ call ∈ past, call.hasRoom = true) :
    (after past).entries.lookup key = some e ↔ Kept past key e := by
  induction past using List.reverseRecOn with
  | nil => exact iff_of_false nofun fun ⟨_, last, _⟩ => not_lastSet_nil last
  | append_singleton past call ih =>
    rw [after_append]
    rw [List.forall_mem_append, List.forall_mem_singleton] at room
    have ih := ih room.1
    obtain ⟨moment, own, act⟩ := call
    cases act with
    | get =>
      rw [kept_append_of_leaves fun _ => rfl]
      exact ih.trans (and_iff_left fun ⟨_, _, sets⟩ => nomatch sets).symm
    | delete =>
      dsimp only [perform, erase]
      by_cases same : own = key
      · subst same
        have ends : CacheCall.act ⟨moment, own, .delete⟩ ≠ .get := nofun
        rw [lookup_filter_self, kept_append_of_ends ends]
        exact iff_of_false nofun fun ⟨_, h, _⟩ => nomatch h
      · rw [lookup_filter_of_ne (Ne.symm same), kept_append_of_leaves fun h => absurd h same]
        exact ih.trans (and_iff_left fun ⟨_, _, sets⟩ => nomatch sets).symm
    | set value ttl =>
      rw [perform_set room.2]
      dsimp only [set]
      rw [List.lookup_cons]
      by_cases same : own = key
      · subst same
        have ends : CacheCall.act ⟨moment, own, .set value ttl⟩ ≠ .get := nofun
        rw [kept_append_of_ends ends, beq_self_eq_true]
        constructor
        · intro h
          cases Option.some.inj h
          exact ⟨ttl, rfl, rfl⟩
        · rintro ⟨ttl', hact, hexpiry⟩
          obtain ⟨rfl, rfl⟩ := CacheCall.Act.set.inj hact
          exact congrArg some (congrArg (CacheEntry.mk e.value) hexpiry.symm)
      · rw [kept_append_of_leaves fun h => absurd h same, beq_false_of_ne (Ne.symm same),
          lookup_filter_of_ne (Ne.symm same), live, lookup_filter_of_nodup (sound_after past),
          Option.filter_eq_some_iff, ih, Bool.not_eq_true']
        exact and_congr_right fun _ => ⟨fun fresh _ => fresh, fun h => h ⟨value, ttl, rfl⟩⟩

/-! ## What is answered -/

/-- What has not expired had not expired before. -/
theorem isExpired_of_le {t : Moment} (h : e.isExpired now = false) (hle : t ≤ now) :
    e.isExpired t = false := by
  cases ht : e.isExpired t with
  | false => rfl
  | true => rw [isExpired_mono ht hle] at h; cases h

/-- **A key is found if a value lives under it.** An expired entry does not show, whether
it has been dropped or not. That the clock does not go back is needed here: an entry that
was dropped because it had expired is missed by nobody only if it has expired for good. -/
theorem get?_after_iff {value : String} (turn : InTurn (past ++ [call]))
    (room : ∀ c ∈ past, c.hasRoom = true) :
    (after past).get? call.key call.moment = some value ↔
      Lives past call.key value call.moment := by
  have earlier : ∀ c ∈ past, c.moment ≤ call.moment := fun c hc =>
    (List.pairwise_append.mp turn).2.2 c hc call (by simp)
  rw [get?, Option.map_eq_some_iff]
  simp only [Option.filter_eq_some_iff, lookup_after_iff room, Bool.not_eq_true']
  constructor
  · rintro ⟨e, ⟨⟨since, last, -⟩, fresh⟩, rfl⟩
    exact ⟨e, since, last, rfl, fresh⟩
  · rintro ⟨e, since, last, rfl, fresh⟩
    refine ⟨e, ⟨⟨since, last, fun c hc _ => isExpired_of_le fresh (earlier c ?_)⟩, fresh⟩, rfl⟩
    obtain ⟨before, moment, ttl, rfl, -⟩ := last.begun
    exact List.mem_append_right _ (List.mem_cons_of_mem _ hc)

/-- **A key is held if a value lives under it, or lingers.** A value lingers whose time is
up, until something else is set. -/
theorem holds_after_iff (turn : InTurn (past ++ [call]))
    (room : ∀ c ∈ past, c.hasRoom = true) :
    (after past).holds call.key = true ↔
      (∃ value, Lives past call.key value call.moment) ∨ Lingers past call.key call.moment := by
  simp only [← get?_after_iff turn room]
  rw [holds, Option.isSome_iff_exists]
  constructor
  · rintro ⟨e, he⟩
    cases fresh : e.isExpired call.moment with
    | false => exact .inl ⟨e.value, by simp [get?, he, Option.filter, fresh]⟩
    | true =>
      obtain ⟨since, last, kept⟩ := (lookup_after_iff room).mp he
      exact .inr ⟨e, since, last, fresh, kept⟩
  · rintro (⟨value, h⟩ | ⟨e, since, last, -, kept⟩)
    · obtain ⟨e, he, -⟩ := Option.map_eq_some_iff.mp h
      exact ⟨e, (Option.filter_eq_some_iff.mp he).1⟩
    · exact ⟨e, (lookup_after_iff room).mpr ⟨since, last, kept⟩⟩

/-- What lingers does not live. -/
theorem Lingers.not_lives (h : Lingers past call.key call.moment)
    (turn : InTurn (past ++ [call])) (room : ∀ c ∈ past, c.hasRoom = true) (value : String) :
    ¬ Lives past call.key value call.moment := by
  obtain ⟨e, since, last, expired, kept⟩ := h
  have held : (after past).entries.lookup call.key = some e :=
    (lookup_after_iff room).mpr ⟨since, last, kept⟩
  rw [← get?_after_iff turn room]
  simp [get?, held, Option.filter, expired]

/-- **The answers of a cache fit what lives, but for one.** After any calls that have had
answers, at moments that do not go back, a value is found under a key exactly if it lives,
and that something was removed is said exactly if something lives. Only where an entry is
removed that lingers the answer is that there was one; and where there is no room for the
moment at which an entry expires there is no answer.

The exception is exact: every removal of an entry that lingers gets the wrong answer, and
no other call does. It makes the answer depend on calls under other keys, since it is these
that decide whether the entry still lingers. -/
theorem fits_iff (turn : InTurn (past ++ [call])) (room : ∀ c ∈ past, c.hasRoom = true) :
    (Fits past call (answer past call) ↔
        call.hasRoom = true ∧ ¬ (call.act = .delete ∧ Lingers past call.key call.moment))
      ∧ (call.act = .delete → Lingers past call.key call.moment →
        answer past call = .removed true)
      ∧ (call.hasRoom = false → answer past call = .crashed) := by
  refine ⟨?_, fun deletes lingers => ?_, fun crash => congrArg Prod.fst (perform_of_crash crash)⟩
  · obtain ⟨now, key, act⟩ := call
    cases act with
    | set value ttl =>
      rw [and_iff_left nofun]
      show answer past ⟨now, key, .set value ttl⟩ = .done ↔ _
      unfold answer
      cases room' : CacheCall.hasRoom ⟨now, key, .set value ttl⟩ with
      | true => simp [perform_set room']
      | false => simp [perform_of_crash room']
    | get => exact iff_of_true ⟨_, rfl, fun value => get?_after_iff turn room⟩ ⟨rfl, nofun⟩
    | delete =>
      have held := holds_after_iff turn room
      refine ⟨?_, fun ⟨_, fresh⟩ => ?_⟩
      · rintro ⟨there, h, right⟩
        refine ⟨rfl, fun ⟨_, lingers⟩ => ?_⟩
        obtain rfl := CacheAnswer.removed.inj h
        obtain ⟨value, lives⟩ := right.mp (held.mpr (.inr lingers))
        exact lingers.not_lives turn room value lives
      · exact ⟨_, rfl, held.trans (or_iff_left fun lingers => fresh ⟨rfl, lingers⟩)⟩
  · rw [answer, perform, deletes]
    exact congrArg CacheAnswer.removed ((holds_after_iff turn room).mpr (.inr lingers))

end Calls

/-- An entry that is dropped before it is looked up, having expired, and one that is kept. -/
theorem fits_of_dropped :
    let past : List CacheCall :=
      [⟨0, "a", .set "1" (some 5)⟩, ⟨0, "b", .set "2" (some 9)⟩, ⟨6, "c", .set "3" none⟩]
    InTurn (past ++ [⟨7, "a", .get⟩]) ∧ (∀ c ∈ past, c.hasRoom = true)
      ∧ Fits past ⟨7, "a", .get⟩ (answer past ⟨7, "a", .get⟩)
      ∧ answer past ⟨7, "a", .get⟩ = .found none
      ∧ InTurn (past ++ [⟨8, "b", .delete⟩])
      ∧ Fits past ⟨8, "b", .delete⟩ (answer past ⟨8, "b", .delete⟩)
      ∧ answer past ⟨8, "b", .delete⟩ = .removed true := by
  intro past
  have looked : InTurn (past ++ [⟨7, "a", .get⟩]) := by decide
  have removed : InTurn (past ++ [⟨8, "b", .delete⟩]) := by decide
  have room : ∀ c ∈ past, c.hasRoom = true := by decide +kernel
  have lives : Lives past "b" "2" 8 := (get?_after_iff removed room).mp (by decide +kernel)
  refine ⟨looked, room, (fits_iff looked room).1.mpr ⟨rfl, ?_⟩, by decide +kernel, removed,
    (fits_iff removed room).1.mpr ⟨rfl, ?_⟩, by decide +kernel⟩
  · exact fun h => nomatch h.1
  · exact fun h => h.2.not_lives removed room "2" lives

/-- **An expired entry is said to be there when it is removed**, although it is not found, unless
something else was set in between. -/
theorem removes_expired :
    let past : List CacheCall := [⟨0, "a", .set "1" (some 0)⟩]
    let removal : CacheCall := ⟨0, "a", .delete⟩
    InTurn (past ++ [removal]) ∧ (after past).get? "a" 0 = none
      ∧ answer past removal = .removed true ∧ ¬ Fits past removal (answer past removal)
      ∧ answer (past ++ [⟨0, "b", .set "2" none⟩]) removal = .removed false
      ∧ ∃ s, Yields (Store.put 0 "a" "1" .cache (some 0)) ({}, .empty) (.ok ()) (s, .empty)
        ∧ s.lookup 0 "a" (some .cache) = none
        ∧ Yields (Store.delete "a" .cache) (s, .empty) (.ok true) ({}, .empty) := by
  intro past removal
  have turn : InTurn (past ++ [removal]) := by decide
  have room : ∀ c ∈ past, c.hasRoom = true := by decide +kernel
  have absent : (after past).get? "a" 0 = none := by decide +kernel
  have reported : answer past removal = .removed true := by decide +kernel
  refine ⟨turn, absent, reported, ?_, by decide +kernel,
    { cache := ⟨[("a", ⟨"1", some 0⟩)]⟩ }, by decide +kernel, by decide, by decide +kernel⟩
  rintro ⟨there, h, right⟩
  obtain rfl : true = there := CacheAnswer.removed.inj (reported.symm.trans h)
  obtain ⟨value, lives⟩ := right.mp rfl
  exact nomatch absent.symm.trans ((get?_after_iff turn room).mpr lives)

end Cache

end CaseRunner
