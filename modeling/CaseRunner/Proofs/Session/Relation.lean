import CaseRunner.Proofs.Placeholder.Relations
import CaseRunner.Proofs.Session.Course

/-!
# Where the values of relation variables come from

Relation variables are meant to belong to one execution of a case: its setup
stores them, its request takes them. But they are kept in the cache of the
session, under keys that say nothing of the execution, and go away only when
some request takes them. So what a request gets is whatever was stored last
under the name, by the setup of any execution or by a teardown that sets the
variable of the same key (`Suite.fills_lastStored`). It is what the case
itself has stored if nothing was stored since then by others, and not
otherwise: what one execution leaves behind, the next one takes for its own
(`Suite.fills_left_over`).

What a request gets is read off the journal, which is told of the values when
they are put in; that it is these that are put in is
`putInto_of_fillRelations`.
-/

namespace CaseRunner

/-! ## What the journal tells of relation variables -/

/-- The value that something that happens stores under the name of a relation variable.
There are two ways: a setup relates the name to a value, or a variable of the cache is set
whose key happens to be the key of the name. -/
def Happening.stores? (name : String) : Happening → Option String
  | .related other value => if other = name then some value else none
  | .assigned key value .cache =>
    if key = Store.relationKey name then some value else none
  | _ => none

namespace Journal

/-- **The value stored last** under the name of a relation variable, by whatever stored it.
The journal has its latest happening in front, so the last is the first that is found. -/
def lastStored (name : String) (j : Journal) : Option String :=
  j.findSome? (Happening.stores? name)

/-- **The value that the setup of the present execution stored last** under the
name of a relation variable. The executions inside the present one, of which so
many are being skipped, are no part of it. -/
def ownStored (name : String) : Nat → Journal → Option String
  | _, [] => none
  | inside, .left _ :: before => ownStored name (inside + 1) before
  | 0, .entered _ :: _ => none
  | inside + 1, .entered _ :: before => ownStored name inside before
  | 0, .related other value :: before =>
    if other = name then some value else ownStored name 0 before
  | inside, _ :: before => ownStored name inside before

/-- **What was put into requests**: the relation variables with their values, each time
with what had happened before. The journal before is kept, because it depends on the moment
which value was stored last. -/
def fills : Journal → List (List (String × String) × Journal)
  | [] => []
  | .filled values :: before => (values, before) :: fills before
  | _ :: before => fills before

theorem lastStored_cons (name : String) (x : Happening) (before : Journal) :
    lastStored name (x :: before) = (x.stores? name).or (lastStored name before) := by
  unfold lastStored
  rw [List.findSome?_cons]
  cases x.stores? name <;> rfl

/-- Where the present execution has stored something, something was stored. -/
theorem lastStored_isSome_of_ownStored {name value : String} {inside : Nat} {j : Journal}
    (h : ownStored name inside j = some value) : (lastStored name j).isSome = true := by
  induction j generalizing inside with
  | nil => cases h
  | cons x before ih =>
    rw [lastStored_cons, Option.isSome_or, Bool.or_eq_true]
    -- only a value stored outside the executions inside is the present one's own
    cases x with
    | left id => exact .inr (ih h)
    | entered id =>
      cases inside with
      | zero => cases h
      | succ inside => exact .inr (ih h)
    | related other stored =>
      cases inside with
      | zero =>
        change (if other = name then some stored else ownStored name 0 before)
          = some value at h
        split at h
        next hname => exact .inl (by simp [Happening.stores?, hname])
        next => exact .inr (ih h)
      | succ inside => exact .inr (ih h)
    | moved | checked | assigned | filled | sent | measured =>
      cases inside <;> exact .inr (ih h)

end Journal

/-- **What is noted is what the request gets**: the document of a request becomes
what it would become from the noted values alone. -/
theorem putInto_of_fillRelations {location : String} {d filled : Document}
    {s t : Session} (h : Yields (fillRelations location d) s (.ok filled) t) :
    ∃ values, t.journal = .filled values :: s.journal
      ∧ Placeholder.putInto values d = .ok filled := by
  obtain ⟨⟨filled, store⟩, u, hres, h⟩ := yields_bind_ok_iff.mp (yields_get_bind_iff.mp h)
  obtain ⟨hok, rfl⟩ := yields_mk_pure_iff.mp hres
  have h := yields_modify_bind_iff.mp (Session.yields_record_bind_iff.mp h)
  obtain ⟨heq, rfl⟩ := yields_pure_iff.mp h
  cases heq
  exact ⟨_, rfl, Placeholder.putInto_of_replaceRelations (Stop.lift_eq_ok_iff.mp hok.symm)⟩

/-! ## What the cache holds -/

namespace Cache

/-- The cache holds a value under a key, expired or not. Whether a value has expired is a
matter of the clock, and what is said here holds at all times. -/
def Offers (c : Cache) (key value : String) : Prop :=
  ∃ e, (key, e) ∈ c.entries ∧ e.value = value

variable {c : Cache} {key value other v : String} {now : Moment}
  {expiry : Option Moment}

theorem offers_of_get? (h : c.get? key now = some value) : c.Offers key value := by
  obtain ⟨e, he, rfl⟩ := Option.map_eq_some_iff.mp h
  obtain ⟨hlookup, -⟩ := Option.filter_eq_some_iff.mp he
  obtain ⟨l₁, l₂, hl, -⟩ := List.lookup_eq_some_iff.mp hlookup
  exact ⟨e, by rw [hl]; simp, rfl⟩

theorem offers_of_set (h : (c.set key value expiry now).Offers other v) :
    (other = key ∧ v = value) ∨ (other ≠ key ∧ c.Offers other v) := by
  obtain ⟨e, he, rfl⟩ := h
  rcases List.mem_cons.mp he with he | he
  · obtain ⟨rfl, rfl⟩ := Prod.mk.inj he
    exact .inl ⟨rfl, rfl⟩
  · obtain ⟨hlive, hne⟩ := List.mem_filter.mp he
    exact .inr ⟨by simpa using hne, e, (List.mem_filter.mp hlive).1, rfl⟩

theorem offers_of_erase (h : (c.erase key).Offers other v) : c.Offers other v := by
  obtain ⟨e, he, rfl⟩ := h
  exact ⟨e, (List.mem_filter.mp he).1, rfl⟩

end Cache

namespace Store

variable {s : Store} {name value : String}

theorem offers_of_eraseRelation (names : List String) {key : String}
    (h : (names.foldl eraseRelation s).cache.Offers key value) :
    s.cache.Offers key value := by
  induction names generalizing s with
  | nil => exact h
  | cons name names ih => exact Cache.offers_of_erase (ih h)

theorem relationKey_inj {other : String} :
    relationKey name = relationKey other ↔ name = other :=
  String.append_right_inj _

/-- The token is kept under the key of no relation variable. -/
theorem relationKey_ne_tokenKey (name : String) :
    relationKey name ≠ Session.tokenKey := by
  intro h
  have := congrArg (fun s => s.toList.head?) h
  simp [relationKey, Session.tokenKey] at this

end Store

/-! ## Accounting for values -/

/-- **Where a value comes from** that is found under the name of a relation variable: it
was stored last since a session began, or nothing was stored since, and the cache held it
then. Taking a value out of the cache is no third case, for a value that is gone is not
found. -/
def Comes (start : Session) (news : Journal) (name value : String) : Prop :=
  match Journal.lastStored name news with
  | some stored => value = stored
  | none => start.store.cache.Offers (Store.relationKey name) value

/-- **All values are accounted for**: those that the cache now holds, and those that were
put into requests since a session began. Values are put into requests from the cache, so
the first is what has to be known to keep the second true. -/
structure Accounts (start : Session) (news : Journal) (t : Session) : Prop where
  /-- What has happened since. -/
  journal : t.journal = news ++ start.journal
  /-- What the cache holds. -/
  cache : ∀ name value, t.store.cache.Offers (Store.relationKey name) value →
    Comes start news name value
  /-- What was put into requests. -/
  fills : ∀ f ∈ Journal.fills news, ∀ v ∈ f.1, Comes start f.2 v.1 v.2

namespace Accounts

variable {start s t : Session} {news : Journal} {x : Happening}

theorem refl (start : Session) : Accounts start [] start :=
  ⟨rfl, fun _ _ h => h, fun _ h => (by cases h)⟩

/-- Something happens that puts nothing into a request. -/
theorem of_cons (h : Accounts start news s) (journal : t.journal = x :: s.journal)
    (hx : ∀ values, x ≠ .filled values)
    (cache : ∀ name value, t.store.cache.Offers (Store.relationKey name) value →
      Comes start (x :: news) name value) : Accounts start (x :: news) t := by
  refine ⟨by rw [journal, h.journal, List.cons_append], cache, ?_⟩
  have hfills : Journal.fills (x :: news) = Journal.fills news := by
    cases x with
    | filled values => exact absurd rfl (hx values)
    | entered | left | moved | checked | related | assigned | sent | measured => rfl
  rw [hfills]
  exact h.fills

/-- Something happens that stores nothing. -/
theorem noting (h : Accounts start news s) (hx : ∀ values, x ≠ .filled values)
    (hstores : ∀ name, x.stores? name = none) (journal : t.journal = x :: s.journal)
    (cache : t.store.cache = s.store.cache) : Accounts start (x :: news) t := by
  refine h.of_cons journal hx fun name value hoffers => ?_
  unfold Comes
  rw [Journal.lastStored_cons, hstores, Option.none_or]
  exact h.cache name value (cache ▸ hoffers)

/-- A value is stored under the key of a relation variable, or under another
key. -/
theorem storing (h : Accounts start news s) {key stored : String}
    {expiry : Option Moment} {now : Moment} (hx : ∀ values, x ≠ .filled values)
    (hstores : ∀ name,
      x.stores? name = if key = Store.relationKey name then some stored else none)
    (journal : t.journal = x :: s.journal)
    (cache : t.store.cache = s.store.cache.set key stored expiry now) :
    Accounts start (x :: news) t := by
  refine h.of_cons journal hx fun name value hoffers => ?_
  unfold Comes
  rw [Journal.lastStored_cons, hstores]
  rw [cache] at hoffers
  rcases Cache.offers_of_set hoffers with ⟨rfl, rfl⟩ | ⟨hne, hoffers⟩
  · rw [if_pos rfl, Option.some_or]
  · rw [if_neg (Ne.symm hne), Option.none_or]
    exact h.cache name value hoffers

/-- **Turns keep all values accounted for.** Only turns write to the cache, and so there is
nothing else to be shown of a run. -/
theorem of_turn (h : Accounts start news s) (turn : Session.Turn s t) :
    ∃ news, Accounts start news t := by
  cases turn with
  | aside journal cache =>
    exact ⟨news, journal.trans h.journal, fun n v hv => h.cache n v (cache ▸ hv), h.fills⟩
  | kept token expiry =>
    refine ⟨news, h.journal, fun name value hoffers => ?_, h.fills⟩
    rcases Cache.offers_of_set hoffers with ⟨hkey, -⟩ | ⟨-, hoffers⟩
    · exact absurd hkey (Store.relationKey_ne_tokenKey name)
    · exact h.cache name value hoffers
  | moved id st => exact ⟨_, h.noting (by simp) (fun _ => rfl) rfl rfl⟩
  | loggedIn r => exact ⟨_, h.noting (by simp) (fun _ => rfl) rfl rfl⟩
  | related name value =>
    refine ⟨_, h.storing (x := .related name value) (by simp) (fun other => ?_) rfl rfl⟩
    simp only [Happening.stores?, Store.relationKey_inj]
  | @assigned key value scope t journal cache =>
    have told : (t.noting (.assigned key value scope)).journal
      = .assigned key value scope :: s.journal := congrArg (List.cons _) journal
    cases scope with
    | cache => exact ⟨_, h.storing (by simp) (fun _ => rfl) told cache⟩
    | env => exact ⟨_, h.noting (by simp) (fun _ => rfl) told cache⟩
    | global => exact ⟨_, h.noting (by simp) (fun _ => rfl) told cache⟩
  | filled values names found =>
    refine ⟨.filled values :: news, congrArg (List.cons _) h.journal, ?_, ?_⟩
    · intro name value hoffers
      exact h.cache name value (Store.offers_of_eraseRelation names hoffers)
    · refine List.forall_mem_cons.mpr ⟨fun v hv => ?_, h.fills⟩
      exact h.cache v.1 v.2 (Cache.offers_of_get? (found v hv))
  | measured q => exact ⟨_, h.noting (by simp) (fun _ => rfl) rfl rfl⟩

end Accounts

/-! ## Runs -/

/-- If all values are accounted for before, they are afterwards. -/
def KeepsAccounts (start s t : Session) : Prop :=
  (∃ news, Accounts start news s) → ∃ news, Accounts start news t

section Runs

variable {start : Session}

instance : IsPreorder Session (KeepsAccounts start) where
  refl _ := id
  trans _ _ _ h h' := h' ∘ h

theorem Session.Quietly.keepsAccounts {s t : Session} (h : Session.Quietly s t) :
    KeepsAccounts start s t := by
  induction h with
  | refl => exact id
  | tail _ turn ih => exact fun hs => (ih hs).elim fun _ accounts => accounts.of_turn turn

/-- So they are if something happens that neither stores a value nor puts one
into a request. -/
theorem keepsAccounts_noting {s : Session} {x : Happening}
    (hx : ∀ values, x ≠ .filled values) (hstores : ∀ name, x.stores? name = none) :
    KeepsAccounts start s (s.noting x) :=
  fun ⟨_, accounts⟩ => ⟨_, accounts.noting hx hstores rfl rfl⟩

/-- **Every run keeps all values accounted for.** Also one that crashes, since it is said
of what was done until then. -/
theorem keepsAccounts_runToDepth (suite : Suite) (depth : Nat) {id : String}
    {s t : Session} {r : Except (Stop RunError) Report}
    (h : Yields (runToDepth suite depth id) s r t) : KeepsAccounts start s t := by
  have inside : ∀ {entry : CaseEntry} {s t : Session}
      {o : Except (Stop RunError) (Option String)},
      Performs suite (fun _ s _ t => KeepsAccounts start s t) entry s o t →
      KeepsAccounts start s t := by
    intro entry s t o run
    refine run.along (fun _ _ => Session.Quietly.keepsAccounts) ?_ ?_
    · intro step s r t _ setup
      refine setup.along (fun _ _ => Session.Quietly.keepsAccounts) ?_ ?_
      · exact fun _ _ s fault _ => keepsAccounts_noting (by simp) fun _ => rfl
      · intro id _ s r t _ run
        exact run ∘ keepsAccounts_noting (by simp) fun _ => rfl
    · exact fun s request => keepsAccounts_noting (by simp) fun _ => rfl
  have begun (s : Session) (id : String) : KeepsAccounts start s (s.noting (.entered id)) :=
    keepsAccounts_noting (by simp) fun _ => rfl
  refine runToDepth_induct (fun _ s _ t => KeepsAccounts start s t) ?_ ?_ ?_ depth h
  · exact fun _ s _ => refl_of (KeepsAccounts start) s
  · intro id entry outcome report s u _ run _
    have left : KeepsAccounts start u (u.noting (.left id)) :=
      keepsAccounts_noting (by simp) fun _ => rfl
    have done : KeepsAccounts start (u.noting (.left id))
        ((u.noting (.left id)).noting (.moved id .done)) :=
      keepsAccounts_noting (by simp) fun _ => rfl
    exact done ∘ left ∘ inside run ∘ begun s id
  · exact fun id entry q unfit s u _ run => inside run ∘ begun s id

end Runs

namespace Suite

/-- The session after cases were run in it one after the other, each however the one before
it ended, a crash included. A run of all cases ends with a crash; this goes on behind it,
so what holds after each of the cases is said once for all courses, and whoever runs all
cases has to say that there was none. -/
def afterAll (suite : Suite) (ids : List String) (s : Session) : Session :=
  ids.foldl (fun s id => suite.after id s) s

theorem keepsAccounts_afterAll (suite : Suite) (ids : List String) (start s : Session) :
    KeepsAccounts start s (suite.afterAll ids s) := by
  induction ids generalizing s with
  | nil => exact id
  | cons id ids ih =>
    exact ih _ ∘ keepsAccounts_runToDepth suite _ (yields_run (suite.run id) s)

/-- **What a request gets is what was stored last.** In a session in which cases are run
one after the other, each value that is put in the place of a relation variable is the one
that was stored last under its name since the session began, by the setup of whatever
execution or by a teardown, or, if nothing was stored since, one that the cache held in the
beginning. So it is what the setup of the same execution stored last exactly if that has
stored something and nothing else was stored later.

Both sides of the last equivalence are read off the journal. The one asks for the value
that the execution has stored itself, the other for the value that was stored last, and
whether the two agree is what decides whether relation variables belong to an execution. -/
theorem fills_lastStored (suite : Suite) (ids : List String) (s : Session) :
    ∃ news, (suite.afterAll ids s).journal = news ++ s.journal
      ∧ ∀ f ∈ Journal.fills news, ∀ v ∈ f.1,
        (match Journal.lastStored v.1 f.2 with
          | some stored => v.2 = stored
          | none => s.store.cache.Offers (Store.relationKey v.1) v.2)
        ∧ (Journal.ownStored v.1 0 f.2 = some v.2 ↔
            (Journal.ownStored v.1 0 f.2).isSome = true
              ∧ Journal.ownStored v.1 0 f.2 = Journal.lastStored v.1 f.2) := by
  obtain ⟨news, accounts⟩ := suite.keepsAccounts_afterAll ids s s ⟨[], .refl s⟩
  refine ⟨news, accounts.journal, fun f hf v hv => ⟨accounts.fills f hf v hv, ?_⟩⟩
  -- where the execution has stored something, something was stored last
  have same : ∀ own, Journal.ownStored v.1 0 f.2 = some own →
      Journal.lastStored v.1 f.2 = some v.2 := by
    intro own hown
    obtain ⟨stored, hstored⟩ :=
      Option.isSome_iff_exists.mp (Journal.lastStored_isSome_of_ownStored hown)
    have comes := accounts.fills f hf v hv
    unfold Comes at comes
    rw [hstored] at comes
    rw [hstored, show v.2 = stored from comes]
  constructor
  · intro hown
    exact ⟨by rw [hown]; rfl, by rw [same _ hown, hown]⟩
  · rintro ⟨hsome, heq⟩
    obtain ⟨own, hown⟩ := Option.isSome_iff_exists.mp hsome
    rw [heq, same own hown]

/-- The case `a` stores the relation variable `id` and does not take it; the
case `b` takes it and stores nothing. -/
def leftOver : Suite :=
  { Suite.answering ⟨[
      ⟨"a", "cases.yaml", "cases.yaml:test_steps[0]", none, .mapping [
        ("case_id", .text "a"),
        ("request", .mapping [("method", .text "GET"), ("url", .text "/a")]),
        ("setup", .list [.mapping [("sql", .text "select id")]])]⟩,
      ⟨"b", "cases.yaml", "cases.yaml:test_steps[1]", none, .mapping [
        ("case_id", .text "b"),
        ("request", .mapping [("method", .text "GET"),
          ("url", .text "/users/^id")])]⟩]⟩ with
    database? := some fun _ _ => .ok (some [("id", .int 7)]) }

/-- **What one execution leaves behind the next one takes for its own**: the
request of `b` carries the value that the setup of `a` stored, though the setup
of `b` stores nothing. -/
theorem fills_left_over :
    (leftOver.afterAll ["a", "b"] { Session.fresh with store.env := [("HOST", "http://h")] }
        ).sent.map (·.url) = ["http://h/users/7", "http://h/a"]
      ∧ ¬ ∀ f ∈ Journal.fills (leftOver.afterAll ["a", "b"]
            { Session.fresh with store.env := [("HOST", "http://h")] }).journal,
          ∀ v ∈ f.1, Journal.ownStored v.1 0 f.2 = some v.2 := by
  decide +kernel

end Suite

end CaseRunner
