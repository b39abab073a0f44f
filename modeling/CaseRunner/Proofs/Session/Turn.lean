import CaseRunner.Proofs.Computation
import CaseRunner.Session.Execution
import Mathlib.Logic.Relation

/-!
# What goes on around the executions of cases

Much of what a run does to its session has nothing to do with the nesting of cases:
functions are called, the database is asked, variables are set, relation variables are put
into requests, tokens are fetched. Each such change is a `Turn` of the session, and
`Quietly s t` says that `t` comes from `s` by such changes alone.

Every computation of a run that does not run a case itself keeps `Quietly`: those before
the setup of a case, the setup actions that are no references, the making of its request,
and its teardown. What holds of a session along `Quietly` therefore has to be shown for the
eight kinds of turn and for nothing else. Most of them even keep every relation along which
sessions turn without a case coming to a state (`TurnsAlong`).

This is said whether a computation ends well, ends in an error or crashes. A crash undoes
nothing: the turns that were made until then were made, and a number that does not fit is
itself told in the journal (`Turn.measured`).

When something is added to what a run can do, it is shown here once to be a turn; the
modules about the nesting, the order and the states of cases need no change as long as it
is one.
-/

namespace CaseRunner

namespace Session

/-- The session with something written into its journal. -/
def noting (s : Session) (h : Happening) : Session := { s with journal := h :: s.journal }

@[simp] theorem noting_journal (s : Session) (h : Happening) :
    (s.noting h).journal = h :: s.journal := rfl

/-- **A turn of a session**: a change with which no case begins or ends, no reference is
checked, and no case hands its request to a transport.

The kinds are told apart by what they write into the journal, and by what they do to the
cache, which holds the relation variables and the token. All that is seen in neither is one
kind. -/
inductive Turn (s : Session) : Session → Prop
  /-- Whatever the journal does not tell and the cache does not show. -/
  | aside {t : Session} (journal : t.journal = s.journal)
      (cache : t.store.cache = s.store.cache) : Turn s t
  /-- A token is kept. -/
  | kept (token : String) (expiry : Option Moment) : Turn s
      { s with store.cache := s.store.cache.set tokenKey token expiry s.now }
  /-- A case comes to a state. -/
  | moved (id : String) (st : CaseState) : Turn s (s.noting (.moved id st))
  /-- A login is sent. -/
  | loggedIn (r : Request) : Turn s (s.noting (.sent none r))
  /-- A relation variable is set. -/
  | related (name value : String) : Turn s
      ({ s with store := s.store.setRelation s.now name value }.noting
        (.related name value))
  /-- A variable is set. -/
  | assigned (key value : String) (scope : Scope) {t : Session}
      (journal : t.journal = s.journal)
      (cache : t.store.cache =
        if scope = .cache then s.store.cache.set key value none s.now
        else s.store.cache) :
      Turn s (t.noting (.assigned key value scope))
  /-- Relation variables are put into a request and taken out of the store. -/
  | filled (values : List (String × String)) (names : List String)
      (found : ∀ v ∈ values, s.store.relation? s.now v.1 = some v.2) : Turn s
      ({ s with store := names.foldl Store.eraseRelation s.store }.noting
        (.filled values))
  /-- A number comes up that has to fit. -/
  | measured (q : Quantity) : Turn s (s.noting (.measured q))

/-- **Turn by turn**: a session that comes from another by turns alone. How many turns
there are is left open; a part of a run that stops half-way makes fewer of them, and
nothing else changes. -/
abbrev Quietly : Session → Session → Prop := Relation.ReflTransGen Turn

end Session

/-- Can a turn tell this in the journal? The happenings that it cannot tell are those that
the course of an execution is made of (`Performs`). -/
def Happening.isTurn : Happening → Bool
  | .moved _ _ | .related _ _ | .assigned _ _ _ | .filled _ | .sent none _ | .measured _ => true
  | .entered _ | .left _ | .checked _ _ _ | .sent (some _) _ => false

namespace Session

/-- **The journal grows** from one session to another by happenings of a certain kind.
Nothing is ever taken out of it. -/
def Adds (P : Happening → Prop) (s t : Session) : Prop :=
  ∃ news, t.journal = news ++ s.journal ∧ ∀ x ∈ news, P x

namespace Adds

variable {P Q : Happening → Prop} {s t u : Session}

theorem of_eq (h : t.journal = s.journal) : Adds P s t := ⟨[], h, by simp⟩

theorem noting {x : Happening} (h : P x) : Adds P s (s.noting x) :=
  ⟨[x], rfl, by simpa using h⟩

theorem trans (h : Adds P s t) (h' : Adds P t u) : Adds P s u := by
  obtain ⟨news, hnews, hall⟩ := h
  obtain ⟨later, hlater, hall'⟩ := h'
  refine ⟨later ++ news, by rw [hlater, hnews, List.append_assoc], ?_⟩
  exact List.forall_mem_append.mpr ⟨hall', hall⟩

theorem mono (hPQ : ∀ x, P x → Q x) (h : Adds P s t) : Adds Q s t := by
  obtain ⟨news, hnews, hall⟩ := h
  exact ⟨news, hnews, fun x hx => hPQ x (hall x hx)⟩

instance : IsPreorder Session (Adds P) where
  refl _ := .of_eq rfl
  trans _ _ _ := trans

end Adds

/-- What a turn adds to the journal is told by turns. -/
theorem Turn.adds {s t : Session} (h : Turn s t) : Adds (·.isTurn = true) s t := by
  cases h with
  | aside journal => exact .of_eq journal
  | kept token expiry => exact .of_eq rfl
  | moved id st => exact .noting rfl
  | loggedIn r => exact .noting rfl
  | related name value => exact ⟨[_], rfl, by simp [Happening.isTurn]⟩
  | assigned key value scope journal =>
    exact ⟨[_], by rw [noting_journal, journal]; rfl, by simp [Happening.isTurn]⟩
  | filled values names => exact ⟨[_], rfl, by simp [Happening.isTurn]⟩
  | measured q => exact .noting rfl

theorem Quietly.adds {s t : Session} (h : Quietly s t) : Adds (·.isTurn = true) s t := by
  induction h with
  | refl => exact .of_eq rfl
  | tail _ turn ih => exact ih.trans turn.adds

end Session

/-- Can a turn tell this that brings no case to a state? -/
def Happening.isAside : Happening → Bool
  | .moved _ _ => false
  | x => x.isTurn

namespace Session

/-- **Turns move along a relation**, but for those that bring a case to a state. The states
are left out because there is a relation about them, the one that asks in which order they
come; it is preserved by everything here and is not preserved by coming to a state. -/
class TurnsAlong (R : Session → Session → Prop) : Prop extends IsPreorder Session R where
  /-- They do. -/
  along {s t : Session} : Turn s t → Adds (·.isAside = true) s t → R s t

instance : TurnsAlong Quietly where
  along turn _ := .single turn

/-! ## The parts of a run that make a single turn -/

section Single

variable {R : Session → Session → Prop} [TurnsAlong R]

/-- Whatever the journal does not tell and the cache does not show. -/
theorem along_aside {s t : Session} (journal : t.journal = s.journal)
    (cache : t.store.cache = s.store.cache) : R s t :=
  TurnsAlong.along (.aside journal cache) (.of_eq journal)

theorem keeps_stopping {α : Type} (x : Except (Stop RunError) α) : Keeps R (stopping x) :=
  Keeps.mk_pure x

theorem keeps_result {α : Type} (x : Except RunError α) : Keeps R (result x) :=
  keeps_stopping _

theorem yields_record_iff {h : Happening} {s t : Session} {r : Except (Stop RunError) Unit} :
    Yields (record h) s r t ↔ r = .ok () ∧ t = s.noting h :=
  yields_modify_iff

theorem yields_record_bind_iff {β : Type} {h : Happening} {f : Unit → Run β}
    {s t : Session} {r : Except (Stop RunError) β} :
    Yields (record h >>= f) s r t ↔ Yields (f ()) (s.noting h) r t := Iff.rfl

theorem keeps_measured (q : Quantity) : Keeps R (record (.measured q)) := by
  intro s r t h
  obtain ⟨-, rfl⟩ := yields_record_iff.mp h
  exact TurnsAlong.along (.measured q) (.noting rfl)

theorem keeps_moved (id : String) (st : CaseState) :
    Keeps Quietly (record (.moved id st)) := by
  intro s r t h
  obtain ⟨-, rfl⟩ := yields_record_iff.mp h
  exact .single (.moved id st)

/-- What calling functions yields in a run is what it yields on the calls. In the same way
the database is asked and variables are changed: each of these works on a part of the
session of its own, and the rest of it stays. -/
theorem Yields.of_calling {α : Type} {c : Calling α} {s t : Session}
    {r : Except (Stop RunError) α} (h : Yields (calling c) s r t) :
    ∃ r₀ calls, Yields c s.calls r₀ calls ∧ r = Stop.lift r₀ ∧ t = { s with calls } :=
  ⟨_, _, yields_run c s.calls, (congrArg Prod.fst h).symm, (congrArg Prod.snd h).symm⟩

theorem keeps_calling {α : Type} (c : Calling α) : Keeps R (calling c) := by
  intro s r t h
  obtain ⟨r₀, calls, -, -, rfl⟩ := Yields.of_calling h
  exact along_aside rfl rfl

/-- What asking the database yields in a run is what it yields on the statements. -/
theorem Yields.of_asking {α : Type} {c : Asking α} {s t : Session}
    {r : Except (Stop RunError) α} (h : Yields (asking c) s r t) :
    ∃ r₀ asked, Yields c s.asked r₀ asked ∧ r = Stop.lift r₀ ∧ t = { s with asked } :=
  ⟨_, _, yields_run c s.asked, (congrArg Prod.fst h).symm, (congrArg Prod.snd h).symm⟩

theorem keeps_asking {α : Type} (c : Asking α) : Keeps R (asking c) := by
  intro s r t h
  obtain ⟨r₀, asked, -, -, rfl⟩ := Yields.of_asking h
  exact along_aside rfl rfl

/-- What changing variables yields in a run is what it yields on the
variables. -/
theorem Yields.of_storing {α : Type} {c : Storing α} {s t : Session}
    {r : Except (Stop RunError) α} (h : Yields (storing c) s r t) :
    ∃ r₀ q, Yields c (s.store, s.files) r₀ q ∧ r = Stop.lift r₀
      ∧ t = { s with store := q.1, files := q.2 } :=
  ⟨_, _, yields_run c (s.store, s.files), (congrArg Prod.fst h).symm,
    (congrArg Prod.snd h).symm⟩

end Single

end Session

/-! ## Setting variables -/

namespace Store

/-- A change of variables that leaves the cache alone. -/
abbrev CacheKept : Store × FileSystem → Store × FileSystem → Prop :=
  Function.onFun Eq fun p => p.1.cache

theorem keeps_change {f : Store → Store} (hf : ∀ s, (f s).cache = s.cache) :
    Keeps CacheKept (change f) :=
  Keeps.modify fun p => (hf p.1).symm

/-- Reading a file that a tier is kept in, or writing it, leaves the cache
alone. -/
theorem keeps_atFile {α : Type} (path? : Store → Option String)
    (answer : Store → FileSystem → String → Except RunError α)
    (update : Store → FileSystem → α → Store × FileSystem)
    (hu : ∀ s fs a, (update s fs a).1.cache = s.cache) :
    Keeps CacheKept (do
      let (s, fs) ← get
      if let some path := path? s then
        let a ← ExceptT.mk (pure (answer s fs path))
        set (update s fs a)) := by
  rintro ⟨s, fs⟩ r q h
  rw [yields_get_bind_iff] at h
  dsimp only at h
  cases hp : path? s with
  | none =>
    rw [hp] at h
    exact Keeps.pure (R := CacheKept) () _ _ _ h
  | some path =>
    rw [hp] at h
    rcases h.of_mk_pure_set with rfl | ⟨a, rfl⟩
    · exact rfl
    · exact (hu s fs a).symm

theorem keeps_rereadEnv : Keeps CacheKept rereadEnv :=
  keeps_atFile (·.envFile) (fun _ fs path => readEnv fs path)
    (fun s fs env => ({ s with env }, fs)) fun _ _ _ => rfl

theorem keeps_rereadGlobal : Keeps CacheKept rereadGlobal :=
  keeps_atFile (·.globalFile) (fun _ fs path => readGlobal fs path)
    (fun s fs global => ({ s with global }, fs)) fun _ _ _ => rfl

theorem keeps_saveEnv : Keeps CacheKept saveEnv :=
  keeps_atFile (·.envFile) (fun s fs path => writeFile fs path (DotEnv.write s.env))
    (fun s _ fs => (s, fs)) fun _ _ _ => rfl

theorem keeps_saveGlobal : Keeps CacheKept saveGlobal :=
  keeps_atFile (·.globalFile)
    (fun s fs path => writeFile fs path (Yaml.writeTexts s.global))
    (fun s _ fs => (s, fs)) fun _ _ _ => rfl

/-- Setting a variable outside the cache leaves the cache alone. -/
theorem keeps_put {scope : Scope} (hs : scope ≠ .cache) (now : Moment)
    (key value : String) (expiry : Option Moment) :
    Keeps CacheKept (put now key value scope expiry) := by
  cases scope with
  | cache => exact absurd rfl hs
  | env =>
    exact keeps_rereadEnv.bind fun _ =>
      Keeps.bind (keeps_change fun _ => rfl) fun _ => keeps_saveEnv
  | global =>
    exact keeps_rereadGlobal.bind fun _ =>
      Keeps.bind (keeps_change fun _ => rfl) fun _ => keeps_saveGlobal

/-- **What setting a variable does to the cache.** This holds also where it ends in an
error, for then a file could not be written, and that concerns the other scopes. -/
theorem cache_put {now : Moment} {key value : String} {scope : Scope} {expiry : Option Moment}
    {p q : Store × FileSystem} {r : Except RunError Unit}
    (h : Yields (put now key value scope expiry) p r q) :
    q.1.cache =
      if scope = .cache then p.1.cache.set key value expiry now else p.1.cache := by
  cases scope with
  | cache =>
    obtain ⟨-, rfl⟩ := yields_modify_iff.mp h
    rfl
  | env => exact (keeps_put (by decide) now key value expiry p r q h).symm
  | global => exact (keeps_put (by decide) now key value expiry p r q h).symm

/-- Setting a variable for a while sets it until some moment, if at all. -/
theorem exists_of_putFor {now : Moment} {key value : String} {scope : Scope}
    {ttl : Option Nat} {keep : Storing Unit} (h : putFor now key value scope ttl = .ok keep) :
    ∃ expiry, keep = put now key value scope expiry := by
  cases scope with
  | cache =>
    obtain ⟨expiry, -, h⟩ := bind_eq_ok_iff.mp h
    exact ⟨expiry, (Except.ok.inj h).symm⟩
  | env | global => exact ⟨none, (Except.ok.inj h).symm⟩

section While

variable {now : Moment} {key value : String} {ttl : Nat}

/-- A while that ends at a moment that the clock can show. -/
theorem putFor_of_fits (fits : (Quantity.moment (now + ttl)).fits = true) :
    putFor now key value .cache (some ttl) = .ok (put now key value .cache (some (now + ttl))) := by
  show (some <$> Cache.expiryAfter now ttl >>= fun expiry => _) = _
  rw [Cache.expiryAfter_of_fits fits]
  rfl

/-- A while that does not is none: the variable is not set, and the program ends. -/
theorem putFor_of_unfit (unfit : (Quantity.moment (now + ttl)).fits = false) :
    putFor now key value .cache (some ttl) = .error (.crash _ unfit) := by
  show (some <$> Cache.expiryAfter now ttl >>= fun expiry => _) = _
  rw [Cache.expiryAfter_of_unfit unfit]
  rfl

theorem crashes_putFor_iff : Stop.Crashes (putFor now key value .cache (some ttl))
    ↔ (Quantity.moment (now + ttl)).fits = false := by
  cases fits : (Quantity.moment (now + ttl)).fits with
  | true => simpa [putFor_of_fits fits] using Stop.not_crashes_ok _
  | false => simpa [putFor_of_unfit fits] using Stop.crashes_crash fits

end While

end Store

/-! ## The parts of a run that make several turns -/

section Several

variable {R : Session → Session → Prop} [Session.TurnsAlong R]

namespace Session

theorem keeps_resolved (suite : Suite) (location : String) (d : Document) :
    Keeps R (resolved suite location d) :=
  Keeps.get.bind fun _ => keeps_calling _

theorem keeps_runHook (suite : Suite) (location hook : String) :
    Keeps R (runHook suite location hook) :=
  (keeps_calling _).bind fun _ => Keeps.pure _

theorem keeps_pause (location : String) (seconds : Binary64) :
    Keeps R (pause location seconds) := by
  unfold pause
  split
  · refine (keeps_measured _).bind fun _ => (keeps_stopping _).bind fun span => ?_
    exact Keeps.modify fun s => along_aside rfl rfl
  · exact Keeps.throw _

theorem keeps_queryRow (suite : Suite) (location statement : String) :
    Keeps R (queryRow suite location statement) := by
  unfold queryRow
  cases suite.database? with
  | none => exact Keeps.throw _
  | some db => exact (keeps_asking _).adapt

theorem keeps_relate (name value : String) : Keeps R (relate name value) := by
  intro s r t h
  obtain ⟨-, rfl⟩ := yields_modify_iff.mp (yields_record_bind_iff.mp h)
  exact TurnsAlong.along (.related name value) ⟨[_], rfl, List.forall_mem_singleton.mpr rfl⟩

/-- To set a variable is a turn that tells of it. Where a file cannot be written, the cache
has not been touched, and it is one that tells nothing. -/
theorem keeps_assign (key value : String) (scope : Scope) :
    Keeps R (assign key value scope) := by
  intro s r t h
  unfold assign at h
  rw [yields_get_bind_iff] at h
  rcases yields_bind_iff.mp h with ⟨_, s', hput, hrec⟩ | ⟨e, hput, -⟩
  · obtain ⟨_, q, hq, -, rfl⟩ := Yields.of_storing hput
    obtain ⟨-, rfl⟩ := yields_record_iff.mp hrec
    exact TurnsAlong.along (.assigned key value scope rfl (Store.cache_put hq))
      ⟨[_], rfl, List.forall_mem_singleton.mpr rfl⟩
  · obtain ⟨_, q, hq, herr, rfl⟩ := Yields.of_storing hput
    -- only the files of the other scopes can refuse
    cases scope with
    | cache => cases (yields_modify_iff.mp hq).1; cases herr
    | env => exact along_aside rfl (Store.cache_put hq)
    | global => exact along_aside rfl (Store.cache_put hq)

/-- The session when a request was handed to its transport and something has come of
it. -/
def delivered (suite : Suite) (caseId? : Option String) (q : Request) (s : Session) : Session :=
  { s.noting (.sent caseId? q) with
    now := s.now + (suite.transport q.engine s.files s.sent q).duration }

/-- **What sending a request yields is what its transport says.** The request is told in
the journal before anything comes of it; if the transport crashes, the number that does not
fit is told after it, and no time passes. -/
theorem Yields.of_send {suite : Suite} {caseId? : Option String} {q : Request}
    {s t : Session} {r : Except (Stop RunError) RawReply}
    (h : Yields (send suite caseId? q) s r t) :
    r = (suite.transport q.engine s.files s.sent q).result
      ∧ ((∃ p unfit, r = .error (.crash p unfit)
          ∧ t = (delivered suite caseId? q s).noting (.measured p))
        ∨ (¬ Stop.Crashes r ∧ t = delivered suite caseId? q s)) := by
  have h := yields_modify_bind_iff.mp (yields_modify_bind_iff.mp (yields_get_bind_iff.mp h))
  cases hd : (suite.transport q.engine s.files s.sent q).result with
  | ok raw =>
    rw [hd] at h
    obtain ⟨rfl, rfl⟩ := yields_mk_pure_iff.mp h
    exact ⟨rfl, .inr ⟨Stop.not_crashes_ok raw, rfl⟩⟩
  | error stop =>
    rw [hd] at h
    cases stop with
    | error e =>
      obtain ⟨rfl, rfl⟩ := yields_mk_pure_iff.mp h
      exact ⟨rfl, .inr ⟨Stop.not_crashes_error e, rfl⟩⟩
    | crash p unfit =>
      have h := yields_modify_bind_iff.mp h
      obtain ⟨rfl, rfl⟩ := yields_mk_pure_iff.mp h
      exact ⟨rfl, .inl ⟨p, unfit, rfl, rfl⟩⟩

/-- Once a request is told in the journal, sending it moves along every relation that
turns move along. -/
theorem along_of_send {suite : Suite} {caseId? : Option String} {q : Request}
    {s t : Session} {r : Except (Stop RunError) RawReply}
    (h : Yields (send suite caseId? q) s r t) : R (s.noting (.sent caseId? q)) t := by
  have passes : R (s.noting (.sent caseId? q)) (delivered suite caseId? q s) :=
    along_aside rfl rfl
  obtain ⟨-, ⟨p, unfit, -, rfl⟩ | ⟨-, rfl⟩⟩ := Yields.of_send h
  · exact trans_of R passes (TurnsAlong.along (.measured p) (.noting rfl))
  · exact passes

/-- A login is sent for no case, and so it is a turn. The request of a case is not. -/
theorem keeps_send_login (suite : Suite) (q : Request) :
    Keeps R (send suite none q) := by
  intro s r t h
  have told : R s (s.noting (.sent none q)) := TurnsAlong.along (.loggedIn q) (.noting rfl)
  exact trans_of R told (along_of_send h)

end Session

/-- To keep a token is two turns: the moment comes up until which it may be used, and then
it is kept, if there is room for that moment. -/
theorem Login.keeps_keepToken (a : Login) (token : String) : Keeps R (a.keepToken token) := by
  refine Keeps.get_bind fun s r t h => ?_
  have noted (q : Quantity) : R s (s.noting (.measured q)) :=
    Session.TurnsAlong.along (.measured q) (.noting rfl)
  refine trans_of R (noted (.moment (s.now + (a.lifetime : Int)))) ?_
  rcases yields_bind_iff.mp (Session.yields_record_bind_iff.mp h) with
    ⟨keep, s', hkeep, hput⟩ | ⟨e, hkeep, -⟩
  · obtain ⟨kept, rfl⟩ := yields_mk_pure_iff.mp hkeep
    obtain ⟨expiry, rfl⟩ := Store.exists_of_putFor kept.symm
    obtain ⟨_, p, hp, -, rfl⟩ := Session.Yields.of_storing hput
    obtain ⟨-, rfl⟩ := yields_modify_iff.mp hp
    exact Session.TurnsAlong.along (.kept _ _) (.of_eq rfl)
  · obtain ⟨-, rfl⟩ := yields_mk_pure_iff.mp hkeep
    exact refl_of R _

theorem Login.keeps_fetchToken (a : Login) (suite : Suite) (q : Request) :
    Keeps R (a.fetchToken suite q) := by
  unfold Login.fetchToken
  refine Keeps.get.bind fun _ => (Session.keeps_result _).bind fun url => ?_
  refine (Session.keeps_send_login suite _).bind fun raw => ?_
  refine (Session.keeps_result _).bind fun token => ?_
  exact (a.keeps_keepToken _).bind fun _ => Keeps.pure _

theorem Login.keeps_apply (a : Login) (suite : Suite) (q : Request) :
    Keeps R (a.apply suite q) := by
  unfold Login.apply
  split
  · exact Keeps.pure _
  refine Keeps.get.bind fun s => ?_
  dsimp only
  split
  · exact (Keeps.pure _).bind fun _ => Keeps.pure _
  · exact (a.keeps_fetchToken suite q).bind fun _ => Keeps.pure _

/-- What the relation variables of a document are taken out of. -/
theorem Placeholder.store_of_replaceRelations {store store' : Store} {now : Moment}
    {location : String} {d d' : Document}
    (h : replaceRelations store now location d = .ok (d', store')) :
    store' = (relationNames d).foldl Store.eraseRelation store := by
  obtain ⟨replaced, -, heq⟩ := bind_eq_ok_iff.mp h
  cases heq
  rfl

/-- To put relation variables into a request is one turn: what is put in is noted, and
taken out of the store. If a name has no value, neither is done. -/
theorem keeps_fillRelations (location : String) (d : Document) :
    Keeps R (fillRelations location d) := by
  refine Keeps.get_bind fun s r t h => ?_
  rcases yields_bind_iff.mp h with ⟨⟨filled, store⟩, s', hres, h⟩ | ⟨e, hres, -⟩
  · obtain ⟨hok, rfl⟩ := yields_mk_pure_iff.mp hres
    have hstore := Placeholder.store_of_replaceRelations (Stop.lift_eq_ok_iff.mp hok.symm)
    have h := yields_modify_bind_iff.mp (Session.yields_record_bind_iff.mp h)
    obtain ⟨-, rfl⟩ := yields_pure_iff.mp h
    subst hstore
    refine Session.TurnsAlong.along (.filled _ _ fun v hv => ?_)
      ⟨[_], rfl, List.forall_mem_singleton.mpr rfl⟩
    obtain ⟨name, -, hname⟩ := List.mem_filterMap.mp hv
    obtain ⟨value, hvalue, rfl⟩ := Option.map_eq_some_iff.mp hname
    exact hvalue
  · obtain ⟨-, rfl⟩ := yields_mk_pure_iff.mp hres
    exact refl_of R _

theorem keeps_readRequest (suite : Suite) (location : String) (config : Config)
    (d : Document) : Keeps R (readRequest suite location config d) := by
  refine Keeps.get.bind fun s => ?_
  dsimp only
  split
  · exact (Session.keeps_measured _).bind fun _ => Session.keeps_stopping _
  · exact Session.keeps_stopping _

theorem keeps_authorize (suite : Suite) (request : Request) :
    Keeps R (authorize suite request) := by
  unfold authorize
  cases suite.login? with
  | none => exact Keeps.pure _
  | some login => exact login.keeps_apply suite request

theorem keeps_makeRequest (suite : Suite) (location : String) (config : Config)
    (step : Step) : Keeps Session.Quietly (makeRequest suite location config step) := by
  refine (keeps_fillRelations location step.request).bind fun d => ?_
  refine (Session.keeps_moved _ _).bind fun _ => ?_
  exact (keeps_readRequest suite location config d).bind fun _ => keeps_authorize suite _

theorem keeps_resolveEntry (suite : Suite) (entry : CaseEntry) :
    Keeps R (resolveEntry suite entry) := by
  refine (Session.keeps_resolved suite _ _).bind fun configured => ?_
  refine (Session.keeps_result _).bind fun config => ?_
  refine (Session.keeps_resolved suite _ _).bind fun step => ?_
  exact (Session.keeps_result _).bind fun _ => Keeps.pure _

end Several

/-! ## Teardown -/

namespace Executing

/-- **Along a relation, whatever is written into the report meanwhile.** The parts of a
case carry a report beside the session, and what is said of sessions is said of them in
this way. -/
abbrev OnSession (R : Session → Session → Prop) : Progress → Progress → Prop :=
  Function.onFun R Progress.session

instance {R : Session → Session → Prop} [IsPreorder Session R] :
    IsPreorder Progress (OnSession R) where
  refl p := refl_of R p.session
  trans _ _ _ := trans_of R

/-- Turn by turn, whatever is written into the report meanwhile. -/
abbrev Quietly : Progress → Progress → Prop :=
  Function.onFun Session.Quietly Progress.session

/-- A part of the run yields in a case what it yields on the session. -/
theorem Yields.of_inSession {α : Type} {c : Run α} {p q : Progress}
    {r : Except (Stop RunError) α} (h : Yields (inSession c) p r q) :
    Yields c p.session r q.session ∧ q.report = p.report := by
  have hr : r = (c.run p.session).1 := (congrArg Prod.fst h).symm
  have hq : q = { p with session := (c.run p.session).2 } := (congrArg Prod.snd h).symm
  subst hr hq
  exact ⟨yields_run c p.session, rfl⟩

theorem yields_record_bind_iff {β : Type} {h : Happening} {f : Unit → Executing β}
    {p q : Progress} {r : Except (Stop RunError) β} :
    Yields (inSession (Session.record h) >>= f) p r q ↔
      Yields (f ()) { p with session := p.session.noting h } r q := Iff.rfl

/-- What comes of a computation becomes a value, unless it crashes. -/
theorem Yields.of_outcome {α : Type} {c : Executing α} {p q : Progress}
    {r : Except (Stop RunError) (Except RunError α)} (h : Yields (outcome c) p r q) :
    ∃ ended, Yields c p ended q ∧ r = Stop.told ended :=
  ⟨_, (yields_run c p).trans (congrArg (Prod.mk _) (congrArg Prod.snd h)),
    (congrArg Prod.fst h).symm⟩

section OnSession

variable {R : Session → Session → Prop}

theorem keeps_inSession {α : Type} {c : Run α} (hc : Keeps R c) :
    Keeps (OnSession R) (inSession c) := by
  intro p r q h
  exact hc _ _ _ (Yields.of_inSession h).1

theorem keeps_outcome {α : Type} {c : Executing α} (hc : Keeps (OnSession R) c) :
    Keeps (OnSession R) (outcome c) := by
  intro p r q h
  obtain ⟨ended, inside, -⟩ := Yields.of_outcome h
  exact hc _ _ _ inside

variable [IsPreorder Session R]

theorem keeps_amend (f : Report → Report) : Keeps (OnSession R) (amend f) :=
  Keeps.modify fun p => refl_of R p.session

theorem keeps_note (phase : Phase) (message : String) :
    Keeps (OnSession R) (note phase message) :=
  keeps_amend _

theorem keeps_reply : Keeps (OnSession R) reply :=
  Keeps.get.bind fun _ => Keeps.pure _

end OnSession

/-! The same for relations that depend on whether there is a crash. -/

section UntilCrash

variable {R : Prop → Session → Session → Prop}

/-- Along a relation, whatever is written into the report meanwhile. -/
abbrev OnSessions (R : Prop → Session → Session → Prop) (crashed : Prop) :
    Progress → Progress → Prop :=
  OnSession (R crashed)

instance [UntilCrash R] : UntilCrash (OnSessions R) where
  refl p := UntilCrash.refl p.session
  trans := UntilCrash.trans (R := R)

theorem leads_inSession {α : Type} {c : Run α} (hc : Leads R c) :
    Leads (OnSessions R) (inSession c) := by
  intro p r q h
  exact hc _ _ _ (Yields.of_inSession h).1

/-- To make a value of an error makes no crash and hides none. -/
theorem leads_outcome {α : Type} {c : Executing α} (hc : Leads (OnSessions R) c) :
    Leads (OnSessions R) (outcome c) := by
  intro p r q h
  obtain ⟨ended, inside, rfl⟩ := Yields.of_outcome h
  rw [Stop.crashes_told_iff]
  exact hc p ended q inside

variable [UntilCrash R]

theorem leads_amend (f : Report → Report) : Leads (OnSessions R) (amend f) :=
  Leads.modify fun p => UntilCrash.refl p.session

theorem leads_note (phase : Phase) (message : String) :
    Leads (OnSessions R) (note phase message) :=
  leads_amend _

theorem leads_reply : Leads (OnSessions R) reply :=
  Leads.get.bind fun _ => Leads.pure _

end UntilCrash

end Executing

open Executing

section Teardown

variable {R : Session → Session → Prop} [Session.TurnsAlong R]

theorem keeps_clockReply (started : Moment) :
    Keeps (OnSession R) (clockReply started) :=
  Keeps.get.bind fun _ => keeps_amend _

/-- **The actions of a teardown are turns**, each of them, for none runs a case. -/
theorem keeps_runTeardownAction (suite : Suite) (location : String)
    (action : TeardownAction) :
    Keeps (OnSession R) (runTeardownAction suite location action) := by
  unfold runTeardownAction
  cases action with
  | sql statements =>
    refine Keeps.forM (fun statement => ?_) _
    refine (keeps_inSession (Session.keeps_queryRow suite _ _)).bind fun row? => ?_
    cases row? with
    | none => exact Keeps.pure _
    | some row =>
      refine (keeps_amend _).bind fun _ => keeps_inSession ?_
      exact Keeps.forM (fun _ => Session.keeps_assign _ _ _) _
  | hook source => exact keeps_inSession (Session.keeps_runHook suite _ _)
  | extract extractions =>
    refine Keeps.forM (fun e => ?_) _
    refine keeps_reply.bind fun reply => ?_
    refine (keeps_inSession (Session.keeps_result _)).bind fun found => ?_
    exact keeps_inSession (Session.keeps_assign _ _ _)
  | assert items =>
    refine keeps_reply.bind fun reply => ?_
    exact keeps_inSession (Session.keeps_asking _)
  | waitTime seconds => exact keeps_inSession (Session.keeps_pause _ _)

theorem keeps_runTeardown (suite : Suite) (location : String) (i : Nat)
    (actions : List TeardownAction) :
    Keeps (OnSession R) (runTeardown suite location i actions) := by
  induction actions generalizing i with
  | nil => exact Keeps.pure _
  | cons action rest ih =>
    refine (keeps_runTeardownAction suite _ action).bind fun _ => ?_
    exact (keeps_note _ _).bind fun _ => ih (i + 1)

end Teardown

end CaseRunner
