import CaseRunner.Proofs.Document.Alike
import CaseRunner.Proofs.Placeholder.Errors
import CaseRunner.Proofs.Session.Turn

/-!
# What else may go wrong

Of the errors that stop a case one kind says that an assertion is false, and all others say
that something could not be done (`RunError.Other`). This module says of each part of a run
but the checking of assertions, and of conditions for skipping, that it ends with errors of
the other kinds only. Most parts put their errors into words of their own. What transports
and databases say is passed on, so that of these it has to be assumed (`Suite.Honest`).

There is a lemma for each part, and they follow the definitions: a part that calls others
is settled by theirs. The one thing that they share is that an error keeps its kind when
the place is put in front of it (`RunError.other_at`).
-/

namespace CaseRunner

/-- **The error is no false assertion.** The verdict on a case is made of the kind of its
error and of nothing else. -/
abbrev RunError.Other (e : RunError) : Prop := e.isAssertionFailure = false

/-- **The database and the transports of a suite speak of no assertions.** They are given
from outside, and what they say is an error of the type that all errors have, so nothing
keeps a strange one from claiming that an assertion is false. Then a case would be told to
have failed that was never checked. -/
structure Suite.Honest (suite : Suite) : Prop where
  /-- The transports do not. -/
  transport : ∀ engine files sent request,
    Fails (Stop.Only RunError.Other) (suite.transport engine files sent request).result
  /-- The database does not. -/
  database : ∀ db, suite.database? = some db → ∀ asked statement,
    Fails RunError.Other (db asked statement)

/-- An error keeps its kind when it is told of a place. -/
theorem RunError.other_at {e : RunError} (location : String) :
    (e.at location).Other ↔ e.Other := by
  unfold Other
  rw [isAssertionFailure_at]

/-! ## Placeholders -/

namespace Placeholder

open RunError

theorem raises_expand (r : Registry) (place s : String) : Raises Other (expand r place s) := by
  refine (tells_expand r place s).mono ?_
  rintro _ ⟨text, rfl⟩
  rfl

theorem raises_runHook (r : Registry) (location hook : String) :
    Raises Other (runHook r location hook) := by
  unfold runHook
  split
  · exact raises_expand _ _ _
  · exact Raises.throw rfl

theorem Tells.other {place : String} {e : RunError} (h : Tells .variable place e) :
    e.Other := by
  obtain ⟨text, rfl⟩ := h
  rfl

theorem fails_replaceVariables (store : Store) (now : Moment) (location : String)
    (d : Document) : Fails Other (replaceVariables store now location d) := by
  intro e he
  rw [replaceVariables_eq] at he
  obtain ⟨place, s, -, he⟩ := Document.exists_of_replaceTexts_error [] d he
  exact (tells_substituteVariables store now _ s e he).other

theorem fails_replaceRelations (store : Store) (now : Moment) (location : String)
    (d : Document) : Fails Other (replaceRelations store now location d) := by
  rw [replaceRelations_eq]
  refine Fails.map fun e he => ?_
  obtain ⟨place, s, -, he⟩ := Document.exists_of_replaceTexts_error [] d he
  exact (tells_substituteRelations store now _ s e he).other

theorem raises_replacePlaceholders (r : Registry) (store : Store) (now : Moment)
    (location : String) (d : Document) :
    Raises Other (replacePlaceholders r store now location d) := by
  rw [replacePlaceholders, replaceFunctions_eq]
  exact Raises.bind (Document.raises_replaceTexts (fun _ s => raises_expand r _ s) [] d)
    fun _ => Raises.mk_pure (fails_replaceVariables _ _ _ _)

end Placeholder

/-! ## Reading -/

open RunError

theorem Config.fails_read (section? : Option Document) (location : String) :
    Fails Other (read section? location) := by
  unfold read
  split
  · exact .ok _
  · exact .ok _
  · exact .reworded fun _ => rfl

theorem Step.fails_field? {α : Type} (read : Document → Except ReadFault α) (fields : Fields)
    (name location : String) : Fails Other (field? read fields name location) := by
  unfold field?
  split
  · exact .ok _
  · exact .ok _
  · exact .reworded fun _ => rfl

/-- A step that cannot be read is refused with an error of the other kinds, whichever of
its fields it is. -/
theorem Step.fails_read (d : Document) (location : String) : Fails Other (read d location) := by
  -- with the location left open, so that it is found where a field is read
  have fields : ∀ {α : Type} (r : Document → Except ReadFault α) fs name,
      Fails Other (field? r fs name location) := fun r fs name => fails_field? r fs name _
  unfold read
  split
  · refine (fields _ _ _).bind fun caseId? => ?_
    split
    · split
      · refine (fields _ _ _).bind fun _ => (fields _ _ _).bind fun _ => ?_
        refine (fields _ _ _).bind fun _ => (fields _ _ _).bind fun _ => ?_
        refine (fields _ _ _).bind fun _ => (fields _ _ _).bind fun _ => .ok _
      · exact .error rfl
    · exact .error rfl
  · exact .error rfl

theorem JsonPath.fails_findFirst (value : Document) (path location : String) :
    Fails Other (findFirst value path location) := by
  unfold findFirst findAll
  refine Fails.bind ?_ fun found => ?_
  · split
    · exact .ok _
    · exact .error rfl
  · cases found with
    | nil => exact .error rfl
    | cons d rest => exact .ok d

theorem Request.fails_ofDocument (d : Document) (config : Config) (store : Store)
    (fs : FileSystem) (defaults : RequestDefaults) (location : String) :
    Fails (Stop.Only Other) (ofDocument d config store fs defaults location) := by
  unfold ofDocument
  dsimp only
  split
  · exact .reworded fun stop => Stop.only_map (P := Other) (fun _ => rfl) stop
  · exact Fails.lift (.error rfl)

/-! ## Numbers that have to fit

That a number does not fit is all that can go wrong with it. -/

theorem Quantity.fails_check (P : RunError → Prop) (q : Quantity) :
    Fails (Stop.Only P) (q.check (ε := RunError)) := by
  intro stop h
  unfold check at h
  split at h
  next unfit => exact Except.error.inj h ▸ Stop.only_crash unfit
  next => cases h

theorem fails_nanoseconds (P : RunError → Prop) (x : Binary64) :
    Fails (Stop.Only P) (nanoseconds x) := by
  refine (Quantity.fails_check P _).bind fun _ => ?_
  split <;> exact .ok _

/-! ## Variables -/

namespace Store

theorem fails_putFor (now : Moment) (key value : String) (scope : Scope) (ttl : Option Nat) :
    Fails (Stop.Only Other) (putFor now key value scope ttl) := by
  cases scope with
  | cache =>
    refine Fails.bind ?_ fun _ => .ok _
    cases ttl with
    | none => exact .ok _
    | some ttl => exact Fails.map ((Quantity.fails_check Other _).bind fun _ => .ok _)
  | env | global => exact .ok _

theorem fails_readIfThere (fs : FileSystem) (path : String) :
    Fails Other (readIfThere fs path) := by
  unfold readIfThere
  split
  · exact .reworded fun _ => rfl
  · exact .ok _

theorem fails_readEnv (fs : FileSystem) (path : String) : Fails Other (readEnv fs path) :=
  (fails_readIfThere fs path).bind fun _ => .ok _

theorem fails_readGlobal (fs : FileSystem) (path : String) :
    Fails Other (readGlobal fs path) := by
  refine (fails_readIfThere fs path).bind fun content? => ?_
  cases content? with
  | none => exact .ok _
  | some content =>
    dsimp only
    split
    · exact .ok _
    · refine Fails.bind ?_ fun _ => .ok _
      exact Fails.bind (.reworded fun _ => rfl) fun _ => .reworded fun _ => rfl

theorem fails_writeFile (fs : FileSystem) (path content : String) :
    Fails Other (writeFile fs path content) :=
  .reworded fun _ => rfl

/-- Reading a file that a tier is kept in, or writing it, goes wrong as the file
does. -/
theorem raises_atFile {α : Type} (path? : Store → Option String)
    (answer : Store → FileSystem → String → Except RunError α)
    (update : Store → FileSystem → α → Store × FileSystem)
    (ha : ∀ s fs path, Fails Other (answer s fs path)) :
    Raises Other (do
      let (s, fs) ← (get : Storing (Store × FileSystem))
      if let some path := path? s then
        let a ← ExceptT.mk (pure (answer s fs path))
        set (update s fs a)) := by
  refine Raises.get.bind fun ⟨s, fs⟩ => ?_
  dsimp only
  cases path? s with
  | none => exact Raises.pure _
  | some path => exact (Raises.mk_pure (ha s fs path)).bind fun _ => Raises.set _

theorem raises_rereadEnv : Raises Other rereadEnv :=
  raises_atFile (·.envFile) (fun _ fs path => readEnv fs path)
    (fun s fs env => ({ s with env }, fs)) fun _ => fails_readEnv

theorem raises_rereadGlobal : Raises Other rereadGlobal :=
  raises_atFile (·.globalFile) (fun _ fs path => readGlobal fs path)
    (fun s fs global => ({ s with global }, fs)) fun _ => fails_readGlobal

theorem raises_saveEnv : Raises Other saveEnv :=
  raises_atFile (·.envFile) (fun s fs path => writeFile fs path (DotEnv.write s.env))
    (fun s _ fs => (s, fs)) fun _ _ _ => fails_writeFile _ _ _

theorem raises_saveGlobal : Raises Other saveGlobal :=
  raises_atFile (·.globalFile)
    (fun s fs path => writeFile fs path (Yaml.writeTexts s.global))
    (fun s _ fs => (s, fs)) fun _ _ _ => fails_writeFile _ _ _

theorem raises_put (now : Moment) (key value : String) (scope : Scope)
    (expiry : Option Moment) : Raises Other (put now key value scope expiry) := by
  cases scope with
  | cache => exact Raises.modify _
  | env => exact raises_rereadEnv.bind fun _ => (Raises.modify _).bind fun _ => raises_saveEnv
  | global =>
    exact raises_rereadGlobal.bind fun _ => (Raises.modify _).bind fun _ => raises_saveGlobal

end Store

/-! ## Parts of a run

A crash is no error of any kind, so of computations that may crash it is said that their
errors are of the other kinds. -/

/-- **All errors that a part of a run can end with are no false assertions.** Of crashes
this says nothing. -/
abbrev RaisesOther {σ α : Type} (c : ExceptT (Stop RunError) (StateM σ) α) : Prop :=
  Raises (Stop.Only Other) c

theorem raisesOther_throw {σ α : Type} {e : RunError} (he : e.Other) :
    RaisesOther (throw (.error e) : ExceptT (Stop RunError) (StateM σ) α) :=
  Raises.throw (Stop.only_error_iff.mpr he)

namespace Session

variable {α : Type}

theorem raises_result {x : Except RunError α} (hx : Fails Other x) :
    RaisesOther (result x) :=
  Raises.mk_pure hx.lift

theorem raises_calling {c : Calling α} (hc : Raises Other c) : RaisesOther (calling c) := by
  intro s stop t h
  obtain ⟨r, calls, hcalls, hr, -⟩ := Yields.of_calling h
  obtain ⟨e, rfl, rfl⟩ := Stop.lift_eq_error_iff.mp hr.symm
  exact Stop.only_error_iff.mpr (hc _ _ _ hcalls)

theorem raises_storing {c : Storing α} (hc : Raises Other c) : RaisesOther (storing c) := by
  intro s stop t h
  obtain ⟨r, q, hq, hr, -⟩ := Yields.of_storing h
  obtain ⟨e, rfl, rfl⟩ := Stop.lift_eq_error_iff.mp hr.symm
  exact Stop.only_error_iff.mpr (hc _ _ _ hq)

theorem raises_resolved (suite : Suite) (location : String) (d : Document) :
    RaisesOther (resolved suite location d) :=
  Raises.get.bind fun _ => raises_calling (Placeholder.raises_replacePlaceholders _ _ _ _ _)

theorem raises_runHook (suite : Suite) (location hook : String) :
    RaisesOther (runHook suite location hook) :=
  (raises_calling (Placeholder.raises_runHook _ _ _)).bind fun _ => Raises.pure _

theorem raises_pause (location : String) (seconds : Binary64) :
    RaisesOther (pause location seconds) := by
  unfold pause
  split
  · refine Raises.bind (Raises.modify _) fun _ => ?_
    exact Raises.bind (Raises.mk_pure (fails_nanoseconds Other seconds)) fun _ => Raises.modify _
  · exact raisesOther_throw rfl

/-- What the database says is passed on, so here its honesty is needed. -/
theorem raises_queryRow {suite : Suite} (honest : suite.Honest) (location statement : String) :
    RaisesOther (queryRow suite location statement) := by
  unfold queryRow
  cases hdb : suite.database? with
  | none => exact raisesOther_throw rfl
  | some db =>
    refine Raises.adapt (P := Stop.Only Other) ?_ fun stop hstop => ?_
    · intro s stop t h
      obtain ⟨r, asked, hasked, hr, -⟩ := Yields.of_asking h
      obtain ⟨e, rfl, rfl⟩ := Stop.lift_eq_error_iff.mp hr.symm
      exact Stop.only_error_iff.mpr
        (honest.database db hdb _ _ e (congrArg Prod.fst hasked))
    · cases stop with
      | error e =>
        exact Stop.only_error_iff.mpr ((other_at location).mpr (Stop.only_error_iff.mp hstop))
      | crash q unfit => exact Stop.only_crash unfit

theorem raises_relate (name value : String) : RaisesOther (relate name value) :=
  (Raises.modify _).bind fun _ => Raises.modify _

theorem raises_assign (key value : String) (scope : Scope) :
    RaisesOther (assign key value scope) :=
  Raises.get.bind fun _ =>
    (raises_storing (Store.raises_put _ _ _ _ _)).bind fun _ => Raises.modify _

theorem raises_checkReference (suite : Suite) (current location referenced : String) :
    RaisesOther (checkReference suite current location referenced) :=
  Raises.get.bind fun _ => (Raises.modify _).bind fun _ => raises_result (.reworded fun _ => rfl)

theorem raises_send {suite : Suite} (honest : suite.Honest) (caseId? : Option String)
    (q : Request) : RaisesOther (send suite caseId? q) := by
  intro s stop t h
  obtain ⟨hr, -⟩ := Yields.of_send h
  exact honest.transport _ _ _ _ stop hr.symm

end Session

theorem Login.raises_keepToken (a : Login) (token : String) :
    RaisesOther (a.keepToken token) := by
  refine Raises.get.bind fun s => Raises.bind (Raises.modify _) fun _ => ?_
  intro t stop u h
  rcases yields_bind_iff.mp h with ⟨keep, t', hkeep, hput⟩ | ⟨stop', hkeep, he⟩
  · obtain ⟨kept, rfl⟩ := yields_mk_pure_iff.mp hkeep
    obtain ⟨expiry, rfl⟩ := Store.exists_of_putFor kept.symm
    exact Session.raises_storing (Store.raises_put _ _ _ _ _) _ _ _ hput
  · cases he
    obtain ⟨unkept, -⟩ := yields_mk_pure_iff.mp hkeep
    exact Store.fails_putFor _ _ _ _ _ stop unkept.symm

theorem Login.fails_tokenIn (a : Login) (url : String) (reply : Reply) :
    Fails Other (a.tokenIn url reply) := by
  unfold Login.tokenIn
  split
  · exact .error rfl
  · exact (JsonPath.fails_findFirst _ _ _).bind fun _ => .ok _

theorem Login.raises_fetchToken {suite : Suite} (honest : suite.Honest) (a : Login)
    (q : Request) : RaisesOther (a.fetchToken suite q) := by
  unfold Login.fetchToken
  refine Raises.get.bind fun _ => Raises.bind ?_ fun url => ?_
  · exact Session.raises_result (.reworded fun _ => rfl)
  refine (Session.raises_send honest _ _).bind fun raw => ?_
  refine (Session.raises_result (a.fails_tokenIn _ _)).bind fun token => ?_
  exact (a.raises_keepToken _).bind fun _ => Raises.pure _

theorem Login.raises_apply {suite : Suite} (honest : suite.Honest) (a : Login) (q : Request) :
    RaisesOther (a.apply suite q) := by
  unfold Login.apply
  split
  · exact Raises.pure _
  refine Raises.get.bind fun s => ?_
  dsimp only
  split
  · exact (Raises.pure _).bind fun _ => Raises.pure _
  · exact (a.raises_fetchToken honest q).bind fun _ => Raises.pure _

theorem raises_resolveEntry (suite : Suite) (entry : CaseEntry) :
    RaisesOther (resolveEntry suite entry) := by
  refine (Session.raises_resolved suite _ _).bind fun configured => ?_
  refine (Session.raises_result (Config.fails_read _ _)).bind fun config => ?_
  refine (Session.raises_resolved suite _ _).bind fun step => ?_
  exact (Session.raises_result (Step.fails_read _ _)).bind fun _ => Raises.pure _

theorem raises_fillRelations (location : String) (d : Document) :
    RaisesOther (fillRelations location d) :=
  Raises.get.bind fun _ =>
    (Session.raises_result (Placeholder.fails_replaceRelations _ _ _ _)).bind fun _ =>
      (Raises.modify _).bind fun _ => (Raises.modify _).bind fun _ => Raises.pure _

theorem raises_readRequest (suite : Suite) (location : String) (config : Config)
    (d : Document) : RaisesOther (readRequest suite location config d) := by
  have loaded (s : Session) : RaisesOther (Session.stopping (Request.ofDocument d config s.store
      s.files suite.settings.requestDefaults location)) :=
    Raises.mk_pure (Request.fails_ofDocument _ _ _ _ _ _)
  refine Raises.get.bind fun s => ?_
  dsimp only
  split
  · exact Raises.bind (Raises.modify _) fun _ => loaded s
  · exact loaded s

theorem raises_authorize {suite : Suite} (honest : suite.Honest) (request : Request) :
    RaisesOther (authorize suite request) := by
  unfold authorize
  cases suite.login? with
  | none => exact Raises.pure _
  | some login => exact login.raises_apply honest request

theorem raises_makeRequest {suite : Suite} (honest : suite.Honest) (location : String)
    (config : Config) (step : Step) :
    RaisesOther (makeRequest suite location config step) := by
  refine (raises_fillRelations location step.request).bind fun d => ?_
  refine (Raises.modify _).bind fun _ => ?_
  exact (raises_readRequest suite location config d).bind fun _ => raises_authorize honest _

/-- That a case did not pass is an error about dependencies, whatever its verdict was. -/
theorem raises_takeReport (location : String) (reference : CaseReference) (report : Report) :
    RaisesOther (takeReport location reference report) := by
  unfold takeReport
  dsimp only
  split
  · split
    · split
      · refine (Session.raises_result (JsonPath.fails_findFirst _ _ _)).bind fun found => ?_
        exact Session.raises_relate _ _
      · exact raisesOther_throw rfl
    · exact Raises.pure _
    · exact Raises.pure _
    · exact raisesOther_throw rfl
  · exact raisesOther_throw rfl
  · exact raisesOther_throw rfl
  · exact raisesOther_throw rfl

/-- **No setup action says that an assertion is false**, if the cases inside do not. They
do not, because what a case amounts to is in its report. -/
theorem raises_runSetupAction {suite : Suite} (honest : suite.Honest)
    {nested : String → Run Report} (hn : ∀ id, RaisesOther (nested id))
    (current location : String) (action : SetupAction) :
    RaisesOther (runSetupAction suite nested current location action) := by
  cases action with
  | testcase references =>
    refine Raises.forM (fun reference => ?_) _
    refine (Session.raises_checkReference _ _ _ _).bind fun _ => (hn _).bind fun report => ?_
    exact raises_takeReport _ _ _
  | sql statements =>
    refine Raises.forM (fun statement => ?_) _
    refine (Session.raises_queryRow honest _ _).bind fun row? => ?_
    exact Raises.forM (fun _ => Session.raises_relate _ _) _
  | hook source => exact Session.raises_runHook _ _ _
  | waitTime seconds => exact Session.raises_pause _ _

end CaseRunner
