import CaseRunner.Proofs.Case.Reading
import CaseRunner.Proofs.Session.Turn

/-!
# The course of an execution

How far a case gets is decided by the cases that it needs. This module says once what an
execution can do, in terms of what the executions inside it do: the setup of a case follows
its references one after the other (`Follows`), and only a case whose setup is done hands
its request to a transport (`Performs`). Everything else is a matter of turns.

What the executions inside do is left open: it is any relation between the id of a case,
the session before, the outcome and the session after. So a relation that every case
preserves, assuming it of the cases inside, holds of every run (`runToDepth_induct`).

A case comes to its end in one of two ways. Mostly it is concluded: there is a report with
a verdict, the case leaves the stack and is done. Or it crashes, and then nothing of this
happens, in it and in all cases around it (`Yields.of_runLoaded`). That is why a crash of a
case inside is an alternative of its own in `Follows`, with no turns after it, while after
a case that merely fails there may be some.
-/

namespace CaseRunner

/-- **A relation that executions of cases may stand in**: the id of the case, the session
before, the outcome, and the session after. The outcome is part of it, because what holds
of a case that has passed and of one that has crashed need not be the same. -/
abbrev CaseRelation := String → Session → Except (Stop RunError) Report → Session → Prop

/-- **Following references one after the other.** A reference is checked, and if the check
lets it through its case is run; only a case that passed leads on to the next reference.
The relation `N` says what running the cases does.

The references are those of all the actions of a setup, in one list, and the turns of the
other actions go on between them. The check is told in the journal before its case is run,
so the relation `N` is asked of the session with the check in it. -/
inductive Follows (cases : CaseIndex) (N : CaseRelation) (current : String) :
    List String → Session → Except (Stop RunError) Unit → Session → Prop
  /-- There is nothing left to follow. -/
  | done (s : Session) : Follows cases N current [] s (.ok ()) s
  /-- Something else goes wrong. -/
  | stopped (ids : List String) (s : Session) (stop : Stop RunError) :
      Follows cases N current ids s (.error stop) s
  /-- Something else is done. -/
  | quiet {ids : List String} {s t u : Session} {r : Except (Stop RunError) Unit}
      (turns : Session.Quietly s t) (rest : Follows cases N current ids t r u) :
      Follows cases N current ids s r u
  /-- A reference is refused. -/
  | refused {id : String} (ids : List String) {s : Session} {fault : DependencyFault}
      (e : RunError)
      (check : checkDependency cases s.active.reverse current id = .error fault) :
      Follows cases N current (id :: ids) s (.error (.error e))
        (s.noting (.checked current id (.error fault)))
  /-- Running the case of a reference crashes, and nothing else is done. -/
  | crashed {id : String} (ids : List String) {s t : Session} {q : Quantity}
      (unfit : q.fits = false)
      (check : checkDependency cases s.active.reverse current id = .ok ())
      (run : N id (s.noting (.checked current id (.ok ()))) (.error (.crash q unfit)) t) :
      Follows cases N current (id :: ids) s (.error (.crash q unfit)) t
  /-- The case of a reference does not pass, or does not give what is asked of
  it. -/
  | broken {id : String} (ids : List String) {s t u : Session}
      {r : Except (Stop RunError) Report} (stop : Stop RunError)
      (check : checkDependency cases s.active.reverse current id = .ok ())
      (run : N id (s.noting (.checked current id (.ok ()))) r t)
      (survived : ¬ Stop.Crashes r)
      (turns : Session.Quietly t u) : Follows cases N current (id :: ids) s (.error stop) u
  /-- The case of a reference passes. -/
  | passed {id : String} {ids : List String} {s t u : Session} {report : Report}
      {r : Except (Stop RunError) Unit}
      (check : checkDependency cases s.active.reverse current id = .ok ())
      (run : N id (s.noting (.checked current id (.ok ()))) (.ok report) t)
      (verdict : report.verdict = .passed) (rest : Follows cases N current ids t r u) :
      Follows cases N current (id :: ids) s r u

namespace Follows

variable {cases : CaseIndex} {N : CaseRelation} {current : String}
  {ids ids' : List String} {s t u : Session} {r : Except (Stop RunError) Unit}

/-- What follows no reference at all. -/
theorem of_quietly (h : Session.Quietly s t) : Follows cases N current [] s r t := by
  cases r with
  | ok _ => exact .quiet h (.done t)
  | error e => exact .quiet h (.stopped [] t e)

/-- **References are followed one list after the other.** The actions of a setup are put
together by this lemma. -/
theorem append (h : Follows cases N current ids s (.ok ()) t)
    (h' : Follows cases N current ids' t r u) :
    Follows cases N current (ids ++ ids') s r u := by
  generalize ho : (Except.ok () : Except (Stop RunError) Unit) = o at h
  induction h with
  | done => exact h'
  | stopped => cases ho
  | quiet turns _ ih => exact .quiet turns (ih h' ho)
  | refused | crashed | broken => cases ho
  | passed check run verdict _ ih => exact .passed check run verdict (ih h' ho)

/-- Where following references is stopped, no more of them are followed. -/
theorem append_error {stop : Stop RunError} (h : Follows cases N current ids s (.error stop) t)
    (ids' : List String) : Follows cases N current (ids ++ ids') s (.error stop) t := by
  generalize ho : (Except.error stop : Except (Stop RunError) Unit) = o at h
  induction h with
  | done => cases ho
  | stopped ids s stop' => exact .stopped _ s stop'
  | quiet turns _ ih => exact .quiet turns (ih ho)
  | refused ids e' check => exact .refused _ e' check
  | crashed ids unfit check run => exact .crashed _ unfit check run
  | broken ids stop' check run survived turns => exact .broken _ stop' check run survived turns
  | passed check run verdict _ ih => exact .passed check run verdict (ih ho)

/-- **Following references moves along a relation** if turns do, refusals do, and so does
each case that is let through, together with its check. It is enough to look at the
references in the list, which matters where only these are known to come before the case.
-/
theorem along {R : Session → Session → Prop} [IsPreorder Session R]
    (h : Follows cases N current ids s r t)
    (quiet : ∀ s t, Session.Quietly s t → R s t)
    (refused : ∀ id ∈ ids, ∀ s fault,
      checkDependency cases s.active.reverse current id = .error fault →
      R s (s.noting (.checked current id (.error fault))))
    (runs : ∀ id ∈ ids, ∀ s r t,
      checkDependency cases s.active.reverse current id = .ok () →
      N id (s.noting (.checked current id (.ok ()))) r t → R s t) : R s t := by
  induction h with
  | done s => exact refl_of R s
  | stopped ids s e => exact refl_of R s
  | quiet turns _ ih => exact trans_of R (quiet _ _ turns) (ih refused runs)
  | refused ids e check => exact refused _ List.mem_cons_self _ _ check
  | crashed ids unfit check run => exact runs _ List.mem_cons_self _ _ _ check run
  | broken ids stop check run survived turns =>
    exact trans_of R (runs _ List.mem_cons_self _ _ _ check run) (quiet _ _ turns)
  | passed check run verdict _ ih =>
    refine trans_of R (runs _ List.mem_cons_self _ _ _ check run) (ih ?_ ?_)
    · exact fun id hid => refused id (List.mem_cons_of_mem _ hid)
    · exact fun id hid => runs id (List.mem_cons_of_mem _ hid)

end Follows

/-! ## Setup -/

section Setup

variable {suite : Suite} {nested : String → Run Report} {N : CaseRelation}

/-- What checking a reference yields: it is told in the journal with what came of it, and a
fault becomes an error at the place of the reference. -/
theorem Session.Yields.of_checkReference {current location id : String} {s t : Session}
    {r : Except (Stop RunError) Unit}
    (h : Yields (Session.checkReference suite current location id) s r t) :
    t = s.noting (.checked current id
        (checkDependency suite.cases s.active.reverse current id))
      ∧ r = Stop.lift ((checkDependency suite.cases s.active.reverse current id).mapError
          (·.toError location)) := by
  unfold Session.checkReference at h
  rw [yields_get_bind_iff] at h
  obtain ⟨rfl, rfl⟩ := yields_mk_pure_iff.mp (Session.yields_record_bind_iff.mp h)
  exact ⟨rfl, rfl⟩

/-- What is extracted from a report is related to a name, which is a turn. -/
theorem keeps_takeReport {R : Session → Session → Prop} [Session.TurnsAlong R]
    (location : String) (reference : CaseReference) (report : Report) :
    Keeps R (takeReport location reference report) := by
  unfold takeReport
  dsimp only
  split
  · split
    · split
      · exact (Session.keeps_result _).bind fun found => Session.keeps_relate _ _
      · exact Keeps.throw _
    · exact Keeps.pure _
    · exact Keeps.pure _
    · exact Keeps.throw _
  · exact Keeps.throw _
  · exact Keeps.throw _
  · exact Keeps.throw _

/-- **Only from a case that passed something is taken.** On this rests that a case is
performed only when all that it needs has passed. -/
theorem Yields.passed_of_takeReport {location : String} {reference : CaseReference}
    {report : Report} {s t : Session}
    (h : Yields (takeReport location reference report) s (.ok ()) t) :
    report.verdict = .passed := by
  unfold takeReport at h
  dsimp only at h
  split at h
  · assumption
  · cases (yields_throw_iff.mp h).1
  · cases (yields_throw_iff.mp h).1
  · cases (yields_throw_iff.mp h).1

/-- **A reference is followed.** What it gives, as headers, variables or whatever else is
asked of it, is a matter of turns; its case is run between the check and these. -/
theorem follows_runReference (hN : ∀ id s r t, Yields (nested id) s r t → N id s r t)
    {current location : String} {reference : CaseReference} {s t : Session}
    {r : Except (Stop RunError) Unit}
    (h : Yields (runReference suite nested current location reference) s r t) :
    Follows suite.cases N current [reference.caseId] s r t := by
  rcases yields_bind_iff.mp h with ⟨_, s₁, hcheck, h⟩ | ⟨e, hcheck, rfl⟩
  · obtain ⟨rfl, hok⟩ := Session.Yields.of_checkReference hcheck
    cases hc : checkDependency suite.cases s.active.reverse current reference.caseId with
    | error fault => rw [hc] at hok; cases hok
    | ok _ =>
      -- let through, the case is run, and only then its report is looked at
      rw [hc] at h
      rcases yields_bind_iff.mp h with ⟨report, s₂, hrun, htake⟩ | ⟨stop, hrun, rfl⟩
      · have turns : Session.Quietly s₂ t := keeps_takeReport _ _ _ _ _ _ htake
        cases r with
        | ok _ =>
          have passed := htake.passed_of_takeReport
          exact .passed hc (hN _ _ _ _ hrun) passed (.of_quietly turns)
        | error stop =>
          exact .broken [] stop hc (hN _ _ _ _ hrun) (Stop.not_crashes_ok report) turns
      · cases stop with
        | error e =>
          exact .broken [] _ hc (hN _ _ _ _ hrun) (Stop.not_crashes_error e) .refl
        | crash q unfit => exact .crashed [] unfit hc (hN _ _ _ _ hrun)
  · obtain ⟨rfl, herr⟩ := Session.Yields.of_checkReference hcheck
    cases hc : checkDependency suite.cases s.active.reverse current reference.caseId with
    | error fault =>
      rw [hc] at herr
      cases herr
      exact .refused [] _ hc
    | ok _ => rw [hc] at herr; cases herr

/-- **A setup action follows its references**, which are none for most of them, and for the
others those of a list in its order. -/
theorem follows_runSetupAction (hN : ∀ id s r t, Yields (nested id) s r t → N id s r t)
    {current location : String} {action : SetupAction} {s t : Session}
    {r : Except (Stop RunError) Unit}
    (h : Yields (runSetupAction suite nested current location action) s r t) :
    Follows suite.cases N current action.needs s r t := by
  cases action with
  | testcase references =>
    change Yields (references.toList.forM (runReference suite nested current location))
      s r t at h
    show Follows suite.cases N current (references.toList.map (·.caseId)) s r t
    generalize references.toList = references at h ⊢
    induction references generalizing s with
    | nil => exact .of_quietly (Keeps.pure (R := Session.Quietly) _ _ _ _ h)
    | cons reference rest ih =>
      rcases yields_bind_iff.mp h with ⟨_, s₁, hrun, h⟩ | ⟨e, hrun, rfl⟩
      · exact (follows_runReference hN hrun).append (ih h)
      · exact (follows_runReference hN hrun).append_error _
  | sql statements =>
    refine .of_quietly (Keeps.forM (fun statement => ?_) _ _ _ _ h)
    refine (Session.keeps_queryRow suite _ _).bind fun row? => ?_
    exact Keeps.forM (fun _ => Session.keeps_relate _ _) _
  | hook source => exact .of_quietly (Session.keeps_runHook suite _ _ _ _ _ h)
  | waitTime seconds => exact .of_quietly (Session.keeps_pause _ _ _ _ _ h)

/-- **A setup follows the references of all its actions**, in the order in which they
stand. By induction on the actions. -/
theorem follows_runSetup (hN : ∀ id s r t, Yields (nested id) s r t → N id s r t)
    {current location : String} {i : Nat} {actions : List SetupAction} {p q : Progress}
    {r : Except (Stop RunError) Unit}
    (h : Yields (runSetup suite nested current location i actions) p r q) :
    Follows suite.cases N current (actions.flatMap (·.needs)) p.session r q.session := by
  induction actions generalizing i p with
  | nil =>
    exact .of_quietly (Keeps.pure (R := Executing.Quietly) _ _ _ _ h)
  | cons action rest ih =>
    rcases yields_bind_iff.mp h with ⟨_, p₁, hact, h⟩ | ⟨e, hact, rfl⟩
    · have hfirst := follows_runSetupAction hN (Executing.Yields.of_inSession hact).1
      have hrest := ih (yields_modify_bind_iff.mp h)
      exact hfirst.append hrest
    · have hfirst := follows_runSetupAction hN (Executing.Yields.of_inSession hact).1
      exact hfirst.append_error _

end Setup

/-! ## A case -/

/-- A step that a loaded case can be read as, whatever the variables then are. What a case
needs may depend on them, as its references are texts with placeholders like all others. -/
def CaseEntry.Reads (suite : Suite) (entry : CaseEntry) (step : Step) : Prop :=
  ∃ s config t, Yields (resolveEntry suite entry) s (.ok (config, step)) t

/-- **What the execution of a case can do** between its beginning and its end.

The kinds tell how far it gets: it is not begun in earnest, its setup is stopped, there is
no request, or its request is handed to a transport. Only in the last of them is something
sent for the case, and only there its outcome is left open, because anything may become of
a request and of the teardown behind it. -/
inductive Performs (suite : Suite) (N : CaseRelation) (entry : CaseEntry) (s : Session) :
    Except (Stop RunError) (Option String) → Session → Prop
  /-- It cannot be read, or is skipped. -/
  | unready {outcome : Except (Stop RunError) (Option String)} {t : Session}
      (turns : Session.Quietly s t) (ending : outcome ≠ .ok none) :
      Performs suite N entry s outcome t
  /-- Its setup goes wrong. -/
  | unprepared {step : Step} {t u : Session} {stop : Stop RunError}
      (reading : entry.Reads suite step) (turns : Session.Quietly s t)
      (setup : Follows suite.cases N step.caseId step.needs t (.error stop) u) :
      Performs suite N entry s (.error stop) u
  /-- Its setup is done, but there is no request to send. -/
  | unsent {step : Step} {t u v : Session} {stop : Stop RunError}
      (reading : entry.Reads suite step) (turns : Session.Quietly s t)
      (setup : Follows suite.cases N step.caseId step.needs t (.ok ()) u)
      (making : Session.Quietly u v) : Performs suite N entry s (.error stop) v
  /-- Its setup is done and its request is handed to a transport. -/
  | sent {step : Step} {t u v w : Session} {outcome : Except (Stop RunError) (Option String)}
      (request : Request) (reading : entry.Reads suite step) (turns : Session.Quietly s t)
      (setup : Follows suite.cases N step.caseId step.needs t (.ok ()) u)
      (making : Session.Quietly u v)
      (teardown : Session.Quietly (v.noting (.sent (some entry.caseId) request)) w) :
      Performs suite N entry s outcome w

/-- **An execution moves along a relation** if turns do, and so do the setup of the case
and the handing of its request to a transport. -/
theorem Performs.along {suite : Suite} {N : CaseRelation} {entry : CaseEntry}
    {s t : Session} {outcome : Except (Stop RunError) (Option String)}
    {R : Session → Session → Prop} [IsPreorder Session R] (h : Performs suite N entry s outcome t)
    (quiet : ∀ s t, Session.Quietly s t → R s t)
    (setup : ∀ step s r t, entry.Reads suite step →
      Follows suite.cases N step.caseId step.needs s r t → R s t)
    (sent : ∀ s request, R s (s.noting (.sent (some entry.caseId) request))) : R s t := by
  cases h with
  | unready turns => exact quiet _ _ turns
  | unprepared reading turns done =>
    exact trans_of R (quiet _ _ turns) (setup _ _ _ _ reading done)
  | unsent reading turns done making =>
    refine trans_of R (quiet _ _ turns) (trans_of R (setup _ _ _ _ reading done) ?_)
    exact quiet _ _ making
  | sent request reading turns done making teardown =>
    refine trans_of R (quiet _ _ turns) (trans_of R (setup _ _ _ _ reading done) ?_)
    exact trans_of R (quiet _ _ making) (trans_of R (sent _ request) (quiet _ _ teardown))

section Case

open Executing

variable {suite : Suite} {nested : String → Run Report} {N : CaseRelation}
  {entry : CaseEntry}

theorem keeps_beginEntry {R : Session → Session → Prop} [Session.TurnsAlong R]
    (entry : CaseEntry) (config : Config) (step : Step) :
    Keeps (OnSession R) (beginEntry entry config step) := by
  refine (keeps_amend _).bind fun _ => (keeps_note _ _).bind fun _ => ?_
  refine (keeps_inSession (Session.keeps_result _)).bind fun reason? => ?_
  cases reason? with
  | some reason => exact (keeps_note _ _).bind fun _ => Keeps.pure _
  | none => exact Keeps.pure _

/-- Once the setup of a case is done, its request is handed to a transport, or
an error keeps it from that. -/
theorem Yields.of_finishEntry {started : Moment} {config : Config} {step : Step}
    {p q : Progress} {r : Except (Stop RunError) Unit}
    (h : Yields (finishEntry suite entry started config step) p r q) :
    (∃ e, r = .error e ∧ Session.Quietly p.session q.session)
      ∨ ∃ v request, Session.Quietly p.session v
        ∧ Session.Quietly (v.noting (.sent (some entry.caseId) request)) q.session := by
  rcases yields_bind_iff.mp h with ⟨request, p₁, hmake, h⟩ | ⟨e, hmake, rfl⟩
  · obtain ⟨hmake, -⟩ := Executing.Yields.of_inSession hmake
    have making := keeps_makeRequest suite _ _ _ _ _ _ hmake
    have h := yields_modify_bind_iff.mp h
    refine .inr ⟨p₁.session, request, making, ?_⟩
    have rest : ∀ raw : RawReply, Keeps Executing.Quietly (do
        note .request (request.method.spelling ++ " " ++ request.url ++ " -> " ++
          toString raw.statusCode)
        amend fun r => { r with reply? := some raw.toReply }
        clockReply started
        let ending ← outcome (runTeardown suite entry.location 0 step.teardown)
        clockReply started
        inSession (Session.result ending)) := by
      intro raw
      refine (keeps_note _ _).bind fun _ => (keeps_amend _).bind fun _ => ?_
      refine (keeps_clockReply started).bind fun _ => ?_
      refine (keeps_outcome (keeps_runTeardown suite _ _ _)).bind fun ending => ?_
      refine (keeps_clockReply started).bind fun _ => ?_
      exact keeps_inSession (Session.keeps_result _)
    -- the sending itself is told in the journal before anything else happens
    rcases yields_bind_iff.mp h with ⟨raw, p₂, hsend, h⟩ | ⟨e, hsend, -⟩
    · have sending := Session.along_of_send (R := Session.Quietly)
        (Executing.Yields.of_inSession hsend).1
      exact sending.trans (rest raw _ _ _ h)
    · exact Session.along_of_send (Executing.Yields.of_inSession hsend).1
  · obtain ⟨hmake, -⟩ := Executing.Yields.of_inSession hmake
    exact .inl ⟨e, rfl, keeps_makeRequest suite _ _ _ _ _ _ hmake⟩

/-- **An execution does what it can do.** Here the computation is taken apart for all that
is about the nesting of cases, their order and their cycles. -/
theorem performs_runEntry (hN : ∀ id s r t, Yields (nested id) s r t → N id s r t)
    {p q : Progress} {outcome : Except (Stop RunError) (Option String)}
    (h : Yields (runEntry suite nested entry) p outcome q) :
    Performs suite N entry p.session outcome q.session := by
  unfold runEntry at h
  rw [yields_get_bind_iff] at h
  rcases yields_bind_iff.mp h with ⟨⟨config, step⟩, p₁, hres, h⟩ | ⟨e, hres, rfl⟩
  · obtain ⟨hres, -⟩ := Executing.Yields.of_inSession hres
    have turns : Session.Quietly p.session p₁.session :=
      keeps_resolveEntry suite entry _ _ _ hres
    have reading : entry.Reads suite step := ⟨_, _, _, hres⟩
    rcases yields_bind_iff.mp h with ⟨reason?, p₂, hbegin, h⟩ | ⟨e, hbegin, rfl⟩
    · have begun := turns.trans (keeps_beginEntry _ _ _ _ _ _ hbegin)
      cases reason? with
      | some reason =>
        obtain ⟨rfl, rfl⟩ := yields_pure_iff.mp h
        exact .unready begun (by simp)
      | none =>
        have readied := begun.tail (.moved step.caseId .resolvingDependencies)
        rcases yields_bind_iff.mp (Executing.yields_record_bind_iff.mp h) with
          ⟨_, p₃, hsetup, h⟩ | ⟨e, hsetup, rfl⟩
        · have setup := follows_runSetup hN hsetup
          rcases yields_bind_iff.mp h with ⟨_, p₄, hfinish, hret⟩ | ⟨e, hfinish, rfl⟩
          · obtain ⟨-, rfl⟩ := yields_pure_iff.mp hret
            obtain ⟨e, habs, -⟩ | ⟨v, request, making, teardown⟩ :=
              hfinish.of_finishEntry
            · cases habs
            · exact .sent request reading readied setup making teardown
          -- an error after the setup may come before the sending or after it
          · obtain ⟨e', -, making⟩ | ⟨v, request, making, teardown⟩ :=
              hfinish.of_finishEntry
            · exact .unsent reading readied setup making
            · exact .sent request reading readied setup making teardown
        · exact .unprepared reading readied (follows_runSetup hN hsetup)
    · exact .unready (turns.trans (keeps_beginEntry _ _ _ _ _ _ hbegin)) (by simp)
  · obtain ⟨hres, -⟩ := Executing.Yields.of_inSession hres
    exact .unready (keeps_resolveEntry suite entry _ _ _ hres) (by simp)

/-- Concluding a case yields a report, unless the case has crashed. -/
theorem Yields.of_conclude {ended : Except (Stop RunError) (Option String)} {report : Report}
    {s t : Session} {r : Except (Stop RunError) Report}
    (h : Yields (conclude entry ended report) s r t) :
    (∃ outcome, ended = Stop.lift outcome
        ∧ r = .ok { report with verdict := Verdict.ofOutcome outcome }
        ∧ t = (s.noting (.left entry.caseId)).noting (.moved entry.caseId .done))
      ∨ ∃ q unfit, ended = .error (.crash q unfit) ∧ r = .error (.crash q unfit) ∧ t = s := by
  rcases yields_bind_iff.mp h with ⟨outcome, u, hout, hrest⟩ | ⟨stop, hout, rfl⟩
  · obtain ⟨told, rfl⟩ := yields_mk_pure_iff.mp hout
    have hrest := Session.yields_record_bind_iff.mp (Session.yields_record_bind_iff.mp hrest)
    obtain ⟨rfl, rfl⟩ := yields_pure_iff.mp hrest
    exact .inl ⟨outcome, Stop.told_eq_ok_iff.mp told.symm, rfl, rfl⟩
  · obtain ⟨told, rfl⟩ := yields_mk_pure_iff.mp hout
    obtain ⟨q, unfit, rfl, ended⟩ := Stop.told_eq_error_iff.mp told.symm
    exact .inr ⟨q, unfit, ended, rfl, rfl⟩

/-- A case that is loaded is run between its beginning and its conclusion. -/
theorem run_runLoaded (suite : Suite) (nested : String → Run Report) (entry : CaseEntry)
    (s : Session) : (runLoaded suite nested entry).run s =
      let ran := (runEntry suite nested entry).run
        ⟨s.noting (.entered entry.caseId), entry.report⟩
      (conclude entry ran.1 ran.2.report).run ran.2.session :=
  rfl

/-- **What running a case that is loaded yields**: a report, whatever comes of it, and
then the case has left the stack; or it crashes, and nothing is done any more. -/
theorem Yields.of_runLoaded {s t : Session} {r : Except (Stop RunError) Report}
    (h : Yields (runLoaded suite nested entry) s r t) :
    ∃ ended p, Yields (runEntry suite nested entry)
        ⟨s.noting (.entered entry.caseId), entry.report⟩ ended p
      ∧ ((∃ outcome, ended = Stop.lift outcome
          ∧ r = .ok { p.report with verdict := Verdict.ofOutcome outcome }
          ∧ t = (p.session.noting (.left entry.caseId)).noting (.moved entry.caseId .done))
        ∨ ∃ q unfit, ended = .error (.crash q unfit) ∧ r = .error (.crash q unfit)
          ∧ t = p.session) :=
  ⟨_, _, yields_run (runEntry suite nested entry) _, Yields.of_conclude h⟩

/-- What running a case yields: an error if it does not exist, or else its
report or a crash. -/
theorem performs_runCase (hN : ∀ id s r t, Yields (nested id) s r t → N id s r t)
    {id : String} {s t : Session} {r : Except (Stop RunError) Report}
    (h : Yields (runCase suite nested id) s r t) :
    (suite.cases.find? id = none ∧ (∃ e, r = .error (.error e)) ∧ t = s)
      ∨ ∃ entry ended u, suite.cases.find? id = some entry
        ∧ Performs suite N entry (s.noting (.entered id)) ended u
        ∧ ((∃ outcome report, ended = Stop.lift outcome ∧ r = .ok report
            ∧ report.verdict = Verdict.ofOutcome outcome
            ∧ t = (u.noting (.left id)).noting (.moved id .done))
          ∨ ∃ q unfit, ended = .error (.crash q unfit) ∧ r = .error (.crash q unfit)
            ∧ t = u) := by
  unfold runCase at h
  cases hf : suite.cases.find? id with
  | none =>
    rw [hf] at h
    obtain ⟨rfl, rfl⟩ := yields_throw_iff.mp h
    exact .inl ⟨rfl, ⟨_, rfl⟩, rfl⟩
  | some entry =>
    rw [hf] at h
    obtain rfl := CaseIndex.caseId_of_find? hf
    obtain ⟨ended, p, run, ends⟩ := h.of_runLoaded
    refine .inr ⟨entry, ended, p.session, rfl, performs_runEntry hN run, ends.imp_left ?_⟩
    exact fun ⟨outcome, hended, hr, ht⟩ => ⟨outcome, _, hended, hr, rfl, ht⟩

end Case

/-- A case passes if nothing went wrong and it was not skipped. -/
theorem Verdict.ofOutcome_eq_passed_iff {outcome : Except RunError (Option String)} :
    Verdict.ofOutcome outcome = .passed ↔ outcome = .ok none := by
  unfold Verdict.ofOutcome
  split
  · simp
  · simp
  · split <;> simp

/-! ## Runs -/

/-- **What every run does**, whatever the depth: a relation between the beginnings and the
ends of executions holds of every run if it holds of failing at once and if every execution
preserves it, given it of the executions inside. An execution comes to its end or crashes,
and where it crashes is where the run ends.

This is the one induction on the depth of the nesting. To fail at once is what becomes of a
case that does not exist, and of any case at depth nought; that this depth is never reached
from outside is shown elsewhere (`Suite.run_nests`). -/
theorem runToDepth_induct {suite : Suite} (N : CaseRelation)
    (fails : ∀ id s e, N id s (.error (.error e)) s)
    (runs : ∀ id entry outcome report s u, suite.cases.find? id = some entry →
      Performs suite N entry (s.noting (.entered id)) (Stop.lift outcome) u →
      report.verdict = Verdict.ofOutcome outcome →
      N id s (.ok report) ((u.noting (.left id)).noting (.moved id .done)))
    (crashes : ∀ id entry q unfit s u, suite.cases.find? id = some entry →
      Performs suite N entry (s.noting (.entered id)) (.error (.crash q unfit)) u →
      N id s (.error (.crash q unfit)) u)
    (depth : Nat) {id : String} {s t : Session} {r : Except (Stop RunError) Report}
    (h : Yields (runToDepth suite depth id) s r t) : N id s r t := by
  induction depth generalizing id s t r with
  | zero =>
    obtain ⟨rfl, rfl⟩ := yields_throw_iff.mp h
    exact fails id t _
  | succ depth ih =>
    obtain ⟨-, ⟨e, rfl⟩, rfl⟩ | ⟨entry, ended, u, hf, run, ends⟩ :=
      performs_runCase (fun _ _ _ _ => ih) h
    · exact fails id t e
    obtain ⟨outcome, report, rfl, rfl, hv, rfl⟩ | ⟨q, unfit, rfl, rfl, rfl⟩ := ends
    · exact runs id entry outcome report s u hf run hv
    · exact crashes id entry q unfit s t hf run

namespace Suite

/-- How a case ends that is run in a session. -/
def outcome (suite : Suite) (id : String) (s : Session) : Except (Stop RunError) Report :=
  ((suite.run id).run s).1

/-- The session after a case was run in it. -/
def after (suite : Suite) (id : String) (s : Session) : Session :=
  ((suite.run id).run s).2

/-- A suite without functions whose transports answer every request with
nothing. -/
def answering (cases : CaseIndex) : Suite :=
  { registry := .empty, cases, transport := fun _ _ _ _ => ⟨0, .ok {}⟩ }

end Suite

/-- A session in which nothing has happened. -/
def Session.fresh : Session := { calls := ⟨0, fun _ => ⟨0, id⟩⟩, now := 0 }

end CaseRunner
