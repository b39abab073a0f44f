import CaseRunner.Proofs.Session.Crashing
import CaseRunner.Proofs.Session.Stages

/-!
# Cases side by side

All cases are run one after the other, and what becomes of one is meant to be no reason not
to run the next. For errors this is so: whatever error there is in a case, or in the cases
that it runs inside itself, becomes a verdict in the report on the case, and leaves no case
on the stack. A crash becomes nothing. It is not caught where errors are, so it takes with
it the case in which it comes, the cases around that, and all that were still to be run;
even the reports that there were already are lost.

So there are as many reports as cases, in the order of loading, exactly if all numbers fit
that come up while the cases are run (`Suite.runAll_reports_iff`), and a single number in a
single case decides this for all of them (`Suite.runAll_loses_siblings`). The condition is
exact in both directions. Where a number does not fit, the run never comes to a report by
another way; and where they all fit, there is no other reason for which a report could be
missing: no error, no circle of cases that need each other, and no depth of nesting.
-/

namespace CaseRunner

open Executing

/-! ## What a report is about -/

/-- **What a report is about**: the id and the location of its case. It is set when the
report is begun, and nothing that is written into it later changes it. -/
def Report.subject (r : Report) : String × String := (r.caseId, r.location)

/-- The reports are on the same case. -/
abbrev Report.SameSubject : Report → Report → Prop := Function.onFun Eq Report.subject

/-- The report stays on its case. -/
abbrev Executing.SameSubject : Progress → Progress → Prop :=
  Function.onFun Report.SameSubject Progress.report

section Subject

variable {α : Type} {suite : Suite} {nested : String → Run Report} {entry : CaseEntry}
  {p q : Progress}

/-- Actions done in turn leave the report on its case, if each of them does. -/
theorem sameSubject_runActions {phase : Phase} {act : String → α → Executing Unit}
    (hact : ∀ place action, Keeps Executing.SameSubject (act place action))
    (location : String) (i : Nat) (actions : List α) :
    Keeps Executing.SameSubject (runActions phase act location i actions) := by
  induction actions generalizing i with
  | nil => exact Keeps.pure _
  | cons action rest ih =>
    refine (hact _ _).bind fun _ => Keeps.bind (Keeps.modify fun p => ?_) fun _ => ih (i + 1)
    rfl

theorem sameSubject_runSetup (current location : String) (actions : List SetupAction) :
    Keeps Executing.SameSubject (runSetup suite nested current location 0 actions) := by
  rw [runSetup_eq]
  exact sameSubject_runActions (fun _ _ => keepsReport_inSession _) location 0 actions

theorem sameSubject_runTeardown (location : String) (actions : List TeardownAction) :
    Keeps Executing.SameSubject (runTeardown suite location 0 actions) := by
  rw [runTeardown_eq]
  refine sameSubject_runActions (fun place action => ?_) location 0 actions
  exact keepsReport_runTeardownAction (fun _ _ => rfl) suite place action

/-- **Wherever an execution ends**, the report is still on its case. -/
theorem Ends.subject {r : Except (Stop RunError) (Option String)}
    (h : Ends suite nested entry p r q) : p.report.subject = q.report.subject := by
  cases h with
  | unread | unruled | skipped => rfl
  | unprepared reading rule setup
  | unmade reading rule setup
  | unanswered reading rule setup =>
    have before := sameSubject_runSetup _ _ _ _ _ _ setup
    exact before
  | answered reading rule setup making sending teardown
  | interrupted reading rule setup making sending teardown =>
    have before := sameSubject_runSetup _ _ _ _ _ _ setup
    have after := sameSubject_runTeardown _ _ _ _ _ teardown
    exact before.trans after

/-- **A case that is loaded has a report on it** unless it crashes, whatever else goes
wrong. -/
theorem exists_report_of_runLoaded {s t : Session} {r : Except (Stop RunError) Report}
    (h : Yields (runLoaded suite nested entry) s r t) (survived : ¬ Stop.Crashes r) :
    ∃ report, r = .ok report ∧ report.subject = (entry.caseId, entry.location) := by
  obtain ⟨ended, p, run, ⟨outcome, rfl, hr, -⟩ | ⟨q, unfit, -, hr, -⟩⟩ := h.of_runLoaded
  · exact ⟨_, hr, (ends_runEntry run).subject.symm⟩
  · exact absurd ⟨q, unfit, hr⟩ survived

end Subject

namespace Suite

variable {suite : Suite} {id : String} {s : Session}

/-! ## One case -/

/-- What running a case yields. -/
theorem yields_runCase (suite : Suite) (id : String) (s : Session) :
    Yields (runCase suite (runToDepth suite suite.cases.size) id) s (suite.outcome id s)
      (suite.after id s) :=
  yields_run (suite.run id) s

/-- A case that is loaded has a report on it, or crashes. -/
theorem outcome_of_find? {entry : CaseEntry} (h : suite.cases.find? id = some entry)
    (survived : ¬ Stop.Crashes (suite.outcome id s)) :
    ∃ report, suite.outcome id s = .ok report
      ∧ report.subject = (entry.caseId, entry.location) := by
  have ran := suite.yields_runCase id s
  rw [runCase, h] at ran
  exact exists_report_of_runLoaded ran survived

/-- **There is a report exactly if there is the case and all numbers fit.** Errors do not
occur in this statement. Whatever goes wrong in a case that is loaded ends in the report on
it. -/
theorem outcome_isOk_iff : (∃ report, suite.outcome id s = .ok report)
    ↔ suite.cases.contains id = true ∧ s.AllFit (suite.after id s) := by
  have survives : s.AllFit (suite.after id s) ↔ ¬ Stop.Crashes (suite.outcome id s) := by
    rw [crashes_iff, not_not]
  rw [survives, CaseIndex.contains, Option.isSome_iff_exists]
  constructor
  · rintro ⟨report, hreport⟩
    refine ⟨?_, hreport ▸ Stop.not_crashes_ok report⟩
    rcases performs_runCase (N := fun _ _ _ _ => True) (fun _ _ _ _ _ => trivial)
      (suite.yields_runCase id s) with ⟨-, ⟨e, he⟩, -⟩ | ⟨entry, -, -, hf, -⟩
    · cases hreport.symm.trans he
    · exact ⟨entry, hf⟩
  · rintro ⟨⟨entry, hf⟩, survived⟩
    obtain ⟨report, hreport, -⟩ := outcome_of_find? hf survived
    exact ⟨report, hreport⟩

/-- While no case is being run, it does not matter what stands at the bottom of the
definition of a run. -/
theorem agree_bottom (suite : Suite) {n : Nat} (hn : suite.cases.size < n)
    (bottom : String → Run Report) (id : String) :
    Agree (Holding []) ((runCase suite)^[n] bottom id) (suite.run id) := by
  intro s idle
  rw [run_iterate_bottom suite bottom hn id idle]
  exact ⟨rfl, active_after idle⟩

/-! ## All cases -/

theorem minds_runSelected (suite : Suite) (ids : List String) :
    Leads Session.Minds (suite.runSelected ids) :=
  Leads.mapM (minds_runToDepth suite _) ids

/-- **Loaded cases have their reports one after the other**, unless there is a crash: each
in the session that those before it leave behind. By induction on the cases; a session left
behind is an arbitrary one for the cases that follow, and in it anything may have been
stored. -/
theorem reports_of_found {entries : List CaseEntry}
    (found : ∀ e ∈ entries, suite.cases.find? e.caseId = some e) {s t : Session}
    {r : Except (Stop RunError) (List Report)}
    (h : Yields (suite.runSelected (entries.map (·.caseId))) s r t)
    (survived : ¬ Stop.Crashes r) :
    t = suite.afterAll (entries.map (·.caseId)) s ∧ ∃ reports, r = .ok reports
      ∧ reports.map Report.subject = entries.map (fun e => (e.caseId, e.location))
      ∧ ∀ i e report, entries[i]? = some e → reports[i]? = some report →
        suite.outcome e.caseId (suite.afterAll ((entries.take i).map (·.caseId)) s)
          = .ok report := by
  induction entries generalizing s r with
  | nil =>
    obtain ⟨rfl, rfl⟩ := yields_pure_iff.mp h
    exact ⟨rfl, [], rfl, rfl, fun i e report he _ => nomatch he⟩
  | cons entry rest ih =>
    obtain ⟨head, tail⟩ := List.forall_mem_cons.mp found
    rw [runSelected, List.map_cons, List.mapM_cons] at h
    rcases yields_bind_iff.mp h with ⟨report, u, hrun, hrest⟩ | ⟨stop, hrun, rfl⟩
    · have outcome : suite.outcome entry.caseId s = .ok report := congrArg Prod.fst hrun
      obtain rfl : suite.after entry.caseId s = u := congrArg Prod.snd hrun
      obtain ⟨report', same, subject⟩ :=
        outcome_of_find? head (outcome ▸ Stop.not_crashes_ok report)
      obtain rfl := Except.ok.inj (same.symm.trans outcome)
      -- what the others yield is what the whole yields, but for the first report
      obtain ⟨r, others, rfl⟩ : ∃ r₀, Yields (suite.runSelected (rest.map (·.caseId)))
          (suite.after entry.caseId s) r₀ t ∧ r = r₀.map (report' :: ·) := by
        rcases yields_bind_iff.mp hrest with ⟨reports, v, others, hend⟩ | ⟨stop, others, rfl⟩
        · obtain ⟨rfl, rfl⟩ := yields_pure_iff.mp hend
          exact ⟨_, others, rfl⟩
        · exact ⟨_, others, rfl⟩
      have survives : ¬ Stop.Crashes r := by
        rintro ⟨q, unfit, rfl⟩
        exact survived ⟨q, unfit, rfl⟩
      obtain ⟨rfl, reports, rfl, subjects, each⟩ := ih tail others survives
      refine ⟨rfl, report' :: reports, rfl, ?_, ?_⟩
      · rw [List.map_cons, List.map_cons, subject, subjects]
      · intro i e other he hr
        cases i with
        | zero =>
          cases he
          cases hr
          exact outcome
        | succ i => exact each i e other he hr
    · -- a case that is loaded stops the others only by a crash
      have outcome : suite.outcome entry.caseId s = .error stop := congrArg Prod.fst hrun
      have stays : ¬ Stop.Crashes (suite.outcome entry.caseId s) := by
        rw [outcome]
        exact mt Stop.Crashes.error survived
      obtain ⟨report, same, -⟩ := outcome_of_find? head stays
      exact nomatch same.symm.trans outcome

/-- **What goes wrong in a case stops the others exactly if it is a crash.** Begun while no
case is being run, running all cases comes to an end. It gives one report for each, in the
order of loading, with the id and the location of the case, and leaves no case on the
stack, exactly if all numbers fit that came up; each report is then the one that the case
has when it is run in the session that those before it leave behind, however they ended. If
a number came up that does not fit, then the run crashes, and there is no report at all.

That a failing case never stops its siblings is therefore true of all that a report can
tell, and false of the one thing that none can tell. -/
theorem runAll_reports_iff (suite : Suite) (loaded : suite.cases.Loaded) (s : Session)
    (idle : s.active = []) :
    let ran := suite.runAll.run s
    ((∃ reports, ran.1 = .ok reports
        ∧ reports.map (fun r => (r.caseId, r.location))
          = suite.cases.entries.map (fun e => (e.caseId, e.location))
        ∧ (∀ i entry report, suite.cases.entries[i]? = some entry →
          reports[i]? = some report →
          suite.outcome entry.caseId (suite.afterAll (suite.cases.ids.take i) s) = .ok report)
        ∧ ran.2 = suite.afterAll suite.cases.ids s ∧ ran.2.active = [])
      ↔ s.AllFit ran.2)
      ∧ (¬ s.AllFit ran.2 → Stop.Crashes ran.1)
      ∧ ∀ n, suite.cases.size < n → ∀ bottom : String → Run Report,
        (suite.cases.ids.mapM ((runCase suite)^[n] bottom)).run s = ran := by
  intro ran
  have found : ∀ e ∈ suite.cases.entries, suite.cases.find? e.caseId = some e :=
    fun e he => (CaseIndex.find?_eq_some_iff loaded.nodup).mpr ⟨he, rfl⟩
  have yields : Yields (suite.runSelected suite.cases.ids) s ran.1 ran.2 :=
    yields_run suite.runAll s
  have crashes := (suite.minds_runSelected _ s _ _ yields).crashed_iff
  refine ⟨⟨?_, fun fit => ?_⟩, crashes.mpr, fun n hn bottom => ?_⟩
  · rintro ⟨reports, ok, -⟩
    rw [ok] at crashes
    exact not_not.mp (mt crashes.mpr (Stop.not_crashes_ok reports))
  · obtain ⟨after, reports, ok, subjects, each⟩ :=
      reports_of_found found yields (not_not_intro fit ∘ crashes.mp)
    refine ⟨reports, ok, subjects, ?_, after, ?_⟩
    · intro i entry report he hr
      rw [CaseIndex.ids, ← List.map_take]
      exact each i entry report he hr
    · rw [after] at fit ⊢
      exact active_afterAll _ idle fit
  · exact (Agree.mapM (suite.agree_bottom hn bottom) suite.cases.ids s idle).1

/-! ## A case that waits -/

/-- A step with a request, and what is done before it is sent. -/
def stepSending (id url : String) (setup : List Document) : Document :=
  .mapping [("case_id", .text id),
    ("request", .mapping [("method", .text "GET"), ("url", .text url)]),
    ("setup", .list setup)]

/-- What is done to wait so many seconds. -/
def waitAction (x : Binary64) : Document := .mapping [("wait_time", .number (.float x))]

/-- A case that waits so many seconds before its request is sent, and one that does not
wait. -/
def waiting (x : Binary64) : Suite :=
  .answering ⟨[
    ⟨"a", "cases.yaml", "cases.yaml:test_steps[0]", none,
      stepSending "a" "http://h/a" [waitAction x]⟩,
    ⟨"b", "cases.yaml", "cases.yaml:test_steps[1]", none, stepSending "b" "http://h/b" []⟩]⟩

theorem waiting_loaded (x : Binary64) : (waiting x).cases.Loaded :=
  .added .empty "cases.yaml" (.mapping [("test_steps", .list
    [stepSending "a" "http://h/a" [waitAction x], stepSending "b" "http://h/b" []])]) rfl

/-- After a wait of a second both cases have a report. -/
theorem runAll_reports_iff_of_second :
    let suite := waiting (.ofInt 1)
    suite.cases.Loaded ∧ Session.fresh.active = []
      ∧ Session.fresh.AllFit (suite.runAll.run .fresh).2
      ∧ ∃ reports, (suite.runAll.run .fresh).1 = .ok reports
        ∧ reports.map (fun r => (r.caseId, r.location))
          = [("a", "cases.yaml:test_steps[0]"), ("b", "cases.yaml:test_steps[1]")] := by
  intro suite
  have fit : Session.fresh.AllFit (suite.runAll.run .fresh).2 :=
    ⟨(suite.runAll.run .fresh).2.journal, (List.append_nil _).symm, by decide +kernel⟩
  obtain ⟨⟨-, reports⟩, -⟩ := runAll_reports_iff suite (waiting_loaded _) .fresh rfl
  obtain ⟨reports, ok, subjects, -⟩ := reports fit
  exact ⟨waiting_loaded _, rfl, fit, reports, ok, subjects⟩

/-- **A wait for which there is no room takes the other case with it.** That passes when it
is run alone; run together, the two have no report. The wait is of `1e20` seconds, which is
finite and not negative, and so is no error. -/
theorem runAll_loses_siblings :
    let suite := waiting (.ofInt 100000000000000000000)
    suite.cases.Loaded ∧ Session.fresh.active = []
      ∧ (suite.outcome "b" .fresh).toOption.map (·.verdict) = some .passed
      ∧ suite.cases.ids = ["a", "b"]
      ∧ Stop.Crashes (suite.runAll.run .fresh).1
      ∧ ¬ ∃ reports, (suite.runAll.run .fresh).1 = .ok reports := by
  intro suite
  have crash : (suite.runAll.run .fresh).1
      = .error (.crash (.span (.ofInt 100000000000000000000)) (by decide +kernel)) := by rfl
  refine ⟨waiting_loaded _, rfl, by decide +kernel, rfl, ⟨_, _, crash⟩, ?_⟩
  rintro ⟨reports, ok⟩
  cases crash.symm.trans ok

end Suite

end CaseRunner
