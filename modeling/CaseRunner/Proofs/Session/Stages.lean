import CaseRunner.Proofs.Session.Ending

/-!
# A report tells how far its case got

The events of a report are noted one by one, the verdict is made once at the end, and the
request and the answer are entered between them. This module says that they always fit
together: from the phases of the events one can tell how far the case got (`Stage`), which
of its actions were done, whether there was an answer, and whether it passed or was skipped
(`runCase_tells`).

That they fit is worth a proof since nothing in a report makes them fit. They are four
fields that are written at different places, and a reader who trusts one of them, say the
events, is to be told the same by the others.
-/

namespace CaseRunner

open Executing

/-! ## Stages -/

/-- **How far a case gets.** Between a case whose setup was stopped and one that got no
answer there is no difference but in the number of actions that were done; there is no
event for a request that was made, and none for one that was not answered. -/
inductive Stage where
  /-- It was not read. -/
  | unread
  /-- It was skipped. -/
  | skipped
  /-- So many actions of its setup were done, and no answer has come. -/
  | preparing (done : Nat)
  /-- An answer has come, and so many actions of its teardown were done. -/
  | answered (done : Nat)
  deriving DecidableEq, Repr

namespace Stage

/-- **The phases of the events up to a stage**, if the setup is of so many actions. A
skipped case has two events of the same phase, of which the second gives the reason. -/
def phases (setups : Nat) : Stage → List Phase
  | unread => []
  | skipped => [.resolve, .resolve]
  | preparing done => .resolve :: List.replicate done .setup
  | answered done =>
    .resolve :: (List.replicate setups .setup ++ .request :: List.replicate done .teardown)

/-- A stage that can be reached with so many actions. -/
def Within (setups teardowns : Nat) : Stage → Prop
  | unread | skipped => True
  | preparing done => done ≤ setups
  | answered done => done ≤ teardowns

end Stage

/-- **A report tells of a stage** of a case with so many actions of setup and of teardown.
Verdict, answer and request are each read off the phases of the events, in both directions
where there are two. -/
structure Report.Tells (r : Report) (location : String) (setups teardowns : Nat)
    (stage : Stage) : Prop where
  /-- No more actions are done than there are. -/
  within : stage.Within setups teardowns
  /-- The events are those up to the stage. -/
  phases : r.events.map (·.phase) = stage.phases setups
  /-- The events of actions name the actions from the first on. -/
  places : ∀ phase, phase = .setup ∨ phase = .teardown →
    ∀ k event, (r.events.filter (·.phase = phase))[k]? = some event →
      event.message = joinIndex (joinPath location phase.name) k ++ " done"
  /-- The case passed if the events are those up to the end of its teardown. -/
  passed : r.verdict = .passed ↔
    r.events.map (·.phase) = (Stage.answered teardowns).phases setups
  /-- It was skipped if they are those of a case that is. -/
  skipped : (∃ reason, r.verdict = .skipped reason) ↔
    r.events.map (·.phase) = Stage.skipped.phases setups
  /-- There is an answer if an event tells of one. -/
  replied : r.reply?.isSome = true ↔ .request ∈ r.events.map (·.phase)
  /-- What was answered is a request. -/
  requested : r.reply?.isSome = true → r.request?.isSome = true

/-! ## Events up to a stage -/

namespace Stage

/-- The event that all but the first stage begin with. -/
def resolved : ReportEvent := ⟨.resolve, "placeholders resolved"⟩

/-- **The events up to a stage** of a case at a location. Besides the phases this says the
texts of the events, but for two that depend on what was answered and why a case was
skipped. -/
inductive Lists (location : String) (setups : Nat) : Stage → List ReportEvent → Prop
  | unread : Lists location setups .unread []
  | skipped (line : String) :
      Lists location setups .skipped [resolved, ⟨.resolve, line⟩]
  | preparing (n : Nat) : Lists location setups (.preparing n)
      (resolved :: (List.range' 0 n).map (Phase.setup.done location))
  | answered (line : String) (n : Nat) : Lists location setups (.answered n)
      (resolved :: ((List.range' 0 setups).map (Phase.setup.done location) ++
        ⟨.request, line⟩ :: (List.range' 0 n).map (Phase.teardown.done location)))

variable {location : String} {setups : Nat} {stage : Stage} {events : List ReportEvent}

theorem map_phase_done (phase : Phase) (location : String) (n : Nat) :
    ((List.range' 0 n).map (phase.done location)).map (·.phase) = List.replicate n phase := by
  rw [List.map_map, List.eq_replicate_iff]
  refine ⟨by simp, fun x hx => ?_⟩
  obtain ⟨k, -, rfl⟩ := List.mem_map.mp hx
  rfl

/-- The phases of the events up to a stage are those of the stage. -/
theorem Lists.phases (h : stage.Lists location setups events) :
    events.map (·.phase) = stage.phases setups := by
  cases h with
  | unread => rfl
  | skipped => rfl
  | preparing n =>
    rw [List.map_cons, map_phase_done]
    rfl
  | answered line n =>
    rw [List.map_cons, List.map_append, List.map_cons, map_phase_done, map_phase_done]
    rfl

/-- The events of a phase are found among those of the same phase, and among no others. -/
theorem filter_done (phase phase' : Phase) (location : String) (n : Nat) :
    ((List.range' 0 n).map (phase.done location)).filter (·.phase = phase')
      = if phase = phase' then (List.range' 0 n).map (phase.done location) else [] := by
  split
  next h =>
    refine List.filter_eq_self.mpr fun x hx => ?_
    obtain ⟨k, -, rfl⟩ := List.mem_map.mp hx
    exact decide_eq_true h
  next h =>
    refine List.filter_eq_nil_iff.mpr fun x hx => ?_
    obtain ⟨k, -, rfl⟩ := List.mem_map.mp hx
    exact fun heq => h (of_decide_eq_true heq)

/-- The events of the actions of a phase are those of the first actions. -/
theorem Lists.filter (h : stage.Lists location setups events) {phase : Phase}
    (hp : phase = .setup ∨ phase = .teardown) :
    ∃ n, events.filter (·.phase = phase) = (List.range' 0 n).map (phase.done location) := by
  cases h with
  | unread => exact ⟨0, rfl⟩
  | skipped => rcases hp with rfl | rfl <;> exact ⟨0, rfl⟩
  | preparing n =>
    rcases hp with rfl | rfl
    · exact ⟨n, by simp [resolved, filter_done]⟩
    · exact ⟨0, by simp [resolved, filter_done]⟩
  | answered line n =>
    rcases hp with rfl | rfl
    · exact ⟨setups, by simp [resolved, filter_done]⟩
    · exact ⟨n, by simp [resolved, filter_done]⟩

/-- So each of them names its action. -/
theorem Lists.message (h : stage.Lists location setups events) {phase : Phase}
    (hp : phase = .setup ∨ phase = .teardown) {k : Nat} {event : ReportEvent}
    (hk : (events.filter (·.phase = phase))[k]? = some event) :
    event.message = joinIndex (joinPath location phase.name) k ++ " done" := by
  obtain ⟨n, hn⟩ := h.filter hp
  rw [hn, List.getElem?_map, Option.map_eq_some_iff] at hk
  obtain ⟨i, hi, rfl⟩ := hk
  obtain ⟨-, rfl⟩ := List.getElem?_eq_some_iff.mp hi
  rw [List.getElem_range', Nat.zero_add, Nat.one_mul]
  rfl

/-- The stage up to which phases lead. -/
def ofPhases (l : List Phase) : Stage :=
  if l.count .resolve = 0 then unread
  else if l.count .resolve = 2 then skipped
  else if l.count .request = 0 then preparing (l.count .setup)
  else answered (l.count .teardown)

/-- **From the phases of the events one can tell the stage.** By counting: a case is
skipped if two events are about replacing placeholders, and has an answer if one is about a
request. -/
theorem ofPhases_phases (setups : Nat) (stage : Stage) :
    ofPhases (stage.phases setups) = stage := by
  cases stage with
  | unread => rfl
  | skipped => rfl
  | preparing n => simp [ofPhases, phases, List.count_replicate]
  | answered n => simp [ofPhases, phases, List.count_replicate]

theorem phases_inj {other : Stage} :
    stage.phases setups = other.phases setups ↔ stage = other :=
  (Function.LeftInverse.injective (ofPhases_phases setups)).eq_iff

/-- Whether an event tells of an answer. -/
theorem request_mem_phases_iff : .request ∈ stage.phases setups ↔ ∃ n, stage = .answered n := by
  cases stage with
  | unread => simp [phases]
  | skipped => simp [phases]
  | preparing n => simp [phases, List.mem_replicate]
  | answered n => simp [phases]

end Stage

/-! ## What actions leave of a report -/

section Report

variable {R : Report → Report → Prop} [IsPreorder Report R]

instance : IsPreorder Progress (Function.onFun R Progress.report) where
  refl p := refl_of R p.report
  trans _ _ _ := trans_of R

/-- A part of the run leaves the report alone. -/
theorem keepsReport_inSession {α : Type} (c : Run α) :
    Keeps (Function.onFun R Progress.report) (inSession c) := by
  intro p r q h
  rw [h.eq_of_inSession]
  exact refl_of R p.report

/-- A teardown action changes nothing of a report but what the reply holds. -/
theorem keepsReport_runTeardownAction
    (hR : ∀ (r : Report) (f : Reply → Reply), R r { r with reply? := r.reply?.map f })
    (suite : Suite) (location : String) (action : TeardownAction) :
    Keeps (Function.onFun R Progress.report) (runTeardownAction suite location action) := by
  have reply : Keeps (Function.onFun R Progress.report) reply :=
    Keeps.get.bind fun _ => Keeps.pure _
  unfold runTeardownAction
  cases action with
  | sql statements =>
    refine Keeps.forM (fun statement => ?_) _
    refine (keepsReport_inSession _).bind fun row? => ?_
    cases row? with
    | none => exact Keeps.pure _
    | some row =>
      refine Keeps.bind (Keeps.modify fun p => ?_) fun _ => keepsReport_inSession _
      exact hR p.report _
  | hook source => exact keepsReport_inSession _
  | extract extractions =>
    refine Keeps.forM (fun e => reply.bind fun _ => ?_) _
    exact (keepsReport_inSession _).bind fun _ => keepsReport_inSession _
  | assert items => exact reply.bind fun _ => keepsReport_inSession _
  | waitTime seconds => exact keepsReport_inSession _

end Report

/-! ## Verdicts -/

theorem Verdict.ofOutcome_eq_skipped_iff {outcome : Except RunError (Option String)}
    {reason : String} :
    Verdict.ofOutcome outcome = .skipped reason ↔ outcome = .ok (some reason) := by
  unfold Verdict.ofOutcome
  split
  · simp
  · simp
  · split <;> simp

/-- The report with the verdict on what came of its case. -/
def Report.concluded (r : Report) (outcome : Except RunError (Option String)) : Report :=
  { r with verdict := Verdict.ofOutcome outcome }

/-- A report tells of the stage that its events lead up to if the rest of it fits the
stage. What remains to be shown of an ending is little: which verdict it has, and whether
there is an answer. -/
theorem Report.Tells.of_lists {r : Report} {outcome : Except RunError (Option String)}
    {location : String} {setups teardowns : Nat} {stage : Stage}
    (within : stage.Within setups teardowns) (lists : stage.Lists location setups r.events)
    (passed : outcome = .ok none ↔ stage = .answered teardowns)
    (skipped : (∃ reason, outcome = .ok (some reason)) ↔ stage = .skipped)
    (replied : r.reply?.isSome = true ↔ ∃ n, stage = .answered n)
    (requested : r.reply?.isSome = true → r.request?.isSome = true) :
    (r.concluded outcome).Tells location setups teardowns stage where
  within := within
  phases := lists.phases
  places _ hp _ _ := lists.message hp
  passed := by
    show Verdict.ofOutcome outcome = .passed ↔ r.events.map _ = _
    rw [lists.phases, Stage.phases_inj, Verdict.ofOutcome_eq_passed_iff, passed]
  skipped := by
    show (∃ reason, Verdict.ofOutcome outcome = .skipped reason) ↔ r.events.map _ = _
    rw [lists.phases, Stage.phases_inj, ← skipped]
    exact exists_congr fun _ => Verdict.ofOutcome_eq_skipped_iff
  replied := by
    show r.reply?.isSome = true ↔ _ ∈ r.events.map _
    rw [lists.phases, Stage.request_mem_phases_iff, replied]
  requested := requested

/-- The report on a case that got no answer. -/
theorem Report.Tells.of_unanswered {r : Report} {location : String} {setups teardowns n : Nat}
    (hn : n ≤ setups)
    (events : r.events = Stage.resolved :: (List.range' 0 n).map (Phase.setup.done location))
    (reply : r.reply?.isSome = false) (e : RunError) :
    (r.concluded (.error e)).Tells location setups teardowns (.preparing n) := by
  have lists : (Stage.preparing n).Lists location setups r.events := events ▸ .preparing n
  refine .of_lists hn lists (by simp) (by simp) ?_ ?_
  · rw [reply]
    simp
  · rw [reply]
    simp

/-! ## Executions -/

/-- The step of a case as it is read in a session, if it can be. -/
def Suite.typed? (suite : Suite) (entry : CaseEntry) (s : Session) : Option Step :=
  ((resolveEntry suite entry).run s).1.toOption.map (·.2)

section Executions

variable {suite : Suite} {nested : String → Run Report} {entry : CaseEntry} {s : Session}
  {outcome : Except RunError (Option String)} {q : Progress}

theorem typed?_of_yields {t : Session} {r : Except (Stop RunError) (Config × Step)}
    (h : Yields (resolveEntry suite entry) s r t) :
    suite.typed? entry s = r.toOption.map (·.2) := by
  unfold Suite.typed?
  rw [show (resolveEntry suite entry).run s = (r, t) from h]

theorem Yields.of_runSetup {current location : String} {i : Nat} {actions : List SetupAction}
    {p : Progress} {r : Except (Stop RunError) Unit}
    (h : Yields (runSetup suite nested current location i actions) p r q) :
    ∃ n ≤ actions.length, (r = .ok () ↔ n = actions.length)
      ∧ (p.report.doing .setup location i n).ReadsAs q.report := by
  rw [runSetup_eq] at h
  exact h.of_runActions fun _ _ => keepsReport_inSession _

theorem Yields.of_runTeardown {location : String} {i : Nat} {actions : List TeardownAction}
    {p : Progress} {r : Except (Stop RunError) Unit}
    (h : Yields (runTeardown suite location i actions) p r q) :
    ∃ n ≤ actions.length, (r = .ok () ↔ n = actions.length)
      ∧ (p.report.doing .teardown location i n).ReadsAs q.report := by
  rw [runTeardown_eq] at h
  exact h.of_runActions (keepsReport_runTeardownAction Report.ReadsAs.of_reply suite)

/-- **The report at the end of an execution** that was begun with an empty one. There is a
case for each ending, with the stage that it leads to. -/
theorem Ends.tells (h : Ends suite nested entry ⟨s, entry.report⟩ (Stop.lift outcome) q) :
    match suite.typed? entry s with
    | none => (q.report.concluded outcome).Tells entry.location 0 0 .unread
    | some step => ∃ stage ≠ .unread,
      (q.report.concluded outcome).Tells entry.location step.setup.length
        step.teardown.length stage := by
  generalize ho : Stop.lift outcome = ended at h
  cases h with
  | unread reading =>
    obtain ⟨e, rfl, rfl⟩ := Stop.lift_eq_error_iff.mp ho
    rw [typed?_of_yields reading]
    exact .of_lists trivial .unread (by simp) (by simp) (by simp [CaseEntry.report])
      (by simp [CaseEntry.report])
  | unruled reading rule =>
    obtain rfl := Stop.lift_eq_error_error_iff.mp ho
    rw [typed?_of_yields reading]
    exact ⟨.preparing 0, by simp, .of_unanswered (Nat.zero_le _) rfl rfl _⟩
  | skipped reading rule =>
    obtain rfl := Stop.lift_eq_ok_iff.mp ho
    rw [typed?_of_yields reading]
    refine ⟨.skipped, by simp, .of_lists trivial (.skipped _) (by simp) (by simp) ?_ ?_⟩
    · exact ⟨nofun, nofun⟩
    · exact nofun
  | unprepared reading rule setup =>
    obtain ⟨e, rfl, rfl⟩ := Stop.lift_eq_error_iff.mp ho
    rw [typed?_of_yields reading]
    obtain ⟨n, hn, -, reads⟩ := setup.of_runSetup
    exact ⟨.preparing n, by simp, .of_unanswered hn reads.events reads.reply _⟩
  | unmade reading rule setup making =>
    obtain ⟨e, rfl, rfl⟩ := Stop.lift_eq_error_iff.mp ho
    rw [typed?_of_yields reading]
    obtain ⟨n, hn, -, reads⟩ := setup.of_runSetup
    exact ⟨.preparing n, by simp, .of_unanswered hn reads.events reads.reply _⟩
  | unanswered reading rule setup making sending =>
    obtain ⟨e, rfl, rfl⟩ := Stop.lift_eq_error_iff.mp ho
    rw [typed?_of_yields reading]
    obtain ⟨n, hn, -, reads⟩ := setup.of_runSetup
    refine ⟨.preparing n, by simp, .of_unanswered hn ?_ ?_ _⟩
    · exact reads.events
    · exact reads.reply
  | interrupted =>
    obtain ⟨e, -, crash⟩ := Stop.lift_eq_error_iff.mp ho
    cases crash
  | @answered config step _ _ _ p₁ p₂ request raw ending time time' reading rule setup making
      sending teardown =>
    obtain rfl := Stop.lift_inj.mp ho
    rw [typed?_of_yields reading]
    -- an answer comes only after all of the setup
    obtain ⟨_, -, all, reads⟩ := setup.of_runSetup
    obtain rfl := all.mp rfl
    obtain ⟨n, hn, rest, reads'⟩ := teardown.of_runTeardown
    -- the reply stays, whatever the teardown adds to it
    have replied : (p₂.report.clocked time').reply?.isSome = true := by
      rw [Report.clocked, Option.isSome_map, reads'.reply]
      rfl
    have requested : (p₂.report.clocked time').request?.isSome = true :=
      congrArg Option.isSome reads'.request
    refine ⟨.answered n, by simp, .of_lists hn ?_ ?_ ?_ ?_ fun _ => requested⟩
    · show Stage.Lists _ _ _ p₂.report.events
      rw [reads'.events]
      show Stage.Lists _ _ _ ((p₁.report.events ++ [_]) ++ _)
      rw [reads.events, List.append_assoc]
      exact .answered _ n
    · rw [Stage.answered.injEq, ← rest, Stop.lift_eq_ok_iff]
      cases ending <;> simp [Except.map]
    · cases ending <;> simp [Except.map]
    · exact ⟨fun _ => ⟨n, rfl⟩, fun _ => replied⟩

/-- Nothing but function calls lies between two sessions. The functions may have been
called, for their macros are expanded when the step is read; nothing has been sent, asked
or stored. -/
def Session.OnlyCalls (s t : Session) : Prop := ∃ calls, t = { s with calls }

instance : IsPreorder Session Session.OnlyCalls where
  refl s := ⟨s.calls, rfl⟩
  trans := by
    rintro s _ _ ⟨calls, rfl⟩ ⟨calls', rfl⟩
    exact ⟨calls', rfl⟩

/-- Reading a case calls functions and does nothing else. -/
theorem onlyCalls_resolveEntry (suite : Suite) (entry : CaseEntry) :
    Keeps Session.OnlyCalls (resolveEntry suite entry) := by
  have resolved : ∀ location d, Keeps Session.OnlyCalls (Session.resolved suite location d) := by
    intro location d s r t h
    obtain ⟨-, calls, -, -, rfl⟩ := Session.Yields.of_calling (yields_get_bind_iff.mp h)
    exact ⟨calls, rfl⟩
  refine (resolved _ _).bind fun configured => (Keeps.mk_pure _).bind fun config => ?_
  exact (resolved _ _).bind fun step => (Keeps.mk_pure _).bind fun _ => Keeps.pure _

/-- A case that is skipped is read, and that is all. -/
theorem Ends.onlyCalls {p : Progress} {reason : String}
    (h : Ends suite nested entry p (.ok (some reason)) q) :
    p.session.OnlyCalls q.session := by
  generalize ho : Except.ok (some reason) = outcome at h
  cases h with
  | skipped reading rule => exact onlyCalls_resolveEntry suite entry _ _ _ reading
  | @answered _ _ _ _ _ _ _ _ _ ending => cases ending <;> cases ho
  | unread | unruled | unprepared | unmade | unanswered | interrupted => cases ho

end Executions

/-- **A report tells how far its case got.** Running a case that is loaded crashes or gives
a report, whatever the cases do that are run inside it. If the case could not be read,
there are no events. Otherwise the events are those up to one of the further stages, with
the numbers of actions that the step has which was read; the case passed exactly if that is
the end of its teardown, and was skipped exactly if it ended with the second event, and
then nothing was sent or asked, and no variable was changed. There is an answer exactly if
an event tells of one, and a request whenever there is an answer.

Nothing is assumed of the cases inside: the report on a case is written by this case alone,
and what the others do can only stop it. -/
theorem runCase_tells {suite : Suite} {id : String} {entry : CaseEntry}
    (hf : suite.cases.find? id = some entry) (nested : String → Run Report) (s : Session) :
    (∃ n unfit t, Yields (runCase suite nested id) s (.error (.crash n unfit)) t)
    ∨ ∃ report t, Yields (runCase suite nested id) s (.ok report) t
      ∧ (match suite.typed? entry (s.noting (.entered id)) with
        | none => report.Tells entry.location 0 0 .unread
        | some step => ∃ stage ≠ .unread,
          report.Tells entry.location step.setup.length step.teardown.length stage)
      ∧ ((∃ reason, report.verdict = .skipped reason) →
        t.sent = s.sent ∧ t.asked = s.asked ∧ t.store = s.store ∧ t.files = s.files) := by
  obtain rfl := CaseIndex.caseId_of_find? hf
  rw [show runCase suite nested entry.caseId = runLoaded suite nested entry by rw [runCase, hf]]
  have run := yields_run (runLoaded suite nested entry) s
  obtain ⟨ended, p, inside, ends⟩ := run.of_runLoaded
  have ended := ends_runEntry inside
  obtain ⟨outcome, rfl, hr, ht⟩ | ⟨n, unfit, -, hr, -⟩ := ends
  · rw [hr, ht] at run
    refine .inr ⟨_, _, run, ended.tells, ?_⟩
    rintro ⟨reason, skipped⟩
    rw [Verdict.ofOutcome_eq_skipped_iff.mp skipped] at ended
    obtain ⟨calls, hp⟩ := ended.onlyCalls
    rw [hp]
    exact ⟨rfl, rfl, rfl, rfl⟩
  · rw [hr] at run
    exact .inl ⟨n, unfit, _, run⟩

/-- A case `a` that asks the database before its request and wants the answer to have
a status. -/
def CaseEntry.looking (status : String) : CaseEntry :=
  ⟨"a", "cases.yaml", "cases.yaml:test_steps[0]", none, .mapping [
    ("case_id", .text "a"),
    ("request", .mapping [("method", .text "GET"), ("url", .text "http://h/^id")]),
    ("setup", .list [.mapping [("sql", .text "select id")]]),
    ("teardown", .list [.mapping [
      ("assert", .text ("assert pm.response.get('status_code') == " ++ status))]])]⟩

/-- A suite of that case alone, whose transports answer with the status 200. -/
def Suite.looking (status : String) : Suite :=
  { Suite.answering ⟨[.looking status]⟩ with
    database? := some fun _ _ => .ok (some [("id", .int 7)]) }

/-- If that is the status it wants, it passes, and its report has an event of each
phase. -/
theorem runCase_tells_of_looking :
    let suite := Suite.looking "200"
    suite.cases.find? "a" = some (.looking "200")
      ∧ ∃ report t, Yields (suite.run "a") .fresh (.ok report) t
        ∧ report.verdict = .passed
        ∧ report.events.map (·.phase) = [.resolve, .setup, .request, .teardown]
        ∧ report.reply?.isSome = true := by
  intro suite
  have hf : suite.cases.find? "a" = some (.looking "200") := rfl
  have typed : (suite.typed? (.looking "200") (Session.fresh.noting (.entered "a"))).map
      (fun step => (step.setup.length, step.teardown.length)) = some (1, 1) := by
    decide +kernel
  have passes : (suite.outcome "a" .fresh).toOption.map (·.verdict) = some .passed := by
    decide +kernel
  obtain ⟨step, hstep, lengths⟩ := Option.map_eq_some_iff.mp typed
  obtain ⟨setups, teardowns⟩ := Prod.mk.inj lengths
  have told := runCase_tells hf (runToDepth suite 1) .fresh
  rw [hstep] at told
  obtain ⟨n, unfit, t, crash⟩ | ⟨report, t, run, tells, -⟩ := told
  · rw [show suite.outcome "a" .fresh = _ from congrArg Prod.fst crash] at passes
    exact nomatch passes
  have verdict : report.verdict = .passed := by
    rw [show suite.outcome "a" .fresh = .ok report from congrArg Prod.fst run] at passes
    exact Option.some.inj passes
  obtain ⟨stage, -, tells⟩ := tells
  rw [setups, teardowns] at tells
  have phases := tells.passed.mp verdict
  exact ⟨hf, report, t, run, verdict, phases, tells.replied.mpr (phases ▸ by decide)⟩

end CaseRunner
