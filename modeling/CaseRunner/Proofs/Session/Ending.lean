import CaseRunner.Proofs.Session.Course

/-!
# Where an execution ends

The execution of a case has one way through and many ways out. This module says once where
it can end, and with which report: the case cannot be read, it is skipped or nobody can
tell, an action of its setup goes wrong, there is no request to send, no answer comes, or
the teardown is begun and ends well or not, or crashes (`Ends`). What is true of all
reports has to be shown for these eight endings; and where it is shown of reports alone,
the endings that are crashes need no word, for of a crash there is no report.

It is the same computation as in the module on the course of an execution, seen from
another side. There the report was of no account and the session was all, as the question
was what is done to the journal; here it is which parts of the execution were done, and
what was written into the report.

Setup and teardown are done in the same way, one action after the other, with an event for
each that is done. What can be said of this is said of any actions (`runActions`).
-/

namespace CaseRunner

open Executing

/-! ## What is written into a report -/

namespace Report

/-- The report with one more event. -/
def noting (r : Report) (phase : Phase) (message : String) : Report :=
  { r with events := r.events ++ [⟨phase, message⟩] }

/-- The report on a case whose placeholders are replaced. -/
def resolved (r : Report) (config : Config) (step : Step) : Report :=
  { r with
    name := step.name
    allure := Document.insertAll step.allure config.allure }.noting .resolve
      "placeholders resolved"

/-- The report on a case of which one asked why it is skipped. -/
def ruled (r : Report) : Except RunError (Option String) → Report
  | .ok (some reason) => r.noting .resolve ("skipped: " ++ reason)
  | _ => r

/-- The report on a case whose request was answered. -/
def answered (r : Report) (request : Request) (raw : RawReply) : Report :=
  { { r with request? := some request }.noting .request (request.method.spelling ++ " " ++
      request.url ++ " -> " ++ toString raw.statusCode) with reply? := some raw.toReply }

/-- The report with a time in the reply. -/
def clocked (r : Report) (time : Binary64) : Report :=
  { r with reply? := r.reply?.map fun reply => { reply with executeTime := time } }

end Report

/-! ## Parts of an execution -/

section Parts

variable {α β : Type} {p q : Progress}

theorem Executing.yields_amend_bind_iff {f : Report → Report} {g : Unit → Executing β}
    {r : Except (Stop RunError) β} :
    Yields (amend f >>= g) p r q ↔ Yields (g ()) { p with report := f p.report } r q := Iff.rfl

theorem Executing.yields_note_bind_iff {phase : Phase} {message : String}
    {g : Unit → Executing β} {r : Except (Stop RunError) β} :
    Yields (note phase message >>= g) p r q
      ↔ Yields (g ()) { p with report := p.report.noting phase message } r q := Iff.rfl

/-- A part of the run changes nothing but the session. -/
theorem Yields.eq_of_inSession {c : Run α} {r : Except (Stop RunError) α}
    (h : Yields (inSession c) p r q) : q = { p with session := q.session } := by
  have hq : q = { p with session := (c.run p.session).2 } := (congrArg Prod.snd h).symm
  rw [hq]

theorem Executing.yields_result_iff {x : Except RunError α} {r : Except (Stop RunError) α} :
    Yields (inSession (Session.result x)) p r q ↔ r = Stop.lift x ∧ q = p := by
  show (Stop.lift x, p) = (r, q) ↔ _
  rw [Prod.mk.injEq]
  exact and_congr eq_comm eq_comm

/-- The time that is put into the reply. Which time it is depends on the clock and on
nothing that is said about reports; what matters is that there was a reply to put it into,
and that it stays. -/
theorem exists_of_clockReply {started : Moment} {g : Unit → Executing β}
    {r : Except (Stop RunError) β} (h : Yields (clockReply started >>= g) p r q) :
    ∃ time, Yields (g ()) { p with report := p.report.clocked time } r q :=
  ⟨_, h⟩

/-- **What comes of a computation becomes a value**, unless it is a crash. The case goes on
with an error that it has caught in this way, to put the time into the reply; a crash
cannot be caught. -/
theorem exists_of_outcome {c : Executing α} {g : Except RunError α → Executing β}
    {r : Except (Stop RunError) β} (h : Yields (outcome c >>= g) p r q) :
    (∃ ending p₁, Yields c p (Stop.lift ending) p₁ ∧ Yields (g ending) p₁ r q)
      ∨ ∃ n unfit, Yields c p (.error (.crash n unfit)) q ∧ r = .error (.crash n unfit) := by
  rcases yields_bind_iff.mp h with ⟨ending, p₁, hout, hrest⟩ | ⟨stop, hout, rfl⟩
  · obtain ⟨ended, hc, told⟩ := Executing.Yields.of_outcome hout
    rw [Stop.told_eq_ok_iff.mp told.symm] at hc
    exact .inl ⟨ending, p₁, hc, hrest⟩
  · obtain ⟨ended, hc, told⟩ := Executing.Yields.of_outcome hout
    obtain ⟨n, unfit, rfl, crash⟩ := Stop.told_eq_error_iff.mp told.symm
    rw [crash] at hc
    exact .inr ⟨n, unfit, hc, rfl⟩

end Parts

/-! ## Endings -/

/-- **Where the execution of a case can end**: what it amounts to, and the report that
there is then.

An ending carries all that went before it, so each of them can be used without the others,
and the parts that went well can be asked what they have done. The endings are told apart
by the part that did not go well, or by the teardown, whose own error does not hide that
there was an answer. -/
inductive Ends (suite : Suite) (nested : String → Run Report) (entry : CaseEntry)
    (p : Progress) : Except (Stop RunError) (Option String) → Progress → Prop
  /-- The case cannot be read. -/
  | unread {stop : Stop RunError} {t : Session}
      (reading : Yields (resolveEntry suite entry) p.session (.error stop) t) :
      Ends suite nested entry p (.error stop) { p with session := t }
  /-- One cannot tell whether it is skipped. -/
  | unruled {config : Config} {step : Step} {s : Session} {e : RunError}
      (reading : Yields (resolveEntry suite entry) p.session (.ok (config, step)) s)
      (rule : step.isRun.skipReason? entry.location = .error e) :
      Ends suite nested entry p (.error (.error e)) ⟨s, p.report.resolved config step⟩
  /-- It is skipped. -/
  | skipped {config : Config} {step : Step} {s : Session} {reason : String}
      (reading : Yields (resolveEntry suite entry) p.session (.ok (config, step)) s)
      (rule : step.isRun.skipReason? entry.location = .ok (some reason)) :
      Ends suite nested entry p (.ok (some reason))
        ⟨s, (p.report.resolved config step).noting .resolve ("skipped: " ++ reason)⟩
  /-- An action of its setup goes wrong. -/
  | unprepared {config : Config} {step : Step} {s : Session} {stop : Stop RunError}
      {q : Progress}
      (reading : Yields (resolveEntry suite entry) p.session (.ok (config, step)) s)
      (rule : step.isRun.skipReason? entry.location = .ok none)
      (setup : Yields (runSetup suite nested step.caseId entry.location 0 step.setup)
        ⟨s.noting (.moved step.caseId .resolvingDependencies), p.report.resolved config step⟩
        (.error stop) q) :
      Ends suite nested entry p (.error stop) q
  /-- There is no request to send. -/
  | unmade {config : Config} {step : Step} {s t : Session} {stop : Stop RunError}
      {p₁ : Progress}
      (reading : Yields (resolveEntry suite entry) p.session (.ok (config, step)) s)
      (rule : step.isRun.skipReason? entry.location = .ok none)
      (setup : Yields (runSetup suite nested step.caseId entry.location 0 step.setup)
        ⟨s.noting (.moved step.caseId .resolvingDependencies), p.report.resolved config step⟩
        (.ok ()) p₁)
      (making : Yields (makeRequest suite entry.location config step) p₁.session
        (.error stop) t) :
      Ends suite nested entry p (.error stop) { p₁ with session := t }
  /-- No answer comes. -/
  | unanswered {config : Config} {step : Step} {s s₁ t : Session} {stop : Stop RunError}
      {p₁ : Progress} {request : Request}
      (reading : Yields (resolveEntry suite entry) p.session (.ok (config, step)) s)
      (rule : step.isRun.skipReason? entry.location = .ok none)
      (setup : Yields (runSetup suite nested step.caseId entry.location 0 step.setup)
        ⟨s.noting (.moved step.caseId .resolvingDependencies), p.report.resolved config step⟩
        (.ok ()) p₁)
      (making : Yields (makeRequest suite entry.location config step) p₁.session
        (.ok request) s₁)
      (sending : Yields (Session.send suite (some entry.caseId) request) s₁ (.error stop) t) :
      Ends suite nested entry p (.error stop)
        ⟨t, { p₁.report with request? := some request }⟩
  /-- An answer comes, and the teardown is begun. -/
  | answered {config : Config} {step : Step} {s s₁ s₂ : Session} {p₁ p₂ : Progress}
      {request : Request} {raw : RawReply} {ending : Except RunError Unit}
      {time time' : Binary64}
      (reading : Yields (resolveEntry suite entry) p.session (.ok (config, step)) s)
      (rule : step.isRun.skipReason? entry.location = .ok none)
      (setup : Yields (runSetup suite nested step.caseId entry.location 0 step.setup)
        ⟨s.noting (.moved step.caseId .resolvingDependencies), p.report.resolved config step⟩
        (.ok ()) p₁)
      (making : Yields (makeRequest suite entry.location config step) p₁.session
        (.ok request) s₁)
      (sending : Yields (Session.send suite (some entry.caseId) request) s₁ (.ok raw) s₂)
      (teardown : Yields (runTeardown suite entry.location 0 step.teardown)
        ⟨s₂, (p₁.report.answered request raw).clocked time⟩ (Stop.lift ending) p₂) :
      Ends suite nested entry p (Stop.lift (ending.map fun _ => none))
        { p₂ with report := p₂.report.clocked time' }
  /-- An answer comes, and the teardown crashes. -/
  | interrupted {config : Config} {step : Step} {s s₁ s₂ : Session} {p₁ q : Progress}
      {request : Request} {raw : RawReply} {n : Quantity} {unfit : n.fits = false}
      {time : Binary64}
      (reading : Yields (resolveEntry suite entry) p.session (.ok (config, step)) s)
      (rule : step.isRun.skipReason? entry.location = .ok none)
      (setup : Yields (runSetup suite nested step.caseId entry.location 0 step.setup)
        ⟨s.noting (.moved step.caseId .resolvingDependencies), p.report.resolved config step⟩
        (.ok ()) p₁)
      (making : Yields (makeRequest suite entry.location config step) p₁.session
        (.ok request) s₁)
      (sending : Yields (Session.send suite (some entry.caseId) request) s₁ (.ok raw) s₂)
      (teardown : Yields (runTeardown suite entry.location 0 step.teardown)
        ⟨s₂, (p₁.report.answered request raw).clocked time⟩ (.error (.crash n unfit)) q) :
      Ends suite nested entry p (.error (.crash n unfit)) q

section Case

variable {suite : Suite} {nested : String → Run Report} {entry : CaseEntry} {p q : Progress}

/-- What beginning a case yields. -/
theorem Yields.of_beginEntry {config : Config} {step : Step}
    {r : Except (Stop RunError) (Option String)}
    (h : Yields (beginEntry entry config step) p r q) :
    r = Stop.lift (step.isRun.skipReason? entry.location)
      ∧ q = ⟨p.session, (p.report.resolved config step).ruled
        (step.isRun.skipReason? entry.location)⟩ := by
  rcases yields_bind_iff.mp (yields_note_bind_iff.mp (yields_amend_bind_iff.mp h)) with
    ⟨reason?, p₁, hrule, h⟩ | ⟨stop, hrule, rfl⟩
  · obtain ⟨rule, hp⟩ := yields_result_iff.mp hrule
    rw [Stop.lift_eq_ok_iff.mp rule.symm]
    cases reason? with
    | none =>
      obtain ⟨rfl, rfl⟩ := yields_pure_iff.mp h
      exact ⟨rfl, hp⟩
    | some reason =>
      have h : Yields (note .resolve ("skipped: " ++ reason) >>= fun _ =>
        pure (some reason)) p₁ r q := h
      rw [yields_note_bind_iff] at h
      obtain ⟨rfl, rfl⟩ := yields_pure_iff.mp h
      rw [hp]
      exact ⟨rfl, rfl⟩
  · obtain ⟨rule, hp⟩ := yields_result_iff.mp hrule
    obtain ⟨e, he, rfl⟩ := Stop.lift_eq_error_iff.mp rule.symm
    rw [he]
    exact ⟨rfl, hp⟩

/-- What finishing a case yields: there is no request, or no answer, or else what
its teardown yields. -/
theorem Yields.ends_of_finishEntry {started : Moment} {config : Config} {step : Step}
    {r : Except (Stop RunError) Unit}
    (h : Yields (finishEntry suite entry started config step) p r q) :
    (∃ stop t, Yields (makeRequest suite entry.location config step) p.session (.error stop) t
        ∧ r = .error stop ∧ q = { p with session := t })
      ∨ ∃ request s, Yields (makeRequest suite entry.location config step) p.session
          (.ok request) s
        ∧ ((∃ stop t, Yields (Session.send suite (some entry.caseId) request) s
              (.error stop) t
            ∧ r = .error stop ∧ q = ⟨t, { p.report with request? := some request }⟩)
          ∨ ∃ raw t time,
            Yields (Session.send suite (some entry.caseId) request) s (.ok raw) t
              ∧ ((∃ ending time' p₁, Yields (runTeardown suite entry.location 0 step.teardown)
                    ⟨t, (p.report.answered request raw).clocked time⟩ (Stop.lift ending) p₁
                  ∧ r = Stop.lift ending ∧ q = { p₁ with report := p₁.report.clocked time' })
                ∨ ∃ n unfit, Yields (runTeardown suite entry.location 0 step.teardown)
                    ⟨t, (p.report.answered request raw).clocked time⟩
                    (.error (.crash n unfit)) q
                  ∧ r = .error (.crash n unfit))) := by
  rcases (yields_bind_iff.mp h).symm with ⟨e, hmake, rfl⟩ | ⟨request, p₁, hmake, h⟩
  · exact .inl ⟨e, _, (Executing.Yields.of_inSession hmake).1, rfl, hmake.eq_of_inSession⟩
  obtain ⟨making, hp₁⟩ := Executing.Yields.of_inSession hmake
  refine .inr ⟨request, p₁.session, making, ?_⟩
  rcases (yields_bind_iff.mp (yields_amend_bind_iff.mp h)).symm with
    ⟨e, hsend, rfl⟩ | ⟨raw, p₂, hsend, h⟩
  · refine .inl ⟨e, _, (Executing.Yields.of_inSession hsend).1, rfl, ?_⟩
    rw [hsend.eq_of_inSession, hp₁]
  obtain ⟨sending, hp₂⟩ := Executing.Yields.of_inSession hsend
  obtain ⟨time, h⟩ :=
    exists_of_clockReply (yields_amend_bind_iff.mp (yields_note_bind_iff.mp h))
  refine .inr ⟨raw, p₂.session, time, sending, ?_⟩
  rw [hp₂, hp₁] at h
  obtain ⟨ending, p₃, teardown, h⟩ | ⟨n, unfit, teardown, rfl⟩ := exists_of_outcome h
  · obtain ⟨time', h⟩ := exists_of_clockReply h
    obtain ⟨rfl, rfl⟩ := yields_result_iff.mp h
    exact .inl ⟨ending, time', p₃, teardown, rfl, rfl⟩
  · exact .inr ⟨n, unfit, teardown, rfl⟩

/-- **Every execution ends at one of these places.** Here the computation is taken apart
for all that is about reports. -/
theorem ends_runEntry {r : Except (Stop RunError) (Option String)}
    (h : Yields (runEntry suite nested entry) p r q) : Ends suite nested entry p r q := by
  unfold runEntry at h
  rw [yields_get_bind_iff] at h
  rcases (yields_bind_iff.mp h).symm with ⟨e, hread, rfl⟩ | ⟨⟨config, step⟩, p₁, hread, h⟩
  · rw [hread.eq_of_inSession]
    exact .unread (Executing.Yields.of_inSession hread).1
  obtain ⟨reading, hp₁⟩ := Executing.Yields.of_inSession hread
  rcases (yields_bind_iff.mp h).symm with ⟨stop, hbegin, rfl⟩ | ⟨reason?, p₂, hbegin, h⟩
  · obtain ⟨ruled, rfl⟩ := hbegin.of_beginEntry
    obtain ⟨e, rule, rfl⟩ := Stop.lift_eq_error_iff.mp ruled.symm
    rw [hp₁, rule]
    exact .unruled reading rule
  obtain ⟨ruled, rfl⟩ := hbegin.of_beginEntry
  have rule := Stop.lift_eq_ok_iff.mp ruled.symm
  rw [rule] at h
  cases reason? with
  | some reason =>
    obtain ⟨rfl, rfl⟩ := yields_pure_iff.mp h
    rw [hp₁]
    exact .skipped reading rule
  | none =>
    have h := Executing.yields_record_bind_iff.mp h
    rw [hp₁] at h
    rcases (yields_bind_iff.mp h).symm with ⟨e, setup, rfl⟩ | ⟨_, p₃, setup, h⟩
    · exact .unprepared reading rule setup
    -- what comes of finishing the case comes of the case, but for the answer
    obtain ⟨r, finishing, rfl⟩ : ∃ r₀, Yields (finishEntry suite entry p.session.now config step)
        p₃ r₀ q ∧ r = r₀.map fun _ => none := by
      rcases yields_bind_iff.mp h with ⟨_, p₄, finishing, h⟩ | ⟨e, finishing, rfl⟩
      · obtain ⟨rfl, rfl⟩ := yields_pure_iff.mp h
        exact ⟨_, finishing, rfl⟩
      · exact ⟨_, finishing, rfl⟩
    obtain ⟨e, t, making, rfl, rfl⟩ | ⟨request, s, making, sent⟩ :=
      finishing.ends_of_finishEntry
    · exact .unmade reading rule setup making
    obtain ⟨e, t, sending, rfl, rfl⟩ | ⟨raw, t, time, sending, ended⟩ := sent
    · exact .unanswered reading rule setup making sending
    obtain ⟨ending, time', p₄, teardown, rfl, rfl⟩ | ⟨n, unfit, teardown, rfl⟩ := ended
    · rw [Stop.map_lift]
      exact .answered reading rule setup making sending teardown
    · exact .interrupted reading rule setup making sending teardown

end Case

/-! ## Actions in turn -/

/-- The place of an action of the step at a location. -/
def Phase.place (phase : Phase) (location : String) (i : Nat) : String :=
  joinIndex (joinPath location phase.name) i

/-- The event of an action that is done. -/
def Phase.done (phase : Phase) (location : String) (i : Nat) : ReportEvent :=
  ⟨phase, phase.place location i ++ " done"⟩

/-- **The report reads the same**: the same events, the same request, and an answer if
there was one. What the answer holds may differ, since actions may change it. -/
structure Report.ReadsAs (before after : Report) : Prop where
  /-- The same events. -/
  events : after.events = before.events
  /-- The same request. -/
  request : after.request? = before.request?
  /-- An answer if there was one. -/
  reply : after.reply?.isSome = before.reply?.isSome

namespace Report.ReadsAs

variable {a b c : Report}

theorem refl (a : Report) : ReadsAs a a := ⟨rfl, rfl, rfl⟩

theorem trans (h : ReadsAs a b) (h' : ReadsAs b c) : ReadsAs a c :=
  ⟨h'.events.trans h.events, h'.request.trans h.request, h'.reply.trans h.reply⟩

instance : IsPreorder Report ReadsAs where
  refl := refl
  trans _ _ _ := trans

/-- What the reply holds does not matter. -/
theorem of_reply (a : Report) (f : Reply → Reply) :
    ReadsAs a { a with reply? := a.reply?.map f } :=
  ⟨rfl, rfl, Option.isSome_map⟩

end Report.ReadsAs

/-- The report reads the same, whatever the session does meanwhile. -/
abbrev Executing.Unread : Progress → Progress → Prop :=
  Function.onFun Report.ReadsAs Progress.report

instance : IsPreorder Progress Executing.Unread := {}

section Actions

variable {α : Type} {phase : Phase} {act : String → α → Executing Unit} {location : String}

/-- **Doing actions in turn**, from the one with the given index on: each is done at its
place and then noted. The event is written when the action has gone well, so the events of
a phase count the actions that were done. -/
def runActions (phase : Phase) (act : String → α → Executing Unit) (location : String) :
    Nat → List α → Executing Unit
  | _, [] => return ()
  | i, action :: rest => do
    act (phase.place location i) action
    note phase (phase.place location i ++ " done")
    runActions phase act location (i + 1) rest

/-- So the setup is done. -/
theorem runSetup_eq (suite : Suite) (nested : String → Run Report) (current location : String)
    (i : Nat) (actions : List SetupAction) :
    runSetup suite nested current location i actions = runActions .setup
      (fun place action => inSession (runSetupAction suite nested current place action))
      location i actions := by
  induction actions generalizing i with
  | nil => rfl
  | cons action rest ih =>
    rw [runSetup, runActions, ih]
    rfl

/-- So the teardown is done. -/
theorem runTeardown_eq (suite : Suite) (location : String) (i : Nat)
    (actions : List TeardownAction) :
    runTeardown suite location i actions
      = runActions .teardown (runTeardownAction suite) location i actions := by
  induction actions generalizing i with
  | nil => rfl
  | cons action rest ih =>
    rw [runTeardown, runActions, ih]
    rfl

/-- The report with the events of so many actions, from the one with the given index on.
The texts of the events hold the places of the actions, and so the report tells which these
were. -/
def Report.doing (r : Report) (phase : Phase) (location : String) (i n : Nat) : Report :=
  { r with events := r.events ++ (List.range' i n).map (phase.done location) }

theorem Report.doing_succ (r : Report) (phase : Phase) (location : String) (i n : Nat) :
    r.doing phase location i (n + 1)
      = (r.noting phase (phase.place location i ++ " done")).doing phase location (i + 1) n := by
  unfold doing noting
  rw [List.range'_succ, List.map_cons, List.append_assoc]
  rfl

/-- Reports that read the same do so with the same events added. -/
theorem Report.ReadsAs.doing {a b : Report} (h : a.ReadsAs b) (phase : Phase)
    (location : String) (i n : Nat) :
    (a.doing phase location i n).ReadsAs (b.doing phase location i n) :=
  ⟨congrArg (· ++ _) h.events, h.request, h.reply⟩

theorem Report.doing_zero (r : Report) (phase : Phase) (location : String) (i : Nat) :
    r.doing phase location i 0 = r := by
  unfold doing
  rw [List.range'_zero, List.map_nil, List.append_nil]

/-- **The events of actions done in turn** are those of the first ones, one for each, and
of all exactly if nothing goes wrong. The actions themselves must not write into the
report, which is the hypothesis. -/
theorem Yields.of_runActions (unread : ∀ place action, Keeps Executing.Unread (act place action))
    {i : Nat} {actions : List α} {p q : Progress}
    {r : Except (Stop RunError) Unit}
    (h : Yields (runActions phase act location i actions) p r q) :
    ∃ n ≤ actions.length, (r = .ok () ↔ n = actions.length)
      ∧ (p.report.doing phase location i n).ReadsAs q.report := by
  induction actions generalizing i p with
  | nil =>
    obtain ⟨rfl, rfl⟩ := yields_pure_iff.mp h
    refine ⟨0, Nat.le_refl 0, by simp, ?_⟩
    rw [Report.doing_zero]
    exact .refl _
  | cons action rest ih =>
    rcases yields_bind_iff.mp h with ⟨_, p₁, hact, h⟩ | ⟨e, hact, rfl⟩
    · obtain ⟨n, hn, all, reads⟩ := ih (yields_note_bind_iff.mp h)
      refine ⟨n + 1, Nat.succ_le_succ hn, ?_, ?_⟩
      · rw [all, List.length_cons, Nat.add_right_cancel_iff]
      · rw [← Report.doing_succ] at reads
        exact ((unread _ _ _ _ _ hact).doing phase location i (n + 1)).trans reads
    · refine ⟨0, Nat.zero_le _, by simp, ?_⟩
      rw [Report.doing_zero]
      exact unread _ _ _ _ _ hact

/-- **What stops actions done in turn** stops one of them. -/
theorem exists_of_runActions_error {i : Nat} {actions : List α} {p q : Progress}
    {stop : Stop RunError}
    (h : Yields (runActions phase act location i actions) p (.error stop) q) :
    ∃ n action p₁, actions[n]? = some action
      ∧ Yields (act (phase.place location (i + n)) action) p₁ (.error stop) q := by
  induction actions generalizing i p with
  | nil => cases (yields_pure_iff.mp h).1
  | cons action rest ih =>
    rcases yields_bind_iff.mp h with ⟨_, p₁, -, h⟩ | ⟨e', hact, he⟩
    · obtain ⟨n, action', p₂, hn, hact⟩ := ih (yields_note_bind_iff.mp h)
      refine ⟨n + 1, action', p₂, hn, ?_⟩
      rwa [Nat.add_right_comm] at hact
    · cases he
      exact ⟨0, action, p, rfl, hact⟩

/-- **What each action leads along, all of them in turn do**, also if one of them crashes.
-/
theorem leads_runActions {R : Prop → Session → Session → Prop} [UntilCrash R]
    (hact : ∀ place action, Leads (OnSessions R) (act place action)) (location : String)
    (i : Nat) (actions : List α) :
    Leads (OnSessions R) (runActions phase act location i actions) := by
  induction actions generalizing i with
  | nil => exact Leads.pure _
  | cons action rest ih =>
    exact (hact _ action).bind fun _ => (leads_note _ _).bind fun _ => ih (i + 1)

end Actions

end CaseRunner
