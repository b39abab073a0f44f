import CaseRunner.Proofs.Session.Faults
import CaseRunner.Proofs.Session.Stages

/-!
# What it means that a case failed

A case is meant to have failed if an assertion about its answer is false, and otherwise,
whatever goes wrong, to have an error. Which of the two it is, is decided by the kind of
the error alone, and there are two sources of errors of the kind that counts: the items of
teardown assertions, and the conditions for skipping a case, which are evaluated as
assertions are. So a case that is answered has failed only by an item of its teardown, and
one that is not answered has failed exactly if the conditions for skipping it cannot be
evaluated (`runToDepth_fails`). The second is against what verdicts are for: nothing was
sent, and no assertion is false (`Suite.fails_unsent`).

That there is no third source is the greater part of the proof. It is a statement about
everything else that a run does, made part by part in the module on other faults, and about
the cases inside, whose failures reach the case around them as errors of another kind.
-/

namespace CaseRunner

open Executing RunError

/-! ## Conditions for skipping -/

/-- **A condition compares what cannot be compared**: there is one among those of the rule
whose operator does not apply to its values. It is resolved without an answer, as there is
none yet. -/
def RunRule.Mismatches (rule : RunRule) : Prop :=
  ∃ conditions reason condition c l r, rule = .skipIf conditions reason
    ∧ condition ∈ conditions ∧ Expression.parseCondition condition = .ok (.comparison c)
    ∧ c.left.resolve .null = .value l ∧ c.right.resolve .null = .value r
    ∧ c.op.apply? l r = none

section Skipping

variable {location : String} {e : RunError}

/-- A text that is no condition is no false assertion. -/
theorem Expression.fails_parseCondition (source : String) :
    Fails Other (parseCondition source) :=
  .reworded fun _ => rfl

/-- A comparison is evaluated unless its operator does not apply to its values. -/
theorem Expression.Comparison.mismatch_of_evaluate {c : Comparison} {answer : Document}
    {source : String} (h : c.evaluate answer source = .error e) (he : ¬ e.Other) :
    ∃ l r, c.left.resolve answer = .value l ∧ c.right.resolve answer = .value r
      ∧ c.op.apply? l r = none := by
  unfold evaluate at h
  dsimp only at h
  split at h
  next => cases h
  next => cases h
  next =>
    cases h
    exact absurd rfl he
  next l r hl hr =>
    split at h
    next => cases h
    next none => exact ⟨l, r, hl, hr, none⟩

/-- Looking for the first condition that is true goes wrong as one of the conditions does.
-/
theorem RunRule.exists_of_firstTrue? {i : Nat} {conditions : List String}
    (h : firstTrue? location i conditions = .error e) (he : ¬ e.Other) :
    ∃ condition ∈ conditions, ∃ e₀, Expression.evaluateCondition condition = .error e₀
      ∧ ¬ e₀.Other := by
  induction conditions generalizing i with
  | nil => cases h
  | cons condition rest ih =>
    rw [firstTrue?] at h
    rcases bind_eq_error_iff.mp h with h | ⟨holds, -, h⟩
    · obtain ⟨e₀, h₀, rfl⟩ := mapError_eq_error_iff.mp h
      exact ⟨condition, List.mem_cons_self, e₀, h₀, mt (other_at _).mpr he⟩
    · split at h
      · cases h
      · obtain ⟨condition', hmem, found⟩ := ih h
        exact ⟨condition', List.mem_cons_of_mem _ hmem, found⟩

/-- **Whether a case is skipped cannot be told by a false assertion only where a condition
compares what cannot be compared.** A condition that is merely false is none of this: then
the next one is looked at, and the case is not skipped if there is none. -/
theorem RunRule.mismatches_of_skipReason? {rule : RunRule}
    (h : rule.skipReason? location = .error e) (he : ¬ e.Other) : rule.Mismatches := by
  unfold skipReason? at h
  split at h
  · cases h
  · cases h
  · cases h
  · cases h
  next conditions reason =>
    rcases bind_eq_error_iff.mp h with h | ⟨_, -, h⟩
    · obtain ⟨condition, hmem, e₀, h₀, he₀⟩ := exists_of_firstTrue? h he
      rcases bind_eq_error_iff.mp h₀ with h₀ | ⟨c, parsed, h₀⟩
      · exact absurd (Expression.fails_parseCondition _ _ h₀) he₀
      · cases c with
        | literal d => cases h₀
        | comparison c =>
          obtain ⟨l, r, hl, hr, none⟩ := c.mismatch_of_evaluate h₀ he₀
          exact ⟨conditions, reason, condition, c, l, r, rfl, hmem, parsed, hl, hr, none⟩
    · cases h

end Skipping

/-! ## Items of teardown assertions -/

/-- **An item of a teardown assertion of a step is false about a reply**, and that is the
error. The error tells the place of the item, and with it the assertion and the action. -/
inductive Suite.Refutes (suite : Suite) (location : String) (step : Step) (reply : Reply) :
    RunError → Prop
  | mk {k i : Nat} {items : Series AssertItem} {item : AssertItem}
      {prepared : PreparedAssertion} {asked asked' : List String} {e : RunError}
      (action : step.teardown[k]? = some (.assert items))
      (among : items.toList[i]? = some item) (reading : item.prepare = .ok prepared)
      (failing : Yields (prepared.check reply suite.database?) asked (.error e) asked')
      (assertion : e.isAssertionFailure = true) :
      Refutes suite location step reply
        (e.at (joinIndex (joinPath (Phase.teardown.place location k) "assert") i))

section Teardown

variable {location : String} {reply : Reply} {database? : Option Database}

theorem AssertItem.fails_prepare (item : AssertItem) : Fails Other item.prepare := by
  cases item with
  | code source => exact Fails.map (.reworded fun _ => rfl)
  | path a => exact .ok _

theorem fails_prepareAll (location : String) (i : Nat) (items : List AssertItem) :
    Fails Other (prepareAll location i items) := by
  induction items generalizing i with
  | nil => exact .ok _
  | cons item rest ih =>
    refine (item.fails_prepare.mapError fun e he => (other_at _).mpr he).bind fun _ => ?_
    exact (ih (i + 1)).bind fun _ => .ok _

/-- What has been read is what the items are. -/
theorem exists_of_prepareAll {i k : Nat} {items : List AssertItem}
    {prepared : List PreparedAssertion} {a : PreparedAssertion}
    (h : prepareAll location i items = .ok prepared) (hk : prepared[k]? = some a) :
    ∃ item, items[k]? = some item ∧ item.prepare = .ok a := by
  induction items generalizing i k prepared with
  | nil =>
    cases h
    cases hk
  | cons item rest ih =>
    obtain ⟨first, hfirst, h⟩ := bind_eq_ok_iff.mp h
    obtain ⟨others, hothers, h⟩ := bind_eq_ok_iff.mp h
    cases h
    cases k with
    | zero =>
      cases hk
      exact ⟨item, rfl, mapError_eq_ok_iff.mp hfirst⟩
    | succ k => exact ih hothers hk

/-- The error of checking assertions in turn is the error of one of them. -/
theorem exists_of_checkPrepared {i : Nat} {prepared : List PreparedAssertion}
    {asked asked' : List String} {e : RunError}
    (h : Yields (checkPrepared location reply database? i prepared) asked (.error e) asked') :
    ∃ (k : Nat) (a : PreparedAssertion) (before after : List String) (e₀ : RunError),
      prepared[k]? = some a
      ∧ Yields (a.check reply database?) before (.error e₀) after
      ∧ e = e₀.at (joinIndex location (i + k)) := by
  induction prepared generalizing i asked with
  | nil => cases (yields_pure_iff.mp h).1
  | cons a rest ih =>
    rcases yields_bind_iff.mp h with ⟨_, between, -, h⟩ | ⟨e', hcheck, he⟩
    · obtain ⟨k, a', before, after, e₀, hk, hcheck, he⟩ := ih h
      exact ⟨k + 1, a', before, after, e₀, hk, hcheck, by rw [he, Nat.add_right_comm]; rfl⟩
    · cases he
      obtain ⟨r, hr, he⟩ := hcheck.of_adapt
      obtain ⟨e₀, rfl, rfl⟩ := mapError_eq_error_iff.mp he.symm
      exact ⟨0, a, asked, asked', e₀, rfl, hr, rfl⟩

theorem raises_inSession {α : Type} {c : Run α} (hc : RaisesOther c) :
    RaisesOther (inSession c) := by
  intro p stop q h
  exact hc _ _ _ (Executing.Yields.of_inSession h).1

/-- A teardown action other than an assertion goes wrong in other ways. -/
theorem raises_runTeardownAction {suite : Suite} (honest : suite.Honest)
    {action : TeardownAction} (ha : ∀ items, action ≠ .assert items) :
    RaisesOther (runTeardownAction suite location action) := by
  unfold runTeardownAction
  cases action with
  | sql statements =>
    refine Raises.forM (fun statement => ?_) _
    refine (raises_inSession (Session.raises_queryRow honest _ _)).bind fun row? => ?_
    cases row? with
    | none => exact Raises.pure _
    | some row =>
      refine Raises.bind (Raises.modify _) fun _ => raises_inSession ?_
      exact Raises.forM (fun _ => Session.raises_assign _ _ _) _
  | hook source => exact raises_inSession (Session.raises_runHook _ _ _)
  | extract extractions =>
    refine Raises.forM (fun e => ?_) _
    refine Raises.bind (Raises.get.bind fun _ => Raises.pure _) fun reply => ?_
    refine Raises.bind ?_ fun _ => raises_inSession (Session.raises_assign _ _ _)
    exact raises_inSession (Session.raises_result (JsonPath.fails_findFirst _ _ _))
  | assert items => exact absurd rfl (ha items)
  | waitTime seconds => exact raises_inSession (Session.raises_pause _ _)

/-- **A false assertion in a teardown is an item of an assertion there**, about the reply
that there is. The items are checked one after the other after all of them were read, and
the first one that goes wrong is the error. -/
theorem refutes_of_runTeardownAction {suite : Suite} (honest : suite.Honest) {step : Step}
    {k : Nat} {action : TeardownAction} {p q : Progress} {e : RunError}
    (hk : step.teardown[k]? = some action) (he : ¬ e.Other)
    (h : Yields (runTeardownAction suite (Phase.teardown.place location k) action) p
      (.error (.error e)) q) :
    q.report = p.report ∧ suite.Refutes location step (p.report.reply?.getD {}) e := by
  by_cases ha : ∃ items, action = .assert items
  · obtain ⟨items, rfl⟩ := ha
    have h : Yields (inSession (Session.asking (checkAll items.toList (p.report.reply?.getD {})
        suite.database? (joinPath (Phase.teardown.place location k) "assert")))) p
        (.error (.error e)) q := h
    obtain ⟨hcheck, hreport⟩ := Executing.Yields.of_inSession h
    obtain ⟨r, asked, hcheck, hr, -⟩ := Session.Yields.of_asking hcheck
    obtain rfl := Stop.lift_eq_error_error_iff.mp hr.symm
    rcases yields_bind_iff.mp hcheck with ⟨prepared, _, hprep, hcheck⟩ | ⟨e', hprep, he'⟩
    · obtain ⟨i, a, before, after, e₀, hi, hfail, rfl⟩ := exists_of_checkPrepared hcheck
      obtain ⟨item, among, reading⟩ :=
        exists_of_prepareAll (yields_mk_pure_iff.mp hprep).1.symm hi
      rw [other_at, Bool.not_eq_false] at he
      rw [Nat.zero_add]
      exact ⟨hreport, .mk hk among reading hfail he⟩
    · cases he'
      exact absurd (fails_prepareAll _ _ _ _ (yields_mk_pure_iff.mp hprep).1.symm) he
  · exact absurd (raises_runTeardownAction honest (not_exists.mp ha) _ _ _ h e rfl) he

end Teardown

/-! ## Executions -/

section Executions

variable {suite : Suite} {nested : String → Run Report} {entry : CaseEntry}

/-- **Running a case gives a report, or crashes, or it goes wrong in other ways.** A case
that has failed is no error for the case that runs it; that its report is no pass is one,
of another kind. -/
theorem raises_runToDepth (suite : Suite) (depth : Nat) (id : String) :
    RaisesOther (runToDepth suite depth id) := by
  cases depth with
  | zero => exact raisesOther_throw rfl
  | succ depth =>
    show RaisesOther (runCase suite (runToDepth suite depth) id)
    unfold runCase
    split
    · -- a case that is loaded gives a report, whatever becomes of it
      intro s stop t h
      obtain ⟨_, _, -, ⟨_, -, report, -⟩ | ⟨q, unfit, -, crash, -⟩⟩ := h.of_runLoaded
      · cases report
      · exact Except.error.inj crash ▸ Stop.only_crash unfit
    · exact raisesOther_throw rfl

/-- **Where a false assertion comes from** that ends an execution: from the rule for
skipping the case, and then there is no answer, or from an item of its teardown. The other
endings are excluded by the kind of their errors. -/
theorem Ends.blames (honest : suite.Honest) (hn : ∀ id, RaisesOther (nested id)) {s : Session}
    {q : Progress} {e : RunError}
    (h : Ends suite nested entry ⟨s, entry.report⟩ (Stop.lift (.error e)) q) (he : ¬ e.Other) :
    ∃ step, suite.typed? entry s = some step
      ∧ ((q.report.reply? = none ∧ step.isRun.skipReason? entry.location = .error e)
        ∨ ∃ reply time, q.report.reply? = some { reply with executeTime := time }
          ∧ suite.Refutes entry.location step reply e) := by
  generalize ho : Stop.lift (.error e) = outcome at h
  cases h with
  | unread reading =>
    cases ho
    exact absurd (raises_resolveEntry suite entry _ _ _ reading e rfl) he
  | unruled reading rule =>
    cases ho
    exact ⟨_, by rw [typed?_of_yields reading]; rfl, .inl ⟨rfl, rule⟩⟩
  | skipped => cases ho
  | unprepared reading rule setup =>
    cases ho
    rw [runSetup_eq] at setup
    obtain ⟨n, action, p₁, -, hact⟩ := exists_of_runActions_error setup
    have hact := (Executing.Yields.of_inSession hact).1
    exact absurd (raises_runSetupAction honest hn _ _ _ _ _ _ hact e rfl) he
  | unmade reading rule setup making =>
    cases ho
    exact absurd (raises_makeRequest honest _ _ _ _ _ _ making e rfl) he
  | unanswered reading rule setup making sending =>
    cases ho
    exact absurd (Session.raises_send honest _ _ _ _ _ sending e rfl) he
  | interrupted => cases ho
  | @answered config step _ _ _ _ p₂ request raw ending time time' reading rule setup making
      sending teardown =>
    refine ⟨step, by rw [typed?_of_yields reading]; rfl, .inr ?_⟩
    cases ending with
    | ok _ => cases ho
    | error e' =>
      cases ho
      -- the teardown has left the reply where it was
      obtain ⟨_, -, -, reads⟩ := teardown.of_runTeardown
      obtain ⟨reply, hreply⟩ : ∃ reply, p₂.report.reply? = some reply :=
        Option.isSome_iff_exists.mp reads.reply
      rw [runTeardown_eq] at teardown
      obtain ⟨k, action, p₃, hk, hact⟩ := exists_of_runActions_error teardown
      rw [Nat.zero_add] at hact
      obtain ⟨hreport, refutes⟩ := refutes_of_runTeardownAction honest hk he hact
      rw [← hreport, hreply, Option.getD_some] at refutes
      refine ⟨reply, time', ?_, refutes⟩
      rw [Report.clocked, hreply]
      rfl

/-- An execution whose rule for skipping cannot be told ends there. -/
theorem Ends.of_rule {s : Session} {q : Progress}
    {ended : Except (Stop RunError) (Option String)}
    {step : Step} {e : RunError} (h : Ends suite nested entry ⟨s, entry.report⟩ ended q)
    (typed : suite.typed? entry s = some step)
    (rule : step.isRun.skipReason? entry.location = .error e) :
    ended = .error (.error e) ∧ q.report.reply? = none := by
  have same : ∀ {config : Config} {step' : Step} {t : Session},
      Yields (resolveEntry suite entry) s (.ok (config, step')) t → step' = step := by
    intro config step' t reading
    rw [typed?_of_yields reading] at typed
    exact Option.some.inj typed
  cases h with
  | unread reading =>
    rw [typed?_of_yields reading] at typed
    cases typed
  | unruled reading rule' =>
    rw [same reading, rule] at rule'
    cases rule'
    exact ⟨rfl, rfl⟩
  | skipped reading rule' | unprepared reading rule' | unmade reading rule'
  | unanswered reading rule' | answered reading rule' | interrupted reading rule' =>
    rw [same reading, rule] at rule'
    cases rule'

end Executions

theorem Verdict.ofOutcome_eq_failed_iff {outcome : Except RunError (Option String)}
    {text : String} : Verdict.ofOutcome outcome = .failed text ↔
      ∃ e, outcome = .error e ∧ e.isAssertionFailure = true ∧ e.message = text := by
  unfold Verdict.ofOutcome
  split
  · simp
  · simp
  · split <;> simp_all

/-- **What it means that a case failed.** Where transports and database speak of no
assertions, running a case that is loaded crashes or gives a report such that:

* the case failed without an answer exactly if the rule for skipping its step could
  not be told because a condition compares what cannot be compared, and that is
  its text;
* if it failed with an answer, an item of a teardown assertion of its step is false
  about that answer, as it was when the item was checked, and that is its text;
* whatever error the case ended with, it failed with that text or has an error with
  it; so every error that is not one of these two makes the verdict an error.

A crash is none of these errors, and of a case that crashes there is no verdict. -/
theorem runToDepth_fails {suite : Suite} (honest : suite.Honest) {id : String}
    {entry : CaseEntry} (hf : suite.cases.find? id = some entry) (depth : Nat) (s : Session) :
    (∃ n unfit t, Yields (runToDepth suite (depth + 1) id) s (.error (.crash n unfit)) t)
    ∨ ∃ report t, Yields (runToDepth suite (depth + 1) id) s (.ok report) t
      ∧ (∀ text, report.verdict = .failed text ∧ report.reply? = none ↔
        ∃ step e, suite.typed? entry (s.noting (.entered id)) = some step
          ∧ step.isRun.skipReason? entry.location = .error e ∧ step.isRun.Mismatches
          ∧ e.isAssertionFailure = true ∧ e.message = text)
      ∧ (∀ text reply, report.verdict = .failed text → report.reply? = some reply →
        ∃ step e time, suite.typed? entry (s.noting (.entered id)) = some step
          ∧ suite.Refutes entry.location step { reply with executeTime := time } e
          ∧ e.message = text)
      ∧ ∀ e, ((runEntry suite (runToDepth suite depth) entry).run
          ⟨s.noting (.entered id), entry.report⟩).1 = .error (.error e) →
        report.verdict = .failed e.message ∨ report.verdict = .error e.message := by
  obtain rfl := CaseIndex.caseId_of_find? hf
  rw [show runToDepth suite (depth + 1) entry.caseId
    = runLoaded suite (runToDepth suite depth) entry by rw [runToDepth, runCase, hf]]
  have run := yields_run (runLoaded suite (runToDepth suite depth) entry) s
  obtain ⟨ended, p, inside, concluded⟩ := run.of_runLoaded
  have ends := ends_runEntry inside
  obtain ⟨outcome, rfl, hr, ht⟩ | ⟨n, unfit, -, hr, -⟩ := concluded
  case inr =>
    rw [hr] at run
    exact .inl ⟨n, unfit, _, run⟩
  rw [hr, ht] at run
  refine .inr ⟨_, _, run, fun text => ⟨?_, ?_⟩, ?_, ?_⟩
  · rintro ⟨failed, unanswered⟩
    obtain ⟨e, rfl, he, rfl⟩ := Verdict.ofOutcome_eq_failed_iff.mp failed
    obtain ⟨step, typed, ⟨-, rule⟩ | ⟨reply, time, answered, -⟩⟩ :=
      ends.blames honest (raises_runToDepth suite depth) (Bool.not_eq_false _ ▸ he)
    · have mismatches := RunRule.mismatches_of_skipReason? rule (Bool.not_eq_false _ ▸ he)
      exact ⟨step, e, typed, rule, mismatches, he, rfl⟩
    · cases unanswered.symm.trans answered
  · rintro ⟨step, e, typed, rule, -, he, rfl⟩
    obtain ⟨ended, unanswered⟩ := ends.of_rule typed rule
    obtain rfl := Stop.lift_eq_error_error_iff.mp ended
    exact ⟨Verdict.ofOutcome_eq_failed_iff.mpr ⟨e, rfl, he, rfl⟩, unanswered⟩
  · intro text reply failed answered
    obtain ⟨e, rfl, he, rfl⟩ := Verdict.ofOutcome_eq_failed_iff.mp failed
    obtain ⟨step, typed, ⟨unanswered, -⟩ | ⟨reply', time, answered', refutes⟩⟩ :=
      ends.blames honest (raises_runToDepth suite depth) (Bool.not_eq_false _ ▸ he)
    · cases unanswered.symm.trans answered
    · cases answered'.symm.trans answered
      exact ⟨step, e, reply'.executeTime, typed, refutes, rfl⟩
  · intro e error
    rw [show ((runEntry suite (runToDepth suite depth) entry).run _).1 = _ from
      congrArg Prod.fst inside] at error
    obtain rfl := Stop.lift_eq_error_error_iff.mp error
    show Verdict.ofOutcome (.error e) = _ ∨ Verdict.ofOutcome (.error e) = _
    rw [Verdict.ofOutcome]
    split
    · exact .inl rfl
    · exact .inr rfl

/-- A case whose answer does not have the status that it wants. -/
theorem runToDepth_fails_of_looking :
    let suite := Suite.looking "404"
    suite.Honest ∧ suite.cases.find? "a" = some (.looking "404")
      ∧ ∃ report t reply step e time, Yields (suite.run "a") .fresh (.ok report) t
        ∧ report.verdict = .failed e.message ∧ report.reply? = some reply
        ∧ suite.Refutes "cases.yaml:test_steps[0]" step { reply with executeTime := time } e := by
  intro suite
  have honest : suite.Honest := by
    refine ⟨fun _ _ _ _ => .ok _, fun db hdb _ _ => ?_⟩
    cases hdb
    exact .ok _
  have hf : suite.cases.find? "a" = some (.looking "404") := rfl
  have fails : (suite.outcome "a" .fresh).toOption.map (fun r => (r.verdict, r.reply?.isSome))
      = some (.failed ("Assert error: cases.yaml:test_steps[0]:teardown[0]:assert[0]: " ++
        "'assert pm.response.get('status_code') == 404' evaluated to false"), true) := by
    decide +kernel
  obtain ⟨n, unfit, t, crash⟩ | ⟨report, t, run, -, answered, -⟩ :=
    runToDepth_fails honest hf 1 .fresh
  · rw [show suite.outcome "a" .fresh = _ from congrArg Prod.fst crash] at fails
    exact nomatch fails
  rw [show suite.outcome "a" .fresh = .ok report from congrArg Prod.fst run] at fails
  obtain ⟨verdict, replied⟩ := Prod.mk.inj (Option.some.inj fails)
  obtain ⟨reply, hreply⟩ := Option.isSome_iff_exists.mp replied
  obtain ⟨step, e, time, -, refutes, he⟩ := answered _ _ verdict hreply
  exact ⟨honest, hf, report, t, reply, step, e, time, run, he ▸ verdict, hreply, refutes⟩

/-- A case `a` with a condition for skipping it that compares a number with a
text. -/
def Suite.undecided : Suite :=
  .answering ⟨[⟨"a", "cases.yaml", "cases.yaml:test_steps[0]", none, .mapping [
    ("case_id", .text "a"),
    ("is_run", .mapping [("skip_if", .list [.text "1 < 'a'"])]),
    ("request", .mapping [("method", .text "GET"), ("url", .text "http://h/a")])]⟩]⟩

/-- **A case fails though nothing was sent**: the condition for skipping it cannot be
evaluated, and that counts as a false assertion. -/
theorem Suite.fails_unsent :
    undecided.Honest ∧ (undecided.after "a" .fresh).sent = []
      ∧ ¬ ∀ report text, undecided.outcome "a" .fresh = .ok report →
          report.verdict = .failed text → report.reply?.isSome = true := by
  have fails : (undecided.outcome "a" .fresh).toOption.map
      (fun r => (r.verdict, r.reply?.isSome))
      = some (.failed ("Assert error: cases.yaml:test_steps[0]:is_run:skip_if[0]: " ++
        "'1 < 'a'': cannot apply '<' to 1 and \"a\""), false) := by
    decide +kernel
  refine ⟨⟨fun _ _ _ _ => .ok _, nofun⟩, by decide +kernel, fun all => ?_⟩
  cases outcome : undecided.outcome "a" .fresh with
  | error e =>
    rw [outcome] at fails
    cases fails
  | ok report =>
    rw [outcome] at fails
    obtain ⟨verdict, replied⟩ := Prod.mk.inj (Option.some.inj fails)
    rw [all report _ outcome verdict] at replied
    cases replied

end CaseRunner
