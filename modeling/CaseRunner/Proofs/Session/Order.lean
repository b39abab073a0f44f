import CaseRunner.Proofs.Session.References

/-!
# The order in which requests are sent

A case sends its request after all cases that it needs have passed, and these theirs before
it. So the requests of a run come in the order of the case that is run (`CaseIndex.order`),
each time a case is needed anew; a run that goes wrong somewhere stops short of it.

The order is computed from the graph alone, and a run is compared with it. What the
comparison says is that the cases which sent their requests are a beginning of the order.
With this there is no need to say where a run has stopped, or why: an error, a case that is
skipped and a crash all leave a beginning behind.
-/

namespace CaseRunner

variable {suite : Suite} {cases : CaseIndex}

/-! ## Senders -/

namespace Journal

/-- The senders of what has happened are those of the parts. -/
theorem senders_append (news before : Journal) :
    senders (news ++ before) = senders news ++ senders before := by
  induction news with
  | nil => rfl
  | cons x news ih =>
    cases x with
    | sent caseId? request =>
      cases caseId? with
      | none => exact ih
      | some id => exact congrArg (id :: ·) ih
    | entered | left | moved | checked | related | assigned | filled | measured => exact ih

/-- Turns send no requests of cases. A login is sent for none. -/
theorem senders_of_isTurn {news : Journal} (h : ∀ x ∈ news, x.isTurn = true) :
    senders news = [] := by
  induction news with
  | nil => rfl
  | cons x news ih =>
    obtain ⟨hx, hnews⟩ := List.forall_mem_cons.mp h
    cases x with
    | entered | left | checked => cases hx
    | sent caseId? request =>
      cases caseId? with
      | none => exact ih hnews
      | some id => cases hx
    | moved | related | assigned | filled | measured => exact ih hnews

end Journal

/-- **The cases that send their requests** from one session to another are these, in this
order. The journal has its latest happening in front, and so they stand there in reverse.
-/
def Session.Sends (ids : List String) (s t : Session) : Prop :=
  Journal.senders t.journal = ids.reverse ++ Journal.senders s.journal

namespace Session.Sends

variable {ids ids' : List String} {s t u : Session}

theorem refl (s : Session) : Sends [] s s := rfl

theorem trans (h : Sends ids s t) (h' : Sends ids' t u) : Sends (ids ++ ids') s u := by
  unfold Sends at h h' ⊢
  rw [h', h, List.reverse_append, List.append_assoc]

theorem of_quietly (h : Quietly s t) : Sends [] s t := by
  obtain ⟨news, hnews, hall⟩ := h.adds
  unfold Sends
  rw [hnews, Journal.senders_append, Journal.senders_of_isTurn hall]
  rfl

/-- What is done without sending changes nothing about the senders. -/
theorem head (h : Quietly s t) (h' : Sends ids t u) : Sends ids s u :=
  (of_quietly h).trans h'

theorem tail (h : Sends ids s t) (h' : Quietly t u) : Sends ids s u := by
  have := h.trans (of_quietly h')
  rwa [List.append_nil] at this

theorem sent (s : Session) (id : String) (request : Request) :
    Sends [id] s (s.noting (.sent (some id) request)) := rfl

theorem checked {a b : String} {answer : Except DependencyFault Unit}
    (h : Sends ids (s.noting (.checked a b answer)) t) : Sends ids s t := h

end Session.Sends

/-! ## Orders -/

/-- **A case sends in its order**: the cases that send their requests while it runs are the
beginning of its order, and all of it if it passes. The second part is what the first rests
on, since a case goes on to its second reference only if the first has sent all of its
order. -/
def SendsInOrder (cases : CaseIndex) : CaseRelation := fun id s r t =>
  cases.Grounded id → ∃ ids, Session.Sends ids s t ∧ ids <+: cases.order id
    ∧ ∀ report, r = .ok report → report.verdict = .passed → ids = cases.order id

/-- **References are followed in order**: what is sent is a beginning of the orders of the
cases that are needed, put together. A beginning of one order is followed by nothing, for a
case that has not sent all has not passed. -/
theorem Follows.sendsInOrder {current : String} {needed : List String} {s t : Session}
    {r : Except (Stop RunError) Unit}
    (h : Follows cases (SendsInOrder cases) current needed s r t)
    (grounded : ∀ b ∈ needed, cases.Grounded b) :
    ∃ ids, Session.Sends ids s t ∧ ids <+: needed.flatMap cases.order
      ∧ (r = .ok () → ids = needed.flatMap cases.order) := by
  induction h with
  | done s => exact ⟨[], .refl s, List.nil_prefix, fun _ => rfl⟩
  | stopped needed s e => exact ⟨[], .refl s, List.nil_prefix, fun hr => (by cases hr)⟩
  | quiet turns _ ih =>
    obtain ⟨ids, sends, hprefix, hall⟩ := ih grounded
    exact ⟨ids, sends.head turns, hprefix, hall⟩
  | refused needed e check => exact ⟨[], rfl, List.nil_prefix, fun hr => (by cases hr)⟩
  | crashed needed unfit check run =>
    obtain ⟨ids, sends, hprefix, -⟩ := run (grounded _ List.mem_cons_self)
    refine ⟨ids, sends.checked, ?_, fun hr => (by cases hr)⟩
    exact hprefix.trans (List.prefix_append _ _)
  | broken needed stop check run survived turns =>
    obtain ⟨ids, sends, hprefix, -⟩ := run (grounded _ List.mem_cons_self)
    refine ⟨ids, sends.checked.tail turns, ?_, fun hr => (by cases hr)⟩
    exact hprefix.trans (List.prefix_append _ _)
  | passed check run verdict _ ih =>
    obtain ⟨first, sends, -, hfirst⟩ := run (grounded _ List.mem_cons_self)
    -- a case that passes has sent the whole of its order
    obtain rfl := hfirst _ rfl verdict
    obtain ⟨rest, sends', hprefix, hall⟩ :=
      ih fun b hb => grounded b (List.mem_cons_of_mem _ hb)
    refine ⟨_, sends.checked.trans sends', ?_, fun hr => ?_⟩
    · exact (List.prefix_append_right_inj _).mpr hprefix
    · rw [hall hr]
      rfl

/-- **An execution sends what it needs, and then itself.** By its kinds: only the last of
them sends for the case, and by then the setup has sent all of its orders. -/
theorem Performs.sendsInOrder (loaded : suite.cases.Loaded) (plain : suite.cases.Plain)
    {id : String} {entry : CaseEntry} (hf : suite.cases.find? id = some entry)
    (grounded : suite.cases.Grounded id) {s t : Session}
    {o : Except (Stop RunError) (Option String)}
    (h : Performs suite (SendsInOrder suite.cases) entry s o t) :
    ∃ ids, Session.Sends ids s t ∧ ids <+: suite.cases.order id
      ∧ (o = .ok none → ids = suite.cases.order id) := by
  have needed : ∀ b ∈ suite.cases.needs id, suite.cases.Grounded b :=
    fun b hb => grounded.of_reaches (.single hb)
  rw [grounded.order_eq]
  cases h with
  | unready turns ending =>
    exact ⟨[], .of_quietly turns, List.nil_prefix, fun ho => absurd ho ending⟩
  | unprepared reading turns setup =>
    obtain ⟨-, hneeds⟩ := reading.of_plain loaded plain hf
    rw [hneeds] at setup
    obtain ⟨ids, sends, hprefix, -⟩ := setup.sendsInOrder needed
    refine ⟨ids, sends.head turns, ?_, fun ho => (by cases ho)⟩
    exact hprefix.trans (List.prefix_append _ _)
  | unsent reading turns setup making =>
    obtain ⟨-, hneeds⟩ := reading.of_plain loaded plain hf
    rw [hneeds] at setup
    obtain ⟨ids, sends, hprefix, -⟩ := setup.sendsInOrder needed
    refine ⟨ids, (sends.head turns).tail making, ?_, fun ho => (by cases ho)⟩
    exact hprefix.trans (List.prefix_append _ _)
  | sent request reading turns setup making teardown =>
    obtain ⟨-, hneeds⟩ := reading.of_plain loaded plain hf
    rw [hneeds] at setup
    obtain ⟨ids, sends, -, hall⟩ := setup.sendsInOrder needed
    obtain rfl := hall rfl
    obtain rfl := CaseIndex.caseId_of_find? hf
    have sent := ((sends.head turns).tail making).trans (.sent _ entry.caseId request)
    exact ⟨_, sent.tail teardown, List.prefix_refl _, fun _ => rfl⟩

/-- **Every run sends in the order** of the case that is run, if this is
grounded. -/
theorem sendsInOrder_runToDepth (loaded : suite.cases.Loaded) (plain : suite.cases.Plain)
    (depth : Nat) {id : String} {s t : Session} {r : Except (Stop RunError) Report}
    (h : Yields (runToDepth suite depth id) s r t) :
    SendsInOrder suite.cases id s r t := by
  refine runToDepth_induct (SendsInOrder suite.cases) ?_ ?_ ?_ depth h
  · exact fun id s e _ => ⟨[], .refl s, List.nil_prefix, fun report hr => (by cases hr)⟩
  · intro id entry outcome report s u hf run hv grounded
    obtain ⟨ids, sends, hprefix, hall⟩ := run.sendsInOrder loaded plain hf grounded
    refine ⟨ids, sends, hprefix, fun report' hr hp => hall ?_⟩
    cases hr
    exact Stop.lift_eq_ok_iff.mpr (Verdict.ofOutcome_eq_passed_iff.mp (hv ▸ hp))
  · intro id entry q unfit s u hf run grounded
    obtain ⟨ids, sends, hprefix, -⟩ := run.sendsInOrder loaded plain hf grounded
    exact ⟨ids, sends, hprefix, fun report hr => (by cases hr)⟩

/-- **Cases run depth first, before the case that needs them.** Let no id and no reference
hold a placeholder, and let neither a cycle nor a missing case be reachable from a case in
the graph. Then the order of that case, and of every case that it reaches, is the orders of
the cases that it needs, one after the other, and the case itself; and the cases whose
requests are handed to a transport while the case is run are a beginning of its order, and
the whole of it if the case passes.

The first part determines the order, so one need not know how it is computed. A case that
is needed twice is in it twice, and is run again. -/
theorem Suite.run_in_order (suite : Suite) (id : String) (s : Session)
    (loaded : suite.cases.Loaded) (plain : suite.cases.Plain)
    (complete : ∀ d, suite.cases.Reaches id d → suite.cases.contains d = true)
    (acyclic : ∀ d, suite.cases.Reaches id d → ¬ suite.cases.Circular d) :
    (∀ d, suite.cases.Reaches id d →
        suite.cases.order d = (suite.cases.needs d).flatMap suite.cases.order ++ [d])
      ∧ ∃ ids, Journal.senders (suite.after id s).journal
          = ids.reverse ++ Journal.senders s.journal
        ∧ ids <+: suite.cases.order id
        ∧ ∀ report, suite.outcome id s = .ok report → report.verdict = .passed →
          ids = suite.cases.order id := by
  have grounded : suite.cases.Grounded id :=
    CaseIndex.grounded_iff.mpr fun d hd => ⟨complete d hd, acyclic d hd⟩
  refine ⟨fun d hd => (grounded.of_reaches hd).order_eq, ?_⟩
  exact sendsInOrder_runToDepth loaded plain _ (yields_run (suite.run id) s) grounded

/-- A case that needs another: at most the other is sent, and then the case
itself. -/
theorem Suite.run_in_order_of_two :
    let suite : Suite := .answering (.pair ["b"] [])
    suite.cases.Loaded ∧ suite.cases.Plain
      ∧ (∀ d, suite.cases.Reaches "a" d → suite.cases.contains d = true)
      ∧ (∀ d, suite.cases.Reaches "a" d → ¬ suite.cases.Circular d)
      ∧ suite.cases.order "a" = ["b", "a"]
      ∧ ∃ ids, Journal.senders (suite.after "a" .fresh).journal = ids.reverse ++ []
        ∧ ids <+: ["b", "a"] := by
  intro suite
  have loaded : suite.cases.Loaded := CaseIndex.pair_loaded ["b"] []
  have plain : suite.cases.Plain := by
    show (CaseIndex.pair ["b"] []).Plain
    unfold CaseIndex.Plain
    decide
  have second : suite.cases.Grounded "b" := .intro rfl fun b hb => (by cases hb)
  have first : suite.cases.Grounded "a" := by
    refine .intro rfl fun b hb => ?_
    obtain rfl := List.mem_singleton.mp hb
    exact second
  have reached := CaseIndex.grounded_iff.mp first
  have complete := fun d hd => (reached d hd).1
  have acyclic := fun d hd => (reached d hd).2
  have order : suite.cases.order "a" = ["b", "a"] := rfl
  obtain ⟨-, ids, sends, hprefix, -⟩ :=
    run_in_order suite "a" .fresh loaded plain complete acyclic
  exact ⟨loaded, plain, complete, acyclic, order, ids, sends, order ▸ hprefix⟩

end CaseRunner
