import CaseRunner.Proofs.Session.Nesting
import CaseRunner.Proofs.Session.References

/-!
# Cycles are refused, and nothing else is

A reference may be refused because it leads a case to itself, to a case that needs the
present one, or to a case that is being run. Each of these is found by looking at a single
reference; that together they are exact is a matter of the whole run. Every case on the
stack leads to the present one in the graph, so that a reference is only refused where it
closes a cycle; and a case passes, or gets as far as sending its request, only if it is
grounded, because all the cases that it needs must have passed before.

The two directions are shown by two relations that runs preserve (`Admits`, `Earns`). They
have little in common. The first is about the stack and about every check; the second needs
nothing of what the checks do, and only that a case is sent after those that it needs have
passed.
-/

namespace CaseRunner

open Relation

variable {suite : Suite} {cases : CaseIndex}

/-! ## Nothing is refused without a cycle -/

/-- A reference that is refused although it closes no cycle leads to a missing case. The
three ways to close one are the three hypotheses. -/
theorem unknown_of_checkDependency {active : List String} {current id : String}
    {fault : DependencyFault} (h : checkDependency cases active current id = .error fault)
    (hself : id ≠ current) (hback : current ∉ cases.needs id) (hactive : id ∉ active) :
    fault = .unknown current id := by
  unfold checkDependency at h
  rw [if_neg hself] at h
  cases hf : cases.find? id with
  | none => rw [hf] at h; cases h; rfl
  | some entry =>
    rw [CaseIndex.needs_of_find? hf] at hback
    rw [hf] at h
    dsimp only at h
    rw [if_neg hback, if_neg hactive] at h
    cases h

/-- References are refused only because a case is missing. -/
abbrev OnlyMissing (x : Happening) : Prop :=
  ∀ a b fault, x = .checked a b (.error fault) → fault = .unknown a b

theorem Session.Quietly.onlyMissing {s t : Session} (h : Session.Quietly s t) :
    Session.Adds OnlyMissing s t := by
  refine h.adds.mono fun x hx => ?_
  rintro a b fault rfl
  cases hx

section Admits

/-- **Where no cycle can be reached nothing is refused** but references to missing cases:
while a case is run that all cases on the stack lead to. That they do is what the induction
carries, and it is what makes a case on the stack a cycle if it is referred to. -/
abbrev Admits (cases : CaseIndex) (start : String) : CaseRelation := fun id s r t =>
  Under (Stop.Crashes r)
    (fun active => cases.Reaches start id ∧ ∀ a ∈ active, TransGen cases.Needs a id)
    (Session.Adds OnlyMissing) s t

/-- All cases on the stack lead to the present one, which is on the stack by then itself;
hence a way may have no edge here, while before it had at least one. -/
abbrev AdmitsBelow (cases : CaseIndex) (start current : String) (crashed : Prop) :
    Session → Session → Prop :=
  Under crashed (fun active => cases.Reaches start current
      ∧ ∀ a ∈ active, cases.Reaches a current)
    (Session.Adds OnlyMissing)

variable {start id : String}

/-- **The references of a case are admitted**, if they are edges of the graph and the case
is on no cycle. -/
theorem Follows.admitsBelow (acyclic : ∀ d, cases.Reaches start d → ¬ cases.Circular d)
    {current : String} {ids : List String} {s t : Session} {r : Except (Stop RunError) Unit}
    (h : Follows cases (Admits cases start) current ids s r t)
    (hids : ∀ b ∈ ids, cases.Needs current b) :
    AdmitsBelow cases start current (Stop.Crashes r) s t := by
  refine h.under (fun _ _ _ => .trans) (fun _ _ turns _ => turns.onlyMissing) ?_ ?_
  · rintro id hid s fault check ⟨reached, hactive⟩
    refine .noting fun a b fault' hx => ?_
    cases hx
    have step : cases.Needs current id := hids id hid
    -- refused for another reason, it would close a cycle: of one edge, of two
    -- edges, or one that leads through the stack
    refine unknown_of_checkDependency check ?_ ?_ ?_
    · rintro rfl
      exact acyclic _ reached (.single step)
    · exact fun hback => acyclic _ reached (.head step (.single hback))
    · intro ha
      exact acyclic _ reached (.head' step (hactive id (List.mem_reverse.mp ha)))
  · intro id hid s r t _ run
    refine ⟨run.restores, fun ⟨reached, hactive⟩ => ?_⟩
    have checked : Session.Adds OnlyMissing s (s.noting (.checked current id (.ok ()))) :=
      .noting fun a b fault hx => (by cases hx)
    have step : cases.Needs current id := hids id hid
    refine checked.trans (run.holds ⟨reached.tail step, fun a ha => ?_⟩)
    exact .tail' (hactive a ha) step

/-- So they are in an execution, as without placeholders its references are the edges. -/
theorem Performs.admitsBelow (acyclic : ∀ d, suite.cases.Reaches start d →
      ¬ suite.cases.Circular d) (loaded : suite.cases.Loaded) (plain : suite.cases.Plain)
    {entry : CaseEntry} (hf : suite.cases.find? id = some entry) {s t : Session}
    {o : Except (Stop RunError) (Option String)}
    (h : Performs suite (Admits suite.cases start) entry s o t) :
    AdmitsBelow suite.cases start id (Stop.Crashes o) s t := by
  refine h.under (fun _ _ _ => .trans) (fun _ _ turns _ => turns.onlyMissing) ?_ ?_
  · intro step s r t reading setup
    obtain ⟨hid, hneeds⟩ := reading.of_plain loaded plain hf
    rw [hid, hneeds] at setup
    exact Follows.admitsBelow acyclic setup fun b hb => hb
  · exact fun s request _ => .noting fun a b fault hx => (by cases hx)

/-- **Every run admits all references** but those to missing cases, if no cycle can be
reached. -/
theorem admits_runToDepth (acyclic : ∀ d, suite.cases.Reaches start d →
      ¬ suite.cases.Circular d) (loaded : suite.cases.Loaded) (plain : suite.cases.Plain)
    (depth : Nat) {s t : Session} {r : Except (Stop RunError) Report}
    (h : Yields (runToDepth suite depth id) s r t) :
    Admits suite.cases start id s r t := by
  have noted : ∀ {s : Session} {x : Happening}, (∀ a b answer, x ≠ .checked a b answer) →
      Session.Adds OnlyMissing s (s.noting x) :=
    fun hx => .noting fun a b fault h => absurd h (hx a b _)
  -- a case is the end of all ways to it, once it is on the stack itself
  have below : ∀ {id : String} {active : List String}, suite.cases.Reaches start id
      ∧ (∀ a ∈ active, TransGen suite.cases.Needs a id) →
      suite.cases.Reaches start id ∧ ∀ a ∈ id :: active, suite.cases.Reaches a id := by
    rintro id active ⟨reached, hactive⟩
    refine ⟨reached, List.forall_mem_cons.mpr ⟨.refl, fun a ha => ?_⟩⟩
    exact (hactive a ha).to_reflTransGen
  refine runToDepth_induct (Admits suite.cases start) ?_ ?_ ?_ depth h
  · exact fun _ s _ => ⟨fun _ => rfl, fun _ => .of_eq rfl⟩
  · intro id entry outcome report s u hf run _
    have inside := Performs.admitsBelow acyclic loaded plain hf run
    refine (inside.of_not (Stop.not_crashes_lift _)).of_execution fun hs => ⟨below hs, ?_⟩
    intro _ inside
    exact (noted (by simp)).trans
      (inside.trans ((noted (by simp)).trans (noted (by simp))))
  · intro id entry q unfit s u hf run
    refine .of_crash (Stop.crashes_crash unfit)
      (Performs.admitsBelow acyclic loaded plain hf run) fun hs => ⟨below hs, ?_⟩
    exact fun inside => (noted (by simp)).trans inside

end Admits

/-! ## Only what is grounded passes -/

section Grounded

/-- Requests are sent only for grounded cases. -/
abbrev OnlyGrounded (cases : CaseIndex) (x : Happening) : Prop :=
  ∀ a request, x = .sent (some a) request → cases.Grounded a

/-- **Only grounded cases pass or send requests.** To be grounded is an inductive property
of the graph: all the cases that are needed are loaded and grounded. So neither a cycle nor
a missing case can be reached from a grounded case, however far one goes. -/
structure Earns (cases : CaseIndex) (id : String) (s : Session)
    (r : Except (Stop RunError) Report) (t : Session) : Prop where
  /-- A case that passes is grounded. -/
  passed : ∀ report, r = .ok report → report.verdict = .passed → cases.Grounded id
  /-- So is every case that gets as far as sending its request. -/
  senders : Session.Adds (OnlyGrounded cases) s t

theorem Session.Quietly.onlyGrounded {s t : Session} (h : Session.Quietly s t) :
    Session.Adds (OnlyGrounded cases) s t := by
  refine h.adds.mono fun x hx => ?_
  rintro a request rfl
  cases hx

theorem onlyGrounded_noting {s : Session} {x : Happening}
    (hx : ∀ a request, x ≠ .sent (some a) request) :
    Session.Adds (OnlyGrounded cases) s (s.noting x) :=
  .noting fun a request h => absurd h (hx a request)

/-- Once all references are followed, all their cases have passed. -/
theorem Follows.grounded {current : String} {ids : List String} {s t : Session}
    (h : Follows cases (Earns cases) current ids s (.ok ()) t) :
    ∀ b ∈ ids, cases.Grounded b := by
  generalize hr : (Except.ok () : Except (Stop RunError) Unit) = r at h
  induction h with
  | done => simp
  | stopped | refused | crashed | broken => cases hr
  | quiet _ _ ih => exact ih hr
  | passed check run verdict _ ih =>
    exact List.forall_mem_cons.mpr ⟨run.passed _ rfl verdict, ih hr⟩

theorem Follows.onlyGrounded {current : String} {ids : List String} {s t : Session}
    {r : Except (Stop RunError) Unit} (h : Follows cases (Earns cases) current ids s r t) :
    Session.Adds (OnlyGrounded cases) s t := by
  refine h.along (fun _ _ => Session.Quietly.onlyGrounded) ?_ ?_
  · exact fun _ _ _ _ _ => onlyGrounded_noting (by simp)
  · exact fun _ _ _ _ _ _ run => (onlyGrounded_noting (by simp)).trans run.senders

/-- A case whose setup is done is grounded. For its setup has followed all of its
references, and each of them leads to a case that has passed. -/
theorem CaseEntry.Reads.grounded (loaded : suite.cases.Loaded) (plain : suite.cases.Plain)
    {id : String} {entry : CaseEntry} (hf : suite.cases.find? id = some entry)
    {step : Step} (reading : entry.Reads suite step) {s t : Session}
    (setup : Follows suite.cases (Earns suite.cases) step.caseId step.needs s (.ok ())
      t) :
    suite.cases.Grounded id := by
  obtain ⟨-, hneeds⟩ := reading.of_plain loaded plain hf
  refine .intro (by rw [CaseIndex.contains, hf]; rfl) fun b hb => ?_
  exact setup.grounded b (hneeds ▸ hb)

/-- **An execution that passes is of a grounded case**, and so is one that sends a request;
either has its setup behind it. -/
theorem Performs.earns (loaded : suite.cases.Loaded) (plain : suite.cases.Plain)
    {id : String} {entry : CaseEntry} (hf : suite.cases.find? id = some entry)
    {s t : Session} {o : Except (Stop RunError) (Option String)}
    (h : Performs suite (Earns suite.cases) entry s o t) :
    (o = .ok none → suite.cases.Grounded id)
      ∧ Session.Adds (OnlyGrounded suite.cases) s t := by
  cases h with
  | unready turns ending => exact ⟨fun ho => absurd ho ending, turns.onlyGrounded⟩
  | unprepared _ turns setup =>
    exact ⟨fun ho => (by cases ho), turns.onlyGrounded.trans setup.onlyGrounded⟩
  | unsent _ turns setup making =>
    exact ⟨fun ho => (by cases ho),
      turns.onlyGrounded.trans (setup.onlyGrounded.trans making.onlyGrounded)⟩
  | sent request reading turns setup making teardown =>
    have grounded := reading.grounded loaded plain hf setup
    refine ⟨fun _ => grounded, ?_⟩
    refine turns.onlyGrounded.trans (setup.onlyGrounded.trans (making.onlyGrounded.trans
      (.trans (.noting fun a q hx => ?_) teardown.onlyGrounded)))
    cases hx
    exact CaseIndex.caseId_of_find? hf ▸ grounded

/-- **In every run only grounded cases pass or send requests.** By the induction on runs,
for which the executions inside are grounded if they pass. -/
theorem earns_runToDepth (loaded : suite.cases.Loaded) (plain : suite.cases.Plain)
    (depth : Nat) {id : String} {s t : Session} {r : Except (Stop RunError) Report}
    (h : Yields (runToDepth suite depth id) s r t) : Earns suite.cases id s r t := by
  refine runToDepth_induct (Earns suite.cases) ?_ ?_ ?_ depth h
  · exact fun id s e => ⟨fun report hr => (by cases hr), .of_eq rfl⟩
  · intro id entry outcome report s u hf run hv
    obtain ⟨hpassed, hsenders⟩ := run.earns loaded plain hf
    constructor
    · intro report' hr hp
      cases hr
      have passed := Verdict.ofOutcome_eq_passed_iff.mp (hv ▸ hp)
      exact hpassed (Stop.lift_eq_ok_iff.mpr passed)
    · exact (onlyGrounded_noting (by simp)).trans (hsenders.trans
        ((onlyGrounded_noting (by simp)).trans (onlyGrounded_noting (by simp))))
  · intro id entry q unfit s u hf run
    obtain ⟨-, hsenders⟩ := run.earns loaded plain hf
    exact ⟨fun report hr => (by cases hr), (onlyGrounded_noting (by simp)).trans hsenders⟩

end Grounded

/-! ## Runs -/

/-- **The refusal of cycles is exact.** Let no id and no reference hold a placeholder, and
let a case be run while no other is. If no cycle can be reached from it in the graph, then
no reference is ever refused, except for leading to a missing case. If a cycle or a missing
case can be reached from it, then it does not pass, and its request is never handed to a
transport.

The cycle need not go through the case that is run. It is enough that one is reached from
it, as everything that is needed on the way has to pass before. -/
theorem Suite.run_refuses_cycles (suite : Suite) (id : String) (s : Session)
    (loaded : suite.cases.Loaded) (plain : suite.cases.Plain) (h : s.active = []) :
    ((¬ ∃ d, suite.cases.Reaches id d ∧ suite.cases.Circular d) →
        Session.Adds (fun x => ∀ a b fault, x = .checked a b (.error fault) →
          fault = .unknown a b) s (suite.after id s))
      ∧ ((∃ d, suite.cases.Reaches id d
            ∧ (suite.cases.Circular d ∨ suite.cases.contains d = false)) →
          (∀ report, suite.outcome id s = .ok report → report.verdict ≠ .passed)
            ∧ Session.Adds (fun x => ∀ request, x ≠ .sent (some id) request) s
              (suite.after id s)) := by
  have ran := yields_run (suite.run id) s
  constructor
  · intro acyclic
    have admits : Admits suite.cases id id s _ _ := admits_runToDepth
      (fun d hd hc => acyclic ⟨d, hd, hc⟩) loaded plain _ ran
    exact admits.holds (h ▸ ⟨.refl, by simp⟩)
  · rintro ⟨d, hd, hbad⟩
    have notGrounded : ¬ suite.cases.Grounded id := by
      intro grounded
      obtain ⟨hc, hacyclic⟩ := CaseIndex.grounded_iff.mp grounded d hd
      rcases hbad with hbad | hbad
      · exact hacyclic hbad
      · rw [hc] at hbad
        cases hbad
    have earns := earns_runToDepth loaded plain _ ran
    refine ⟨fun report hr hp => notGrounded (earns.passed report hr hp), ?_⟩
    refine earns.senders.mono fun x hx request hsent => ?_
    exact notGrounded (hx id request hsent)

/-- Two cases that need each other: the first does not pass, and is not sent. -/
theorem Suite.run_refuses_circle :
    let suite : Suite := .answering (.pair ["b"] ["a"])
    suite.cases.Loaded ∧ suite.cases.Plain ∧ Session.fresh.active = []
      ∧ (∀ report, suite.outcome "a" .fresh = .ok report → report.verdict ≠ .passed)
      ∧ Session.Adds (fun x => ∀ request, x ≠ .sent (some "a") request) .fresh
          (suite.after "a" .fresh) := by
  intro suite
  have loaded : suite.cases.Loaded := CaseIndex.pair_loaded ["b"] ["a"]
  have plain : suite.cases.Plain := by
    show (CaseIndex.pair ["b"] ["a"]).Plain
    unfold CaseIndex.Plain
    decide
  have ab : suite.cases.Needs "a" "b" := List.mem_singleton.mpr rfl
  have ba : suite.cases.Needs "b" "a" := List.mem_singleton.mpr rfl
  obtain ⟨-, refuses⟩ := run_refuses_cycles suite "a" .fresh loaded plain rfl
  exact ⟨loaded, plain, rfl, refuses ⟨"a", .refl, .inl (.head ab (.single ba))⟩⟩

end CaseRunner
