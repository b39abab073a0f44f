import CaseRunner.Proofs.Case.Graph
import CaseRunner.Proofs.Session.Course
import Mathlib.Logic.Function.Iterate

/-!
# The nesting of cases

A case may run cases inside itself, and these again others. Which cases are
being run is read off the journal, and it is this stack that the check of a
reference looks at: no case is let through that stands in it. So the stack
never holds a case twice, and as it only ever holds loaded cases, it is
never longer than there are cases.

That is why running a case comes to an end although it is defined from
running cases: unrolled as often as there are cases and once more, the
definition never gets to the bottom, and whatever stands there does not
matter (`Suite.run_nests`).

A case is taken off the stack behind everything else that is done in it, so a crash
leaves the stack as it finds it. What is said of the stack comes in two parts therefore
(`Under`): that it is restored is said of runs that do not crash, and what holds at every
moment is said of all, for it is said of the moments that there were. The two depend on
each other. What holds at every moment of the second of two cases rests on the stack
that the first one has restored; and there is a second one only if the first has not
crashed.
-/

namespace CaseRunner

/-! ## The stack read off the journal -/

namespace Journal

variable {news before : Journal}

/-- Turns leave the stack as it is, since they neither begin nor end a case. -/
theorem active_append_of_isTurn (h : ∀ x ∈ news, x.isTurn = true) :
    active (news ++ before) = active before := by
  induction news with
  | nil => rfl
  | cons x news ih =>
    obtain ⟨hx, hnews⟩ := List.forall_mem_cons.mp h
    rw [← ih hnews]
    cases x with
    | entered | left | checked => cases hx
    | sent caseId? r => cases caseId? <;> rfl
    | moved | related | assigned | filled | measured => rfl

/-- The end of the case that was begun last takes that case off the stack, and
no other. -/
theorem active_left {id : String} {rest : List String} (h : active before = id :: rest) :
    active (.left id :: before) = rest := by
  show (if id ∈ active before then ((active before).dropWhile (· != id)).drop 1
    else active before) = rest
  rw [h, if_pos List.mem_cons_self, List.dropWhile_cons_of_neg (by simp)]
  rfl

end Journal

namespace Session

theorem active_sent (s : Session) (id? : Option String) (r : Request) :
    (s.noting (.sent id? r)).active = s.active := by
  cases id? <;> rfl

theorem active_left {s : Session} {id : String} {rest : List String}
    (h : s.active = id :: rest) : (s.noting (.left id)).active = rest :=
  Journal.active_left h

/-- Turns leave the stack alone. -/
theorem Quietly.active {s t : Session} (h : Quietly s t) : t.active = s.active := by
  obtain ⟨news, hnews, hall⟩ := h.adds
  show Journal.active t.journal = Journal.active s.journal
  rw [hnews, Journal.active_append_of_isTurn hall]

end Session

/-! ## What holds under a stack -/

/-- **The stack is kept unless there is a crash, and under a stack with a property
something holds** of the sessions before and after.

It is put as one relation, so that the inductions on the course of an execution have to be
made once only, with the stack as it was and what holds of it at the same time. -/
structure Under (crashed : Prop) (P : List String → Prop) (R : Session → Session → Prop)
    (s t : Session) : Prop where
  /-- The stack is the same before and after. -/
  restores : ¬ crashed → t.active = s.active
  /-- What holds under a stack with the property. -/
  holds : P s.active → R s t

namespace Under

variable {crashed : Prop} {P Q : List String → Prop} {R : Session → Session → Prop}
  {s t u : Session}

/-- Without a crash the stack is kept, and nothing else is said of crashes. -/
theorem of_not (h : Under crashed P R s t) (survived : ¬ crashed) : Under False P R s t :=
  ⟨fun _ => h.restores survived, h.holds⟩

theorem of_kept (h : Under False P R s t) : Under crashed P R s t :=
  ⟨fun _ => h.restores not_false, h.holds⟩

/-- **Only what has not crashed leads on to something else.** -/
theorem trans (htrans : ∀ s t u, R s t → R t u → R s u) (h : Under False P R s t)
    (h' : Under crashed P R t u) : Under crashed P R s u := by
  have kept := h.restores not_false
  refine ⟨fun survived => (h'.restores survived).trans kept, fun hs => ?_⟩
  exact htrans _ _ _ (h.holds hs) (h'.holds (kept ▸ hs))

/-- What holds of nothing happening and of two things happening in turn does so
under a stack. -/
theorem isPreorder (hrefl : ∀ s, P s.active → R s s)
    (htrans : ∀ s t u, R s t → R t u → R s u) : IsPreorder Session (Under False P R) where
  refl s := ⟨fun _ => rfl, hrefl s⟩
  trans _ _ _ := trans htrans

instance [IsPreorder Session R] : IsPreorder Session (Under False P R) :=
  isPreorder (fun s _ => refl_of R s) fun _ _ _ => trans_of R

instance [IsPreorder Session R] : UntilCrash fun crashed => Under crashed P R where
  refl s := refl_of (Under False P R) s
  trans := trans fun _ _ _ => trans_of R

/-- **An execution that takes place under a stack with the case on it is one under the
stack without.** To begin and to end a case are each other's reverse; this is where they
meet. -/
theorem of_execution {id : String} {st : CaseState}
    (h : Under False Q R (s.noting (.entered id)) t)
    (hR : P s.active → Q (id :: s.active) ∧ (t.active = id :: s.active →
      R (s.noting (.entered id)) t → R s ((t.noting (.left id)).noting (.moved id st)))) :
    Under crashed P R s ((t.noting (.left id)).noting (.moved id st)) := by
  have kept : t.active = id :: s.active := h.restores not_false
  refine ⟨fun _ => Session.active_left kept, fun hs => ?_⟩
  obtain ⟨hQ, hends⟩ := hR hs
  exact hends kept (h.holds hQ)

/-- An execution that crashes leaves the case on the stack. -/
theorem of_crash {inside : Prop} {id : String} (crash : crashed)
    (h : Under inside Q R (s.noting (.entered id)) t)
    (hR : P s.active → Q (id :: s.active) ∧ (R (s.noting (.entered id)) t → R s t)) :
    Under crashed P R s t := by
  refine ⟨fun survived => absurd crash survived, fun hs => ?_⟩
  obtain ⟨hQ, hends⟩ := hR hs
  exact hends (h.holds hQ)

end Under

section Course

variable {cases : CaseIndex} {N : CaseRelation} {current : String} {ids : List String}
  {s t : Session} {P : List String → Prop} {R : Session → Session → Prop}

/-- **Following references under a stack**: what holds of turns, of refusals, and of each
case that is let through, together with its check, holds of the whole; and the stack is
kept unless the last of the cases crashes. -/
theorem Follows.under {r : Except (Stop RunError) Unit}
    (h : Follows cases N current ids s r t)
    (htrans : ∀ s t u, R s t → R t u → R s u)
    (quiet : ∀ s t, Session.Quietly s t → P s.active → R s t)
    (refused : ∀ id ∈ ids, ∀ s fault,
      checkDependency cases s.active.reverse current id = .error fault → P s.active →
      R s (s.noting (.checked current id (.error fault))))
    (runs : ∀ id ∈ ids, ∀ s r t,
      checkDependency cases s.active.reverse current id = .ok () →
      N id (s.noting (.checked current id (.ok ()))) r t → Under (Stop.Crashes r) P R s t) :
    Under (Stop.Crashes r) P R s t := by
  have still : ∀ {s t}, Session.Quietly s t → Under False P R s t :=
    fun turns => ⟨fun _ => turns.active, quiet _ _ turns⟩
  induction h with
  | done s => exact (still .refl).of_kept
  | stopped ids s stop => exact (still .refl).of_kept
  | quiet turns _ ih => exact (still turns).trans htrans (ih refused runs)
  | refused ids e check => exact ⟨fun _ => rfl, refused _ List.mem_cons_self _ _ check⟩
  | crashed ids unfit check run =>
    have crash := runs _ List.mem_cons_self _ _ _ check run
    exact ⟨fun survived => absurd (Stop.crashes_crash unfit) survived, crash.holds⟩
  | broken ids stop check run survived turns =>
    have first := (runs _ List.mem_cons_self _ _ _ check run).of_not survived
    exact first.trans htrans (still turns).of_kept
  | passed check run verdict _ ih =>
    have first := (runs _ List.mem_cons_self _ _ _ check run).of_not (Stop.not_crashes_ok _)
    refine first.trans htrans (ih ?_ ?_)
    · exact fun id hid => refused id (List.mem_cons_of_mem _ hid)
    · exact fun id hid => runs id (List.mem_cons_of_mem _ hid)

/-- **An execution under a stack** is what its turns, its setup and the handing of its
request to a transport are. -/
theorem Performs.under {suite : Suite} {entry : CaseEntry}
    {outcome : Except (Stop RunError) (Option String)}
    (h : Performs suite N entry s outcome t)
    (htrans : ∀ s t u, R s t → R t u → R s u)
    (quiet : ∀ s t, Session.Quietly s t → P s.active → R s t)
    (setup : ∀ step s r t, entry.Reads suite step →
      Follows suite.cases N step.caseId step.needs s r t → Under (Stop.Crashes r) P R s t)
    (sent : ∀ s request, P s.active → R s (s.noting (.sent (some entry.caseId) request))) :
    Under (Stop.Crashes outcome) P R s t := by
  have still : ∀ {s t}, Session.Quietly s t → Under False P R s t :=
    fun turns => ⟨fun _ => turns.active, quiet _ _ turns⟩
  cases h with
  | unready turns => exact (still turns).of_kept
  | unprepared reading turns done =>
    have last := setup _ _ _ _ reading done
    refine (still turns).trans htrans ⟨fun survived => last.restores ?_, last.holds⟩
    exact fun ⟨q, unfit, crash⟩ => survived ⟨q, unfit, congrArg _ (Except.error.inj crash)⟩
  | unsent reading turns done making =>
    have before := (setup _ _ _ _ reading done).of_not (Stop.not_crashes_ok ())
    exact (still turns).trans htrans (before.trans htrans (still making).of_kept)
  | sent request reading turns done making teardown =>
    have before := (setup _ _ _ _ reading done).of_not (Stop.not_crashes_ok ())
    have sending (s : Session) :
        Under False P R s (s.noting (.sent (some entry.caseId) request)) :=
      ⟨fun _ => s.active_sent _ request, sent s request⟩
    refine (still turns).trans htrans (before.trans htrans ?_)
    exact (still making).trans htrans ((sending _).trans htrans (still teardown).of_kept)

end Course

/-! ## What the stack holds at every moment -/

/-- **A property of journals holds all the way** from one session to another: of the
journal at the beginning, at the end, and at every moment between them. The moments are the
journals that were there, and a journal is a beginning of all that come after it; so one
can look back from the end. -/
def Throughout (P : Journal → Prop) (s t : Session) : Prop :=
  s.journal <:+ t.journal ∧ ∀ m : Journal, s.journal <:+ m → m <:+ t.journal → P m

namespace Throughout

variable {P : Journal → Prop} {s t u : Session}

theorem refl (h : P s.journal) : Throughout P s s := by
  refine ⟨List.suffix_refl _, fun m hm hm' => ?_⟩
  rwa [hm'.eq_of_length_le hm.length_le]

theorem trans (h : Throughout P s t) (h' : Throughout P t u) : Throughout P s u := by
  refine ⟨h.1.trans h'.1, fun m hm hm' => ?_⟩
  rcases List.suffix_or_suffix_of_suffix hm' h'.1 with hmt | htm
  · exact h.2 m hm hmt
  · exact h'.2 m htm hm'

theorem noting {x : Happening} (hs : P s.journal) (hx : P (x :: s.journal)) :
    Throughout P s (s.noting x) := by
  refine ⟨List.suffix_cons _ _, fun m hm hm' => ?_⟩
  rcases List.suffix_cons_iff.mp hm' with rfl | hm'
  · exact hx
  · rwa [hm'.eq_of_length_le hm.length_le]

theorem last (h : Throughout P s t) : P t.journal := h.2 _ h.1 (List.suffix_refl _)

end Throughout

section Orderly

variable {cases : CaseIndex}

/-- The stack is in order. -/
abbrev InOrder (cases : CaseIndex) (j : Journal) : Prop :=
  cases.Orderly (Journal.active j)

/-- **The stack is kept unless there is a crash, and is in order all the way** if it is
at the beginning. -/
abbrev KeepsOrder (cases : CaseIndex) (crashed : Prop) : Session → Session → Prop :=
  Under crashed cases.Orderly (Throughout (InOrder cases))

/-- **What running a case does to the stack**: if it begins in order and does not hold the
case, it is in order all the way. This is the relation that the induction carries, and its
hypothesis is what the check of a reference has established. -/
abbrev Nests (cases : CaseIndex) : CaseRelation := fun id s r t =>
  Under (Stop.Crashes r) (fun active => id ∉ active ∧ cases.Orderly active)
    (Throughout (InOrder cases)) s t

/-- What leaves the stack alone keeps it in order. -/
theorem throughout_noting {s : Session} {x : Happening}
    (h : (s.noting x).active = s.active) (hs : cases.Orderly s.active) :
    Throughout (InOrder cases) s (s.noting x) := by
  refine .noting hs ?_
  show cases.Orderly (s.noting x).active
  rwa [h]

/-- Turns keep the stack in order at every moment, for it stays the same. -/
theorem Session.Quietly.throughout {s t : Session} (h : Session.Quietly s t)
    (hs : cases.Orderly s.active) : Throughout (InOrder cases) s t := by
  obtain ⟨news, hnews, hall⟩ := h.adds
  refine ⟨⟨news, hnews.symm⟩, fun m hm hm' => ?_⟩
  obtain ⟨later, rfl⟩ := hm
  obtain ⟨latest, hlatest⟩ := hm'
  have hlater : latest ++ later = news := by
    rwa [hnews, ← List.append_assoc, List.append_cancel_right_eq] at hlatest
  rw [InOrder, Journal.active_append_of_isTurn fun x hx => hall x ?_]
  · exact hs
  · exact hlater ▸ List.mem_append_right latest hx

/-- **Only a loaded case that is not being run is let through.** The check is passed the
stack from the outside in, which makes no difference here. -/
theorem not_mem_of_checkDependency {active : List String} {current id : String}
    (h : checkDependency cases active current id = .ok ()) :
    cases.contains id = true ∧ id ∉ active := by
  unfold checkDependency at h
  split at h
  · cases h
  cases hf : cases.find? id with
  | none => rw [hf] at h; cases h
  | some entry =>
    rw [hf] at h
    dsimp only at h
    split at h
    · cases h
    split at h
    · cases h
    · exact ⟨by rw [CaseIndex.contains, hf]; rfl, by assumption⟩

/-- The cases that follow each other inside an execution keep the stack in
order. -/
theorem Follows.keepsOrder {current : String} {ids : List String} {s t : Session}
    {r : Except (Stop RunError) Unit}
    (h : Follows cases (Nests cases) current ids s r t) :
    KeepsOrder cases (Stop.Crashes r) s t := by
  refine h.under (fun _ _ _ => .trans) (fun _ _ => Session.Quietly.throughout) ?_ ?_
  · exact fun id _ s fault _ => throughout_noting rfl
  · intro id _ s r t check run
    obtain ⟨-, hid⟩ := not_mem_of_checkDependency check
    refine ⟨run.restores, fun hs => ?_⟩
    exact (throughout_noting rfl hs).trans (run.holds ⟨List.mem_reverse.not.mp hid, hs⟩)

theorem Performs.keepsOrder {suite : Suite} {entry : CaseEntry} {s t : Session}
    {o : Except (Stop RunError) (Option String)}
    (h : Performs suite (Nests suite.cases) entry s o t) :
    KeepsOrder suite.cases (Stop.Crashes o) s t :=
  h.under (fun _ _ _ => .trans) (fun _ _ => Session.Quietly.throughout)
    (fun _ _ _ _ _ => Follows.keepsOrder)
    fun s request => throughout_noting (s.active_sent _ request)

/-- **The stack at every moment of every run.** At any depth; for this part it does not
matter whether the bottom is reached. -/
theorem nests_runToDepth (suite : Suite) (depth : Nat) {id : String} {s t : Session}
    {r : Except (Stop RunError) Report} (h : Yields (runToDepth suite depth id) s r t) :
    Nests suite.cases id s r t := by
  have begun : ∀ {id entry} {s : Session}, suite.cases.find? id = some entry →
      id ∉ s.active ∧ suite.cases.Orderly s.active →
      suite.cases.Orderly (id :: s.active)
        ∧ Throughout (InOrder suite.cases) s (s.noting (.entered id)) := by
    rintro id entry s hf ⟨hid, hs⟩
    have hc : suite.cases.contains id = true := by rw [CaseIndex.contains, hf]; rfl
    exact ⟨hs.cons hid hc, .noting hs (hs.cons hid hc)⟩
  refine runToDepth_induct (Nests suite.cases) ?_ ?_ ?_ depth h
  · exact fun _ s _ => ⟨fun _ => rfl, fun hs => .refl hs.2⟩
  · intro id entry outcome report s u hf run _
    refine (run.keepsOrder.of_not (Stop.not_crashes_lift _)).of_execution fun hs => ?_
    obtain ⟨order, first⟩ := begun hf hs
    refine ⟨order, fun hu inside => ?_⟩
    have left : suite.cases.Orderly (u.noting (.left id)).active :=
      Session.active_left hu ▸ hs.2
    have ended := inside.trans (Throughout.noting inside.last left)
    exact first.trans (ended.trans (.noting left left))
  · intro id entry q unfit s u hf run
    refine .of_crash (Stop.crashes_crash unfit) run.keepsOrder fun hs => ?_
    obtain ⟨order, first⟩ := begun hf hs
    exact ⟨order, first.trans⟩

end Orderly

/-! ## The bottom of the recursion -/

section Bottom

variable {suite : Suite} {nested nested' : String → Run Report} {active : List String}

/-- The stack holds certain cases. -/
abbrev Holding (active : List String) (s : Session) : Prop := s.active = active

/-- **Running cases does the same** while the stack holds certain cases: for every other
case that is loaded. Two ways to run cases may differ for the cases on the stack as they
like, as none of these is ever let through. -/
abbrev AgreeOutside (cases : CaseIndex) (active : List String)
    (nested nested' : String → Run Report) : Prop :=
  ∀ id, cases.contains id = true → id ∉ active →
    Agree (Holding active) (nested id) (nested' id)

theorem agree_of_keeps {α : Type} {c : Run α} (hc : Keeps Session.Quietly c) :
    Agree (Holding active) c c :=
  .of_keeps hc fun _ _ turns hs => turns.active.trans hs

theorem agree_checkReference (current location referenced : String) :
    Agree (Holding active) (Session.checkReference suite current location referenced)
      (Session.checkReference suite current location referenced) := by
  intro s hs
  obtain ⟨ht, -⟩ := Session.Yields.of_checkReference (yields_run _ s)
  refine ⟨rfl, fun _ => ?_⟩
  rw [ht]
  exact hs

/-- The check keeps a reference from whatever the stack holds, so that it does
not matter how such a case would be run. -/
theorem agree_runReference (hN : AgreeOutside suite.cases active nested nested')
    (current location : String) (reference : CaseReference) :
    Agree (Holding active) (runReference suite nested current location reference)
      (runReference suite nested' current location reference) := by
  refine (agree_checkReference current location reference.caseId).bind ?_
  intro _ s t hs hcheck
  obtain ⟨-, hok⟩ := Session.Yields.of_checkReference hcheck
  cases hc : checkDependency suite.cases s.active.reverse current reference.caseId with
  | error fault => rw [hc] at hok; cases hok
  | ok _ =>
    obtain ⟨hloaded, hid⟩ := not_mem_of_checkDependency hc
    rw [List.mem_reverse, hs] at hid
    refine (hN _ hloaded hid).bind fun report _ _ _ _ => ?_
    exact agree_of_keeps (keeps_takeReport _ _ _)

theorem agree_runSetupAction (hN : AgreeOutside suite.cases active nested nested')
    (current location : String) (action : SetupAction) :
    Agree (Holding active) (runSetupAction suite nested current location action)
      (runSetupAction suite nested' current location action) := by
  cases action with
  | testcase references => exact .forM (agree_runReference hN current location) _
  | sql statements =>
    refine agree_of_keeps (Keeps.forM (fun statement => ?_) _)
    refine (Session.keeps_queryRow suite _ _).bind fun row? => ?_
    exact Keeps.forM (fun _ => Session.keeps_relate _ _) _
  | hook source => exact agree_of_keeps (Session.keeps_runHook suite _ _)
  | waitTime seconds => exact agree_of_keeps (Session.keeps_pause _ _)

theorem agree_inSession {α : Type} {c c' : Run α} (h : Agree (Holding active) c c') :
    Agree (Holding active ∘ Progress.session) (Executing.inSession c)
      (Executing.inSession c') := by
  intro p hp
  obtain ⟨heq, hP⟩ := h p.session hp
  refine ⟨?_, hP⟩
  show ((c.run p.session).1, { p with session := (c.run p.session).2 })
    = ((c'.run p.session).1, { p with session := (c'.run p.session).2 })
  rw [heq]

theorem agree_of_keeps_executing {α : Type} {c : Executing α}
    (hc : Keeps Executing.Quietly c) : Agree (Holding active ∘ Progress.session) c c :=
  .of_keeps hc fun _ _ turns hp => (Session.Quietly.active turns).trans hp

/-- By induction on the actions. After each the stack is what it was, so the next one is
run under the same stack. -/
theorem agree_runSetup (hN : AgreeOutside suite.cases active nested nested')
    (current location : String) (i : Nat) (actions : List SetupAction) :
    Agree (Holding active ∘ Progress.session)
      (runSetup suite nested current location i actions)
      (runSetup suite nested' current location i actions) := by
  induction actions generalizing i with
  | nil => exact .pure ()
  | cons action rest ih =>
    refine (agree_inSession (agree_runSetupAction hN current _ action)).bind ?_
    intro _ _ _ _ _
    refine (agree_of_keeps_executing (Executing.keeps_note _ _)).bind ?_
    exact fun _ _ _ _ _ => ih (i + 1)

/-- Behind the setup no case is run any more, and so there is nothing to agree on. -/
theorem agree_finishEntry (entry : CaseEntry) (started : Moment) (config : Config)
    (step : Step) : Agree (Holding active ∘ Progress.session)
      (finishEntry suite entry started config step)
      (finishEntry suite entry started config step) := by
  intro p hp
  refine ⟨rfl, fun _ => ?_⟩
  rcases Yields.of_finishEntry (yields_run _ p) with
    ⟨e, -, turns⟩ | ⟨v, request, making, teardown⟩
  · exact turns.active.trans hp
  · have sent := Session.active_sent v (some entry.caseId) request
    exact teardown.active.trans (sent.trans (making.active.trans hp))

/-- An execution agrees with itself around its setup, and in the setup the cases inside
agree. -/
theorem agree_runEntry (hN : AgreeOutside suite.cases active nested nested')
    (entry : CaseEntry) : Agree (Holding active ∘ Progress.session)
      (runEntry suite nested entry) (runEntry suite nested' entry) := by
  unfold runEntry
  refine Agree.bind (agree_of_keeps_executing Keeps.get) fun _ _ _ _ _ => ?_
  refine (agree_inSession (agree_of_keeps (keeps_resolveEntry suite entry))).bind ?_
  rintro ⟨config, step⟩ _ _ _ _
  refine (agree_of_keeps_executing (keeps_beginEntry entry config step)).bind ?_
  rintro reason? _ _ _ _
  cases reason? with
  | some reason => exact .pure _
  | none =>
    refine (agree_inSession (agree_of_keeps (Session.keeps_moved _ _))).bind ?_
    intro _ _ _ _ _
    refine (agree_runSetup hN step.caseId entry.location 0 step.setup).bind ?_
    intro _ _ _ _ _
    exact (agree_finishEntry entry _ config step).bind fun _ _ _ _ _ => .pure none

/-- A case does the same if the cases do that it may run inside itself. -/
theorem agree_runLoaded {entry : CaseEntry}
    (hN : AgreeOutside suite.cases (entry.caseId :: active) nested nested') :
    Agree (Holding active) (runLoaded suite nested entry)
      (runLoaded suite nested' entry) := by
  intro s hs
  obtain ⟨heq, hactive⟩ := agree_runEntry hN entry
    ⟨s.noting (.entered entry.caseId), entry.report⟩ (congrArg (entry.caseId :: ·) hs)
  have same : (runLoaded suite nested entry).run s = (runLoaded suite nested' entry).run s := by
    rw [run_runLoaded, run_runLoaded, heq]
  refine ⟨same, fun survived => ?_⟩
  obtain ⟨ended, p, hrun, ends⟩ := (yields_run (runLoaded suite nested entry) s).of_runLoaded
  rw [show (runEntry suite nested entry).run _ = (ended, p) from hrun] at hactive
  obtain ⟨outcome, rfl, -, ht⟩ | ⟨q, unfit, -, crash, -⟩ := ends
  · rw [ht]
    exact Session.active_left (hactive (Stop.not_crashes_lift outcome))
  · exact absurd ⟨q, unfit, crash⟩ survived

/-- A case that is not loaded is not run, and one that is loaded is put on the stack. -/
theorem agree_runCase {id : String}
    (hN : AgreeOutside suite.cases (id :: active) nested nested') :
    Agree (Holding active) (runCase suite nested id) (runCase suite nested' id) := by
  unfold runCase
  cases hf : suite.cases.find? id with
  | none => exact agree_of_keeps (Keeps.throw _)
  | some entry =>
    obtain rfl := CaseIndex.caseId_of_find? hf
    exact agree_runLoaded hN

/-- **The bottom is never reached.** The deeper inside other cases a case is run, the fewer
are left that it may still run: what stands at the bottom would be run inside more cases
than there are.

By induction on how often the definition is unrolled, where each unrolling puts a case on
the stack. What grows with the stack is bounded by the number of cases, because the stack
is in order. -/
theorem agree_iterate (suite : Suite) (bottom bottom' : String → Run Report) (n : Nat)
    {active : List String} (ho : suite.cases.Orderly active)
    (hn : suite.cases.size < n + active.length) :
    AgreeOutside suite.cases active ((runCase suite)^[n] bottom)
      ((runCase suite)^[n] bottom') := by
  induction n generalizing active with
  | zero =>
    -- a stack in order is not longer than there are cases
    have := ho.length_le
    omega
  | succ n ih =>
    intro id hc hid
    rw [Function.iterate_succ_apply', Function.iterate_succ_apply']
    refine agree_runCase (ih (ho.cons hid hc) ?_)
    rw [List.length_cons]
    omega

/-- Unrolled more often than there are cases, the definition does not get to its
bottom. -/
theorem run_iterate_eq (suite : Suite) (bottom bottom' : String → Run Report) {n : Nat}
    (hn : suite.cases.size < n) (id : String) {s : Session} (hs : s.active = []) :
    ((runCase suite)^[n] bottom id).run s = ((runCase suite)^[n] bottom' id).run s := by
  by_cases hc : suite.cases.contains id = true
  · have agree : AgreeOutside suite.cases [] _ _ :=
      agree_iterate suite bottom bottom' n .nil (by simpa using hn)
    exact (agree id hc List.not_mem_nil s hs).1
  · obtain ⟨m, rfl⟩ : ∃ m, n = m + 1 := ⟨n - 1, by omega⟩
    have hf : suite.cases.find? id = none := by
      simpa [CaseIndex.contains] using hc
    rw [Function.iterate_succ_apply', Function.iterate_succ_apply']
    simp only [runCase, hf]

theorem runToDepth_eq_iterate (suite : Suite) (depth : Nat) :
    runToDepth suite depth = (runCase suite)^[depth] (runToDepth suite 0) := by
  induction depth with
  | zero => rfl
  | succ depth ih =>
    rw [Function.iterate_succ_apply', ← ih]
    rfl

/-- So it does what running the case does. -/
theorem run_iterate_bottom (suite : Suite) (bottom : String → Run Report) {n : Nat}
    (hn : suite.cases.size < n) (id : String) {s : Session} (hs : s.active = []) :
    ((runCase suite)^[n] bottom id).run s = (suite.run id).run s := by
  obtain ⟨k, rfl⟩ := Nat.exists_eq_add_of_le (Nat.succ_le_of_lt hn)
  rw [Function.iterate_add_apply,
    run_iterate_eq suite _ (runToDepth suite 0) (Nat.lt_succ_self _) id hs,
    ← runToDepth_eq_iterate]
  rfl

end Bottom

/-! ## Runs -/

namespace Suite

/-- **Running a case comes to an end and leaves no case on the stack.** Begun while no case
is being run, it does the same whatever stands at the bottom of its definition, once this
is unrolled more often than there are cases. Afterwards the stack is as it was before,
however the case ended, if it did not crash. At every moment of the run, also of one that
crashes, the stack holds loaded cases, none of them twice, and so no more than there are.

The first part is how termination is said here: a definition that runs cases inside cases
has no bottom, and it comes to an end because none is ever asked for. -/
theorem run_nests (suite : Suite) (id : String) (s : Session) (h : s.active = []) :
    (∀ n, suite.cases.size < n → ∀ bottom : String → Run Report,
        ((runCase suite)^[n] bottom id).run s = (suite.outcome id s, suite.after id s))
      ∧ (¬ Stop.Crashes (suite.outcome id s) → (suite.after id s).active = s.active)
      ∧ s.journal <:+ (suite.after id s).journal
      ∧ ∀ m : Journal, s.journal <:+ m → m <:+ (suite.after id s).journal →
        (Journal.active m).Nodup
          ∧ (∀ a ∈ Journal.active m, suite.cases.contains a = true)
          ∧ (Journal.active m).length ≤ suite.cases.size := by
  have nests := nests_runToDepth suite _ (yields_run (suite.run id) s)
  have inOrder := nests.holds (h ▸ ⟨List.not_mem_nil, .nil⟩)
  refine ⟨fun n hn bottom => run_iterate_bottom suite bottom hn id h, nests.restores,
    inOrder.1, fun m hm hm' => ?_⟩
  have holds := inOrder.2 m hm hm'
  exact ⟨holds.nodup, holds.loaded, holds.length_le⟩

/-- Two cases that need each other: however often the one leads to the other, no
more than two are being run. -/
theorem run_nests_of_circle :
    Session.fresh.active = [] ∧ ∀ m : Journal,
      m <:+ ((Suite.answering (.pair ["b"] ["a"])).after "a" .fresh).journal →
        (Journal.active m).length ≤ 2 := by
  have h : Session.fresh.active = [] := rfl
  obtain ⟨-, -, -, holds⟩ := run_nests (.answering (.pair ["b"] ["a"])) "a" .fresh h
  exact ⟨h, fun m hm => (holds m List.nil_suffix hm).2.2⟩

end Suite

end CaseRunner
