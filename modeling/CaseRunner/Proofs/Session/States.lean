import CaseRunner.Proofs.Session.Crashing
import CaseRunner.Proofs.Session.References

/-!
# How far the cases on the stack have come

A case is begun, does its setup, makes its request, and has ended; it is meant to be under
way only while it stands on the stack. What the journal tells of a run keeps to an order
(`InPlace`): only the case that was begun last ends, its last state is told at once, and
only it tells that it is under way. But it is told under the id that the step has once its
placeholders are replaced, while the case stands on the stack, and comes to its last state,
under the id that it was loaded with. So the states fit the stack as long as what is told
is told of a case on the stack (`Suite.states_fit_iff`), and always where the ids of cases
hold no placeholders. Where they do, a case may be said to be under way that never was, and
remain so (`Suite.states_unfit`).

The proof has two halves. That everything happens in its place is true of all runs, and is
shown along the run (`goes_runToDepth`). What follows for the states is a matter of the
journal alone, and is shown by induction on it (`Tracked.cons`); no run is mentioned there.

A run that crashes keeps to the order as far as it goes. The cases in which it was are
still on the stack and under way at the end, and so the states fit even then.
-/

namespace CaseRunner

open Executing

/-- Is a case under way that has come so far? -/
def CaseState.isUnderway : CaseState → Bool
  | .resolvingDependencies | .executing => true
  | .pending | .done => false

namespace Journal

/-- Was a case taken off the stack just now, and its last state is still to be told? These
two are told one directly after the other, and between them the states do not fit. -/
def isLeaving : Journal → Bool
  | .left _ :: _ => true
  | _ => false

/-- **The states fit the stack.** The second part follows from the first, and is what one
sees from outside: when all is done, no case is under way. -/
structure StatesFit (j : Journal) : Prop where
  /-- A case that is under way is on the stack. -/
  underway : ∀ id, state id j = .resolvingDependencies ∨ state id j = .executing →
    id ∈ active j
  /-- While no case is being run, each has not been started or has ended. -/
  idle : active j = [] → ∀ id, state id j = .pending ∨ state id j = .done

/-- That the states fit is a single condition: what is under way is on the stack. -/
theorem statesFit_iff {j : Journal} :
    j.StatesFit ↔ ∀ id, (state id j).isUnderway = true → id ∈ active j := by
  constructor
  · intro h id hid
    refine h.underway id ?_
    cases hst : state id j with
    | resolvingDependencies => exact .inl rfl
    | executing => exact .inr rfl
    | pending | done =>
      rw [hst] at hid
      cases hid
  · intro h
    refine ⟨fun id hid => h id ?_, fun idle id => ?_⟩
    · rcases hid with hid | hid <;> rw [hid] <;> rfl
    · cases hst : state id j with
      | pending => exact .inl rfl
      | done => exact .inr rfl
      | resolvingDependencies | executing =>
        have := h id (by rw [hst]; rfl)
        rw [idle] at this
        cases this

end Journal

open Journal

/-! ## What is told one after the other -/

/-- **Something happens in its place** after what has happened before. It is a condition on
a happening and the journal before it, so it can be looked at for one happening at a time.
-/
structure InPlace (suite : Suite) (x : Happening) (before : Journal) : Prop where
  /-- Only the case that was begun last ends. -/
  left : ∀ id, x = .left id → (active before).head? = some id
  /-- The last state of a case that has ended is told before anything else. -/
  done : ∀ id earlier, before = .left id :: earlier → x = .moved id .done
  /-- Only the case that was begun last tells that it is under way, under an id that
  its step may have. -/
  underway : ∀ id st, x = .moved id st → st.isUnderway = true → ∃ entry step,
    (active before).head? = some entry.caseId
      ∧ suite.cases.find? entry.caseId = some entry
      ∧ entry.Reads suite step ∧ step.caseId = id

/-- **All that happens from one journal to another** has a property, given what has
happened before. The two journals are a beginning and an end, and the property is one of
each step between them. -/
def StepByStep (P : Happening → Journal → Prop) (j k : Journal) : Prop :=
  j <:+ k ∧ ∀ x m, j <:+ m → (x :: m) <:+ k → P x m

namespace StepByStep

variable {P : Happening → Journal → Prop} {j k l : Journal}

theorem refl (j : Journal) : StepByStep P j j := by
  refine ⟨List.suffix_refl j, fun x m hm hx => ?_⟩
  have := hm.length_le
  have := hx.length_le
  rw [List.length_cons] at this
  omega

theorem cons {x : Happening} (h : StepByStep P j k) (hx : P x k) : StepByStep P j (x :: k) := by
  refine ⟨h.1.trans (List.suffix_cons x k), fun y m hm hy => ?_⟩
  rcases List.suffix_cons_iff.mp hy with heq | hy
  · cases heq
    exact hx
  · exact h.2 y m hm hy

theorem trans (h : StepByStep P j k) (h' : StepByStep P k l) : StepByStep P j l := by
  refine ⟨h.1.trans h'.1, fun x m hm hx => ?_⟩
  rcases List.suffix_or_suffix_of_suffix hx h'.1 with hk | hk
  · exact h.2 x m hm hk
  rcases List.suffix_cons_iff.mp hk with rfl | hk
  · exact h.2 x m hm (List.suffix_refl _)
  · exact h'.2 x m hk hx

end StepByStep

section Places

variable {suite : Suite} {x : Happening} {before : Journal}

/-- What tells of no end and of no state has its place anywhere. -/
theorem InPlace.of_other (still : before.isLeaving = false) (hleft : ∀ id, x ≠ .left id)
    (hmoved : ∀ id st, x ≠ .moved id st) : InPlace suite x before := by
  refine ⟨fun id h => absurd h (hleft id), fun id earlier h => ?_,
    fun id st h => absurd h (hmoved id st)⟩
  rw [h] at still
  cases still

end Places

/-! ## Runs keep to the order -/

/-- **Everything happens in its place**, if the last state of each case that has ended is
told; and then it is so again. The hypothesis cannot be left out, as what is told first
must not come between an end and a last state. -/
def Proceeds (suite : Suite) (s t : Session) : Prop :=
  s.journal.isLeaving = false →
    t.journal.isLeaving = false ∧ StepByStep (InPlace suite) s.journal t.journal

section Proceeding

variable {suite : Suite} {s t : Session} {x : Happening}

instance : IsPreorder Session (Proceeds suite) where
  refl s := fun still => ⟨still, .refl s.journal⟩
  trans _ _ _ h h' := fun still =>
    have first := h still
    have second := h' first.1
    ⟨second.1, first.2.trans second.2⟩

theorem proceeds_noting (hleft : ∀ id, x ≠ .left id) (hmoved : ∀ id st, x ≠ .moved id st) :
    Proceeds suite s (s.noting x) := by
  intro still
  refine ⟨?_, (StepByStep.refl s.journal).cons (.of_other still hleft hmoved)⟩
  cases x with
  | left id => exact absurd rfl (hleft id)
  | entered | moved | checked | related | assigned | filled | sent | measured => rfl

/-- What brings no case to a state and ends none has its place anywhere. -/
theorem proceeds_of_adds (h : Session.Adds (·.isAside = true) s t) : Proceeds suite s t := by
  obtain ⟨news, hnews, hall⟩ := h
  induction news generalizing t with
  | nil =>
    intro still
    rw [hnews]
    exact ⟨still, .refl s.journal⟩
  | cons x news ih =>
    obtain ⟨hx, hrest⟩ := List.forall_mem_cons.mp hall
    have before : Proceeds suite s { t with journal := news ++ s.journal } := ih rfl hrest
    have told : Proceeds suite { t with journal := news ++ s.journal }
        { t with journal := x :: (news ++ s.journal) } :=
      proceeds_noting (fun id h => by rw [h] at hx; cases hx)
        (fun id st h => by rw [h] at hx; cases hx)
    have both := trans_of (Proceeds suite) before told
    unfold Proceeds at both ⊢
    rwa [hnews]

/-- The stack is kept unless there is a crash, and under a stack with a property
everything happens in its place. -/
abbrev Goes (suite : Suite) (P : List String → Prop) (crashed : Prop) :
    Session → Session → Prop :=
  Under crashed P (Proceeds suite)

variable {P : List String → Prop}

instance : Session.TurnsAlong (Goes suite P False) where
  along turn adds :=
    ⟨fun _ => Session.Quietly.active (.single turn), fun _ => proceeds_of_adds adds⟩

/-- Under whatever stack, so under one with a property. -/
theorem Under.of_anywhere {crashed : Prop} {R : Session → Session → Prop}
    (h : Under crashed (fun _ => True) R s t) : Under crashed P R s t :=
  ⟨h.restores, fun _ => h.holds trivial⟩

/-- What makes turns alone is as good with crashes as without: before a crash, too,
everything has happened in its place. -/
theorem goes_of_keeps {α : Type} {c : Run α} (hc : Keeps (Goes suite P False) c) :
    Leads (Goes suite P) c :=
  .of_keeps hc fun _ _ _ h => h.of_kept

theorem goes_inside_of_keeps {α : Type} {c : Executing α}
    (hc : Keeps (OnSession (Goes suite P False)) c) : Leads (OnSessions (Goes suite P)) c :=
  .of_keeps hc fun _ _ _ h => h.of_kept

end Proceeding

section Runs

variable {suite : Suite} {nested : String → Run Report} {entry : CaseEntry} {step : Step}
  {P : List String → Prop}

theorem goes_checkReference (current location id : String) :
    Keeps (Goes suite P False) (Session.checkReference suite current location id) := by
  intro s r t h
  obtain ⟨rfl, -⟩ := Session.Yields.of_checkReference h
  exact ⟨fun _ => rfl, fun _ => proceeds_noting (by simp) (by simp)⟩

theorem goes_send (id : String) (request : Request) :
    Keeps (Goes suite P False) (Session.send suite (some id) request) := by
  intro s r t h
  have told : Goes suite P False s (s.noting (.sent (some id) request)) :=
    ⟨fun _ => rfl, fun _ => proceeds_noting (by simp) (by simp)⟩
  exact trans_of (Goes suite P False) told (Session.along_of_send h)

section Setup

variable (hN : ∀ id, Leads (Goes suite fun _ => True) (nested id))

include hN

theorem goes_runSetupAction (current location : String) (action : SetupAction) :
    Leads (Goes suite P) (runSetupAction suite nested current location action) := by
  cases action with
  | testcase references =>
    refine Leads.forM (fun reference => ?_) _
    refine (goes_of_keeps (goes_checkReference current location _)).bind fun _ => ?_
    refine Leads.bind (fun s r t h => (hN _ s r t h).of_anywhere) fun report => ?_
    exact goes_of_keeps (keeps_takeReport location reference report)
  | sql statements =>
    refine goes_of_keeps (Keeps.forM (fun statement => ?_) _)
    refine (Session.keeps_queryRow suite location statement).bind fun row? => ?_
    exact Keeps.forM (fun _ => Session.keeps_relate _ _) _
  | hook source => exact goes_of_keeps (Session.keeps_runHook suite location source)
  | waitTime seconds => exact goes_of_keeps (Session.keeps_pause location seconds)

theorem goes_runSetup (current location : String) (i : Nat) (actions : List SetupAction) :
    Leads (OnSessions (Goes suite P)) (runSetup suite nested current location i actions) := by
  rw [runSetup_eq]
  refine leads_runActions (fun _ action => ?_) location i actions
  exact leads_inSession (goes_runSetupAction hN current _ action)

end Setup

/-- **A case that is being run tells that it is under way.** Here the stack comes in: the
case that tells it is the one that was begun last, which is why the stack has to be
restored by all cases inside. -/
theorem goes_moved (hf : suite.cases.find? entry.caseId = some entry)
    (reading : entry.Reads suite step) (st : CaseState) :
    Keeps (Goes suite (fun active => active.head? = some entry.caseId) False)
      (Session.record (.moved step.caseId st)) := by
  intro s r t h
  obtain ⟨-, rfl⟩ := Session.yields_record_iff.mp h
  refine ⟨fun _ => rfl, fun first still => ⟨rfl, (StepByStep.refl s.journal).cons ?_⟩⟩
  refine ⟨nofun, fun id earlier h => ?_, fun id st' h _ => ?_⟩
  · rw [h] at still
    cases still
  · cases h
    exact ⟨entry, step, first, hf, reading, rfl⟩

/-- Behind its setup a case is still the one that was begun last, and it tells that it is
executing. -/
theorem goes_finishEntry (hf : suite.cases.find? entry.caseId = some entry)
    (reading : entry.Reads suite step) (started : Moment) (config : Config) :
    Keeps (OnSession (Goes suite (fun active => active.head? = some entry.caseId) False))
      (finishEntry suite entry started config step) := by
  have making : Keeps (Goes suite (fun active => active.head? = some entry.caseId) False)
      (makeRequest suite entry.location config step) := by
    refine (keeps_fillRelations entry.location step.request).bind fun d => ?_
    refine (goes_moved hf reading .executing).bind fun _ => ?_
    exact (keeps_readRequest suite _ config d).bind fun request => keeps_authorize suite request
  refine (keeps_inSession making).bind fun request => (keeps_amend _).bind fun _ => ?_
  refine (keeps_inSession (goes_send entry.caseId request)).bind fun raw => ?_
  refine (keeps_note _ _).bind fun _ => (keeps_amend _).bind fun _ => ?_
  refine (keeps_clockReply started).bind fun _ => ?_
  refine (keeps_outcome (keeps_runTeardown suite _ _ _)).bind fun ending => ?_
  refine (keeps_clockReply started).bind fun _ => ?_
  exact keeps_inSession (Session.keeps_result ending)

/-- **Everything happens in its place while a case is executed.** Before its setup and
behind it the case tells how far it has come; in between the cases inside have put
themselves on the stack and left it again. -/
theorem goes_runEntry (hN : ∀ id, Leads (Goes suite fun _ => True) (nested id))
    (hf : suite.cases.find? entry.caseId = some entry) :
    Leads (OnSessions (Goes suite fun active => active.head? = some entry.caseId))
      (runEntry suite nested entry) := by
  intro p r q h
  unfold runEntry at h
  rw [yields_get_bind_iff] at h
  have reads : Leads (OnSessions (Goes suite fun active => active.head? = some entry.caseId))
      (inSession (resolveEntry suite entry)) :=
    leads_inSession (goes_of_keeps (keeps_resolveEntry suite entry))
  rcases yields_bind_iff.mp h with ⟨⟨config, step⟩, p₁, hread, hrest⟩ | ⟨stop, hread, rfl⟩
  · have reading : entry.Reads suite step :=
      ⟨_, _, _, (Executing.Yields.of_inSession hread).1⟩
    refine UntilCrash.trans (reads.of_ok hread) ?_
    refine (goes_inside_of_keeps (keeps_beginEntry entry config step)).bind
      (fun reason? => ?_) _ _ _ hrest
    cases reason? with
    | some reason => exact Leads.pure _
    | none =>
      refine (leads_inSession (goes_of_keeps (goes_moved hf reading _))).bind fun _ => ?_
      refine (goes_runSetup hN step.caseId entry.location 0 step.setup).bind fun _ => ?_
      exact (goes_inside_of_keeps (goes_finishEntry hf reading _ config)).bind
        fun _ => Leads.pure none
  · have stopped := reads _ _ _ hread
    exact ⟨fun survived => stopped.restores (mt Stop.Crashes.error survived), stopped.holds⟩

/-- **Everything happens in its place while a case is run.** Behind the execution of the
case come its end and its last state, unless it crashes, when neither comes. -/
theorem goes_runLoaded (hN : ∀ id, Leads (Goes suite fun _ => True) (nested id))
    (hf : suite.cases.find? entry.caseId = some entry) :
    Leads (Goes suite fun _ => True) (runLoaded suite nested entry) := by
  intro s r t h
  obtain ⟨ended, p, run, ends⟩ := h.of_runLoaded
  have inside := goes_runEntry hN hf _ _ _ run
  have begun : Proceeds suite s (s.noting (.entered entry.caseId)) :=
    proceeds_noting (by simp) (by simp)
  obtain ⟨outcome, rfl, -, rfl⟩ | ⟨q, unfit, -, rfl, rfl⟩ := ends
  · have inside : Under False _ _ _ _ := Under.of_not inside (Stop.not_crashes_lift outcome)
    refine inside.of_execution fun _ => ⟨rfl, fun hactive inside still => ⟨rfl, ?_⟩⟩
    obtain ⟨begins, steps⟩ := trans_of (Proceeds suite) begun inside still
    refine (steps.cons ⟨fun id h => ?_, fun id earlier h => ?_, fun id st h => ?_⟩).cons
      ⟨fun id h => ?_, fun id earlier h => ?_, fun id st h hst => ?_⟩
    · cases h
      show (Session.active _).head? = some entry.caseId
      rw [hactive]
      rfl
    · rw [h] at begins
      cases begins
    · cases h
    · cases h
    · cases h
      rfl
    · cases h
      cases hst
  · exact .of_crash (Stop.crashes_crash unfit) inside fun _ => ⟨rfl, trans_of _ begun⟩

/-- **Everything happens in its place in every run.** By induction on the depth. -/
theorem goes_runToDepth (suite : Suite) (depth : Nat) (id : String) :
    Leads (Goes suite fun _ => True) (runToDepth suite depth id) := by
  induction depth generalizing id with
  | zero => exact Leads.throw _
  | succ depth ih =>
    rw [runToDepth, runCase]
    cases hf : suite.cases.find? id with
    | none => exact Leads.throw _
    | some entry =>
      obtain rfl := CaseIndex.caseId_of_find? hf
      exact goes_runLoaded ih hf

theorem proceeds_afterAll (suite : Suite) (ids : List String) (s : Session) :
    Proceeds suite s (suite.afterAll ids s) := by
  induction ids generalizing s with
  | nil => exact refl_of (Proceeds suite) s
  | cons id ids ih =>
    have first := goes_runToDepth suite _ id s _ _ (yields_run (suite.run id) s)
    exact trans_of (Proceeds suite) (first.holds trivial) (ih (suite.after id s))

end Runs

/-! ## States along a run -/

/-- A case that is under way is on the stack, or was taken off it just now. Unlike
`Journal.StatesFit` this holds at every moment, and so it can be shown one step at a time.
-/
def Tracked (j : Journal) : Prop :=
  ∀ id, (state id j).isUnderway = true → id ∈ active j ∨ j.head? = some (.left id)

section Tracking

variable {suite : Suite} {x : Happening} {j k m : Journal}

/-- **What happens in its place leaves the cases tracked** that were, if a case is said to
be under way only while it is on the stack. -/
theorem Tracked.cons (h : Tracked m) (place : InPlace suite x m)
    (told : ∀ id st, x = .moved id st → st.isUnderway = true → id ∈ active m) :
    Tracked (x :: m) := by
  intro id hid
  by_cases ending : ∃ other, m.head? = some (.left other)
  · obtain ⟨other, hother⟩ := ending
    obtain ⟨earlier, rfl⟩ := List.head?_eq_some_iff.mp hother
    obtain rfl := place.done other earlier rfl
    -- the one case that is off the stack has come to its last state
    change (if other = id then CaseState.done else state id (.left other :: earlier)).isUnderway
      = true at hid
    split at hid
    next => cases hid
    next hne =>
      rcases h id hid with hmem | hhead
      · exact .inl hmem
      · cases hhead
        exact absurd rfl hne
  · have stands : (state id m).isUnderway = true → id ∈ active m := fun hst =>
      (h id hst).resolve_right fun hhead => ending ⟨id, hhead⟩
    cases x with
    | entered other => exact .inl (List.mem_cons_of_mem other (stands hid))
    | left other =>
      obtain ⟨rest, hrest⟩ := List.head?_eq_some_iff.mp (place.left other rfl)
      have hmem := stands hid
      rw [hrest] at hmem
      rcases List.mem_cons.mp hmem with rfl | hmem
      · exact .inr rfl
      · exact .inl (Journal.active_left hrest ▸ hmem)
    | moved other st =>
      change (if other = id then st else state id m).isUnderway = true at hid
      split at hid
      next heq => exact .inl (told id st (heq ▸ rfl) hid)
      next => exact .inl (stands hid)
    | sent id? request => exact .inl (stands hid)
    | checked | related | assigned | filled | measured => exact .inl (stands hid)

/-- So the cases are tracked at every moment, by induction on what has happened since. -/
theorem tracked_of_steps (steps : StepByStep (InPlace suite) j k) (fit : j.StatesFit)
    (told : ∀ id st m, j <:+ m → (.moved id st :: m) <:+ k → st.isUnderway = true →
      id ∈ active m) (news : Journal) (hk : (news ++ j) <:+ k) : Tracked (news ++ j) := by
  induction news with
  | nil => exact fun id hid => .inl (statesFit_iff.mp fit id hid)
  | cons x news ih =>
    have since : j <:+ news ++ j := List.suffix_append news j
    refine (ih ((List.suffix_cons x _).trans hk)).cons (steps.2 x _ since hk) ?_
    rintro id st rfl hst
    exact told id st _ since hk hst

/-- **The states fit at every moment** between two journals, if they do at the first one
and a case is said to be under way only while it is on the stack. -/
theorem statesFit_of_steps (steps : StepByStep (InPlace suite) j k) (fit : j.StatesFit)
    (told : ∀ id st m, j <:+ m → (.moved id st :: m) <:+ k → st.isUnderway = true →
      id ∈ active m)
    (hjm : j <:+ m) (hmk : m <:+ k) (still : m.isLeaving = false) : m.StatesFit := by
  obtain ⟨news, rfl⟩ := hjm
  refine statesFit_iff.mpr fun id hid => ?_
  refine (tracked_of_steps steps fit told news hmk id hid).resolve_right fun hhead => ?_
  obtain ⟨earlier, hearlier⟩ := List.head?_eq_some_iff.mp hhead
  rw [hearlier] at still
  cases still

end Tracking

/-! ## Runs of several cases -/

namespace Suite

/-- **The states fit the stack exactly as long as a case is said to be under way only
while it is on the stack.** Let cases be run one after the other in a session in which
none is being run and the states fit. Then, at whatever moment a case is said to be under
way, it is the case that was begun last which says so, under an id that its step may have
once its placeholders are replaced. The states fit at every moment, but for those at
which a case was taken off the stack just now and its last state is told next, exactly if
each id that is told so is on the stack when it is told; and they always do if no id of a
case holds placeholders. Afterwards no case is being run, if all numbers fit that came up;
for otherwise there was a crash, and the case in which it came is on the stack. -/
theorem states_fit_iff (suite : Suite) (loaded : suite.cases.Loaded) (ids : List String)
    (s : Session) (idle : s.active = []) (still : s.journal.isLeaving = false)
    (fit : s.journal.StatesFit) :
    let t := suite.afterAll ids s
    let right := ∀ m : Journal, s.journal <:+ m → m <:+ t.journal → m.isLeaving = false →
      m.StatesFit
    let onStack := ∀ id st (m : Journal), s.journal <:+ m → (.moved id st :: m) <:+ t.journal →
      st.isUnderway = true → id ∈ m.active
    (∀ id st (m : Journal), s.journal <:+ m → (.moved id st :: m) <:+ t.journal →
        st.isUnderway = true → ∃ entry step, m.active.head? = some entry.caseId
          ∧ suite.cases.find? entry.caseId = some entry
          ∧ entry.Reads suite step ∧ step.caseId = id)
      ∧ (right ↔ onStack)
      ∧ ((∀ entry ∈ suite.cases.entries, Placeholder.isPlain entry.caseId = true) → right)
      ∧ (s.AllFit t → t.active = []) ∧ t.journal.isLeaving = false := by
  intro t right onStack
  obtain ⟨ended, steps⟩ := proceeds_afterAll suite ids s still
  have told (id : String) (st : CaseState) (m : Journal) (hm : s.journal <:+ m)
      (hx : (.moved id st :: m) <:+ t.journal) (hst : st.isUnderway = true) :=
    (steps.2 _ m hm hx).underway id st rfl hst
  have sound : onStack → right := fun told m hm hmt => statesFit_of_steps steps fit told hm hmt
  refine ⟨told, ⟨fun h id st m hm hx hst => ?_, sound⟩,
    fun plain => sound fun id st m hm hx hst => ?_, active_afterAll ids idle, ended⟩
  · have fits := h _ (hm.trans (List.suffix_cons _ m)) hx rfl
    refine Journal.statesFit_iff.mp fits id ?_
    show (if id = id then st else Journal.state id m).isUnderway = true
    rwa [if_pos rfl]
  · obtain ⟨entry, step, first, hf, reading, rfl⟩ := told id st m hm hx hst
    have hentry : entry ∈ suite.cases.entries := List.mem_of_find?_eq_some hf
    rw [reading.caseId_of_plain (loaded.named entry hentry) (plain entry hentry)]
    exact List.mem_of_mem_head? first

/-- Two cases that need each other: neither is ever under way off the stack. -/
theorem states_fit_iff_of_circle :
    let suite : Suite := .answering (.pair ["b"] ["a"])
    suite.cases.Loaded ∧ Session.fresh.active = [] ∧ Session.fresh.journal.isLeaving = false
      ∧ Session.fresh.journal.StatesFit
      ∧ ∀ m : Journal, m <:+ (suite.afterAll ["a", "b"] .fresh).journal → m.isLeaving = false →
        m.StatesFit := by
  intro suite
  have loaded : suite.cases.Loaded := CaseIndex.pair_loaded ["b"] ["a"]
  have fit : Session.fresh.journal.StatesFit := Journal.statesFit_iff.mpr nofun
  have plain : ∀ entry ∈ suite.cases.entries, Placeholder.isPlain entry.caseId = true := by
    show ∀ entry ∈ (CaseIndex.pair ["b"] ["a"]).entries,
      Placeholder.isPlain entry.caseId = true
    decide
  obtain ⟨-, -, always, -⟩ := states_fit_iff suite loaded ["a", "b"] .fresh rfl rfl fit
  exact ⟨loaded, rfl, rfl, fit, fun m hm => always plain m List.nil_suffix hm⟩

/-! ## Under another id -/

/-- A case whose id holds a placeholder, and one whose id it has once this is
replaced. -/
def namesake : Suite :=
  .answering ⟨[
    ⟨"u$\x7bx\x7d", "cases.yaml", "cases.yaml:test_steps[0]", none, .mapping [
      ("case_id", .text "u$\x7bx\x7d"),
      ("request", .mapping [("method", .text "GET"), ("url", .text "/a")])]⟩,
    ⟨"u1", "cases.yaml", "cases.yaml:test_steps[1]", none, .mapping [
      ("case_id", .text "u1"),
      ("request", .mapping [("method", .text "GET"), ("url", .text "/b")])]⟩]⟩

theorem namesake_loaded : namesake.cases.Loaded :=
  .added .empty "cases.yaml" (.mapping [("test_steps", .list [
    .mapping [("case_id", .text "u$\x7bx\x7d"),
      ("request", .mapping [("method", .text "GET"), ("url", .text "/a")])],
    .mapping [("case_id", .text "u1"),
      ("request", .mapping [("method", .text "GET"), ("url", .text "/b")])]])]) rfl

/-- **A case is said to be under way that never was**, and remains so when no case is being
run. The case with the placeholder in its id says so of the other one, and comes to its
last state under an id of its own. -/
theorem states_unfit :
    let s := { Session.fresh with
      store.cache := Cache.empty.set "x" "1" none 0
      store.env := [("HOST", "http://h")] }
    let t := namesake.after "u$\x7bx\x7d" s
    namesake.cases.Loaded ∧ s.active = [] ∧ s.journal.StatesFit
      ∧ t.sent.map (·.url) = ["http://h/a"] ∧ t.active = [] ∧ t.journal.isLeaving = false
      ∧ t.state "u1" = .executing ∧ ¬ t.journal.StatesFit := by
  intro s t
  have idle : t.active = [] := by decide +kernel
  have executing : t.state "u1" = .executing := by decide +kernel
  refine ⟨namesake_loaded, rfl, Journal.statesFit_iff.mpr nofun, by decide +kernel, idle,
    by decide +kernel, executing, fun fits => ?_⟩
  have mem : "u1" ∈ t.active := fits.underway "u1" (.inr executing)
  rw [idle] at mem
  cases mem

end Suite

end CaseRunner
