import CaseRunner.Proofs.Request.Reading
import CaseRunner.Proofs.Session.Ending
import CaseRunner.Proofs.Session.Nesting
import CaseRunner.Proofs.Session.Relation

/-!
# Which runs crash

A run crashes if a number comes up in it for which there is no room: a wait, the time
that a request may take, the moment until which a token is kept, the number of tries
of a transport. Every such number is told in the journal when it comes up, before anybody
knows whether it fits. So the journal knows of each crash, and this module says that it
knows of nothing else: a run crashes exactly if the numbers that came up in it do not all
fit (`Suite.crashes_iff`).

What is proved of the parts of a run is more than that (`Minds`). In a run that crashes
the number that does not fit is the last thing that the journal tells. Without this the
parts could not be put together: that a part has crashed must keep everything behind it
from being done, and a number that does not fit must not be found before a part that was
done. The relation depends on whether there was a crash, and is composed as such relations
are (`UntilCrash`).

The condition is one on what happened in a run and not on what the cases are written as.
There is no way around this: a wait may be the value of a variable, which may be what a
database said.
-/

namespace CaseRunner

open Executing

/-- The number that comes up fits, if one comes up. -/
def Happening.fits : Happening → Bool
  | .measured q => q.fits
  | _ => true

namespace Session

/-- **All numbers fit** that came up from one session to another. A number comes up where
the program computes it, whether or not it is too great; so this speaks of all waits and of
all timeouts, and not of those alone that were made. -/
abbrev AllFit : Session → Session → Prop := Adds (·.fits = true)

/-- In two parts of a run all numbers fit if they do in the whole. -/
theorem Adds.parts {P : Happening → Prop} {s t u : Session} (h : Adds P s u)
    (hst : s.journal <:+ t.journal) (htu : t.journal <:+ u.journal) :
    Adds P s t ∧ Adds P t u := by
  obtain ⟨news, hnews, hall⟩ := h
  obtain ⟨first, hfirst⟩ := hst
  obtain ⟨second, hsecond⟩ := htu
  have both : second ++ first = news := by
    rwa [hnews, ← hfirst, ← List.append_assoc, List.append_cancel_right_eq] at hsecond
  subst both
  rw [List.forall_mem_append] at hall
  exact ⟨⟨first, hfirst.symm, hall.2⟩, ⟨second, hsecond.symm, hall.1⟩⟩

/-- **A number that does not fit is the end.** Without a crash all numbers fit that came
up; with one all did but the last of them, and nothing has been told since. -/
structure Minds (crashed : Prop) (s t : Session) : Prop where
  /-- Without a crash all numbers fit. -/
  survived : ¬ crashed → AllFit s t
  /-- A crash is told, and is told last. -/
  last : crashed → ∃ q u, q.fits = false ∧ AllFit s u ∧ t.journal = .measured q :: u.journal

namespace Minds

variable {crashed : Prop} {s t u : Session}

instance : UntilCrash Minds where
  refl _ := ⟨fun _ => .of_eq rfl, fun h => h.elim⟩
  trans h h' :=
    have first := h.survived not_false
    ⟨fun survived => first.trans (h'.survived survived), fun crashed =>
      have ⟨q, v, unfit, fit, told⟩ := h'.last crashed
      ⟨q, v, unfit, first.trans fit, told⟩⟩

/-- What cannot crash, and tells of no number that does not fit. -/
theorem of_lift {α : Type} {r : Except RunError α} (h : AllFit s t) :
    Minds (Stop.Crashes (Stop.lift r)) s t :=
  ⟨fun _ => h, fun crash => absurd crash (Stop.not_crashes_lift r)⟩

/-- The journal only grows. -/
theorem suffix (h : Minds crashed s t) : s.journal <:+ t.journal := by
  by_cases hc : crashed
  · obtain ⟨q, u, -, ⟨news, hu, -⟩, told⟩ := h.last hc
    rw [told, hu]
    exact (List.suffix_append news _).trans (List.suffix_cons _ _)
  · obtain ⟨news, ht, -⟩ := h.survived hc
    exact ⟨news, ht.symm⟩

/-- **A crash is known by the numbers that came up.** By this the relation need not be
carried any further: of a whole run only the equivalence is used. -/
theorem crashed_iff (h : Minds crashed s t) : crashed ↔ ¬ AllFit s t := by
  refine ⟨fun hc fit => ?_, fun unfit => by_contra fun hc => unfit (h.survived hc)⟩
  obtain ⟨q, u, unfit, ⟨news, hu, -⟩, told⟩ := h.last hc
  -- the number that does not fit came up since
  obtain ⟨all, ht, hall⟩ := fit
  have added : all = .measured q :: news := by
    rwa [ht, hu, ← List.cons_append, List.append_cancel_right_eq] at told
  have fits : q.fits = true := hall (.measured q) (added ▸ List.mem_cons_self)
  rw [unfit] at fits
  cases fits

end Minds

/-! ## Numbers that come up -/

section Measuring

variable {α β : Type}

theorem minds_result (x : Except RunError α) : Leads Minds (result x) := Leads.mk_lift x

theorem minds_record {x : Happening} (hx : x.fits = true) : Leads Minds (record x) :=
  Leads.modify fun _ => ⟨fun _ => .noting hx, fun h => h.elim⟩

/-- **A number that comes up where it has to fit**: if the computation behind it crashes
exactly if the number does not fit. The check and what is noted of it are two things in a
run, and this is where they are brought together. -/
theorem minds_measured_bind {q : Quantity} {x : Except (Stop RunError) α} {f : α → Run β}
    (hx : Stop.Crashes x ↔ q.fits = false) (hf : ∀ a, Leads Minds (f a)) :
    Leads Minds (record (.measured q) >>= fun _ => stopping x >>= f) := by
  intro s r t h
  rcases yields_bind_iff.mp (yields_record_bind_iff.mp h) with
    ⟨a, u, hstop, hrest⟩ | ⟨stop, hstop, rfl⟩
  · obtain ⟨rfl, rfl⟩ := yields_mk_pure_iff.mp hstop
    have fits : q.fits = true := by
      rw [← Bool.not_eq_false, ← hx]
      exact Stop.not_crashes_ok a
    have told : AllFit s (s.noting (.measured q)) := .noting fits
    exact UntilCrash.trans (R := Minds) ⟨fun _ => told, fun h => h.elim⟩ (hf a _ r t hrest)
  · obtain ⟨rfl, rfl⟩ := yields_mk_pure_iff.mp hstop
    by_cases unfit : q.fits = false
    · exact ⟨fun survived => absurd (hx.mpr unfit).error survived,
        fun _ => ⟨q, s, unfit, .of_eq rfl, rfl⟩⟩
    · have told : AllFit s (s.noting (.measured q)) := .noting (Bool.not_eq_false _ ▸ unfit)
      exact ⟨fun _ => told, fun crash => absurd (hx.mp crash.error) unfit⟩

theorem minds_measured {q : Quantity} {x : Except (Stop RunError) α}
    (hx : Stop.Crashes x ↔ q.fits = false) :
    Leads Minds (record (.measured q) >>= fun _ => stopping x) := by
  have := minds_measured_bind hx fun a => Leads.pure (R := Minds) a
  simpa only [bind_pure] using this

end Measuring

end Session

open Session

/-! ## Parts of a run -/

namespace Session

section Parts

variable {α : Type}

theorem minds_calling (c : Calling α) : Leads Minds (calling c) := by
  intro s r t h
  obtain ⟨r₀, calls, -, rfl, rfl⟩ := Yields.of_calling h
  exact .of_lift (.of_eq rfl)

theorem minds_storing (c : Storing α) : Leads Minds (storing c) := by
  intro s r t h
  obtain ⟨r₀, q, -, rfl, rfl⟩ := Yields.of_storing h
  exact .of_lift (.of_eq rfl)

theorem minds_asking (c : Asking α) : Leads Minds (asking c) := by
  intro s r t h
  obtain ⟨r₀, asked, -, rfl, rfl⟩ := Yields.of_asking h
  exact .of_lift (.of_eq rfl)

theorem minds_modify {g : Session → Session} (hg : ∀ s, (g s).journal = s.journal) :
    Leads Minds (modify g : Run PUnit) :=
  Leads.modify fun s => ⟨fun _ => .of_eq (hg s), fun h => h.elim⟩

theorem minds_resolved (suite : Suite) (location : String) (d : Document) :
    Leads Minds (resolved suite location d) :=
  Leads.get.bind fun _ => minds_calling _

theorem minds_runHook (suite : Suite) (location hook : String) :
    Leads Minds (runHook suite location hook) :=
  (minds_calling _).bind fun _ => Leads.pure _

theorem minds_checkReference (suite : Suite) (current location referenced : String) :
    Leads Minds (checkReference suite current location referenced) :=
  Leads.get.bind fun _ => (minds_record rfl).bind fun _ => minds_result _

theorem minds_relate (name value : String) : Leads Minds (relate name value) :=
  (minds_record rfl).bind fun _ => minds_modify fun _ => rfl

theorem minds_assign (key value : String) (scope : Scope) :
    Leads Minds (assign key value scope) :=
  Leads.get.bind fun _ => (minds_storing _).bind fun _ => minds_record rfl

theorem minds_pause (location : String) (seconds : Binary64) :
    Leads Minds (pause location seconds) := by
  unfold pause
  split
  · exact minds_measured_bind Request.crashes_nanoseconds_iff fun _ => minds_modify fun _ => rfl
  · exact Leads.throw _

theorem minds_queryRow (suite : Suite) (location statement : String) :
    Leads Minds (queryRow suite location statement) := by
  unfold queryRow
  cases suite.database? with
  | none => exact Leads.throw _
  | some db => exact (minds_asking _).adapt

/-- A transport that crashes is told of last. -/
theorem minds_send (suite : Suite) (caseId? : Option String) (q : Request) :
    Leads Minds (send suite caseId? q) := by
  intro s r t h
  have told : AllFit s (delivered suite caseId? q s) :=
    ⟨[_], rfl, List.forall_mem_singleton.mpr rfl⟩
  obtain ⟨-, ⟨p, unfit, rfl, rfl⟩ | ⟨survived, rfl⟩⟩ := Yields.of_send h
  · exact ⟨fun survived => absurd (Stop.crashes_crash unfit) survived,
      fun _ => ⟨p, _, unfit, told, rfl⟩⟩
  · exact ⟨fun _ => told, fun crash => absurd crash survived⟩

end Parts

end Session

theorem Login.minds_keepToken (a : Login) (token : String) : Leads Minds (a.keepToken token) :=
  Leads.get.bind fun _ => minds_measured_bind Store.crashes_putFor_iff fun _ => minds_storing _

theorem Login.minds_fetchToken (a : Login) (suite : Suite) (q : Request) :
    Leads Minds (a.fetchToken suite q) := by
  unfold Login.fetchToken
  refine Leads.get.bind fun _ => (minds_result _).bind fun url => ?_
  refine (minds_send suite _ _).bind fun raw => (minds_result _).bind fun token => ?_
  exact (a.minds_keepToken _).bind fun _ => Leads.pure _

theorem Login.minds_apply (a : Login) (suite : Suite) (q : Request) :
    Leads Minds (a.apply suite q) := by
  unfold Login.apply
  split
  · exact Leads.pure _
  refine Leads.get.bind fun s => ?_
  dsimp only
  split
  · exact (Leads.pure _).bind fun _ => Leads.pure _
  · exact (a.minds_fetchToken suite q).bind fun _ => Leads.pure _

/-- The time that a request may take is told if the reading comes so far, and if it does
not, reading the request cannot crash. -/
theorem minds_readRequest (suite : Suite) (location : String) (config : Config)
    (d : Document) : Leads Minds (readRequest suite location config d) := by
  refine Leads.get.bind fun s => ?_
  have crashes : Stop.Crashes (Request.ofDocument d config s.store s.files
      suite.settings.requestDefaults location) ↔ _ := Request.crashes_ofDocument_iff
  dsimp only
  cases hx : Request.seconds? d config s.store s.files suite.settings.requestDefaults with
  | some x =>
    rw [hx] at crashes
    exact minds_measured (crashes.trans (by simp))
  | none =>
    rw [hx] at crashes
    obtain ⟨r, hr⟩ := Stop.exists_lift_of_not_crashes (mt crashes.mp (by simp))
    show Leads Minds (stopping _)
    rw [hr]
    exact minds_result r

/-- The number that comes up when a request is made is the time that it may take. Before it
relation variables are put in, and behind it credentials are asked for, with numbers of
their own. -/
theorem minds_makeRequest (suite : Suite) (location : String) (config : Config)
    (step : Step) : Leads Minds (makeRequest suite location config step) := by
  have fills : Leads Minds (fillRelations location step.request) := by
    refine Leads.get.bind fun s => (minds_result _).bind ?_
    rintro ⟨filled, store⟩
    refine (minds_record rfl).bind fun _ => Leads.bind (minds_modify ?_) fun _ => ?_
    · exact fun _ => rfl
    · exact Leads.pure filled
  refine fills.bind fun d => (minds_record rfl).bind fun _ => ?_
  refine (minds_readRequest suite location config d).bind fun request => ?_
  unfold authorize
  cases suite.login? with
  | none => exact Leads.pure _
  | some login => exact login.minds_apply suite request

theorem minds_resolveEntry (suite : Suite) (entry : CaseEntry) :
    Leads Minds (resolveEntry suite entry) := by
  refine (minds_resolved suite _ _).bind fun configured => ?_
  refine (minds_result _).bind fun config => (minds_resolved suite _ _).bind fun step => ?_
  exact (minds_result _).bind fun _ => Leads.pure _

theorem minds_takeReport (location : String) (reference : CaseReference) (report : Report) :
    Leads Minds (takeReport location reference report) := by
  unfold takeReport
  dsimp only
  split
  · split
    · split
      · exact (minds_result _).bind fun found => minds_relate _ _
      · exact Leads.throw _
    · exact Leads.pure _
    · exact Leads.pure _
    · exact Leads.throw _
  · exact Leads.throw _
  · exact Leads.throw _
  · exact Leads.throw _

/-! ## Executions -/

section Executions

variable {suite : Suite} {nested : String → Run Report}

theorem minds_runSetupAction (hN : ∀ id, Leads Minds (nested id)) (current location : String)
    (action : SetupAction) :
    Leads Minds (runSetupAction suite nested current location action) := by
  cases action with
  | testcase references =>
    refine Leads.forM (fun reference => ?_) _
    refine (minds_checkReference suite _ _ _).bind fun _ => (hN _).bind fun report => ?_
    exact minds_takeReport location reference report
  | sql statements =>
    refine Leads.forM (fun statement => ?_) _
    refine (minds_queryRow suite _ _).bind fun row? => ?_
    exact Leads.forM (fun _ => minds_relate _ _) _
  | hook source => exact minds_runHook suite _ _
  | waitTime seconds => exact minds_pause _ _

/-- A teardown may wait, and that is the one number in it. -/
theorem minds_runTeardownAction (location : String) (action : TeardownAction) :
    Leads (OnSessions Minds) (runTeardownAction suite location action) := by
  unfold runTeardownAction
  cases action with
  | sql statements =>
    refine Leads.forM (fun statement => ?_) _
    refine (leads_inSession (minds_queryRow suite _ _)).bind fun row? => ?_
    cases row? with
    | none => exact Leads.pure _
    | some row =>
      refine (leads_amend _).bind fun _ => leads_inSession ?_
      exact Leads.forM (fun _ => minds_assign _ _ _) _
  | hook source => exact leads_inSession (minds_runHook suite _ _)
  | extract extractions =>
    refine Leads.forM (fun e => leads_reply.bind fun reply => ?_) _
    refine (leads_inSession (minds_result _)).bind fun found => ?_
    exact leads_inSession (minds_assign _ _ _)
  | assert items => exact leads_reply.bind fun reply => leads_inSession (minds_asking _)
  | waitTime seconds => exact leads_inSession (minds_pause _ _)

theorem minds_clockReply (started : Moment) : Leads (OnSessions Minds) (clockReply started) :=
  Leads.get.bind fun _ => leads_amend _

theorem minds_finishEntry (entry : CaseEntry) (started : Moment) (config : Config)
    (step : Step) :
    Leads (OnSessions Minds) (finishEntry suite entry started config step) := by
  refine (leads_inSession (minds_makeRequest suite _ _ _)).bind fun request => ?_
  refine (leads_amend _).bind fun _ => (leads_inSession (minds_send suite _ _)).bind fun raw => ?_
  refine (leads_note _ _).bind fun _ => (leads_amend _).bind fun _ => ?_
  refine (minds_clockReply started).bind fun _ => (leads_outcome ?_).bind fun ending => ?_
  · rw [runTeardown_eq]
    exact leads_runActions (fun _ => minds_runTeardownAction _) _ _ _
  · exact (minds_clockReply started).bind fun _ => leads_inSession (minds_result _)

/-- **An execution minds the numbers that come up in its parts**, and in the cases inside
it. What comes of its ending is made a value in between, except for a crash. -/
theorem minds_runEntry (hN : ∀ id, Leads Minds (nested id)) (entry : CaseEntry) :
    Leads (OnSessions Minds) (runEntry suite nested entry) := by
  refine Leads.get.bind fun p => (leads_inSession (minds_resolveEntry suite entry)).bind ?_
  rintro ⟨config, step⟩
  have begins : Leads (OnSessions Minds) (beginEntry entry config step) := by
    refine (leads_amend _).bind fun _ => (leads_note _ _).bind fun _ => ?_
    refine (leads_inSession (minds_result _)).bind fun reason? => ?_
    cases reason? with
    | some reason => exact (leads_note _ _).bind fun _ => Leads.pure _
    | none => exact Leads.pure _
  refine begins.bind fun reason? => ?_
  cases reason? with
  | some reason => exact Leads.pure _
  | none =>
    refine (leads_inSession (minds_record rfl)).bind fun _ => Leads.bind ?_ fun _ => ?_
    · rw [runSetup_eq]
      exact leads_runActions (fun _ _ => leads_inSession (minds_runSetupAction hN _ _ _)) _ _ _
    · exact (minds_finishEntry entry _ config step).bind fun _ => Leads.pure _

/-- **So does a case that is loaded.** To conclude it tells of no number, and behind a
crash it is not concluded. -/
theorem minds_runLoaded (hN : ∀ id, Leads Minds (nested id)) (entry : CaseEntry) :
    Leads Minds (runLoaded suite nested entry) := by
  intro s r t h
  obtain ⟨ended, p, run, ends⟩ := h.of_runLoaded
  have inside := minds_runEntry hN entry _ _ _ run
  have begun : Minds False s (s.noting (.entered entry.caseId)) :=
    ⟨fun _ => .noting rfl, fun h => h.elim⟩
  obtain ⟨outcome, rfl, rfl, rfl⟩ | ⟨q, unfit, rfl, rfl, rfl⟩ := ends
  · have fit := inside.survived (Stop.not_crashes_lift outcome)
    have left : AllFit p.session (p.session.noting (.left entry.caseId)) :=
      .noting rfl
    have done := left.trans (.noting (x := .moved entry.caseId .done) rfl)
    exact ⟨fun _ => (begun.survived not_false).trans (fit.trans done),
      fun crash => absurd crash (Stop.not_crashes_ok _)⟩
  · have whole := UntilCrash.trans begun inside
    exact ⟨fun survived => absurd (Stop.crashes_crash unfit) survived,
      fun _ => whole.last (Stop.crashes_crash unfit)⟩

/-- **Every run minds the numbers that come up.** By induction on the depth, with a lemma
for each part of a run. A part that measures nothing has nothing to show but that it cannot
crash. -/
theorem minds_runToDepth (suite : Suite) (depth : Nat) (id : String) :
    Leads Minds (runToDepth suite depth id) := by
  induction depth generalizing id with
  | zero => exact Leads.throw _
  | succ depth ih =>
    rw [runToDepth, runCase]
    cases suite.cases.find? id with
    | none => exact Leads.throw _
    | some entry => exact minds_runLoaded ih entry

end Executions

namespace Suite

variable {suite : Suite} {id : String} {s : Session}

/-- **A run crashes exactly if the numbers that came up in it do not all fit.** The left
side is about how the run ended, and the right one about what can be read in the journal
afterwards. -/
theorem crashes_iff : Stop.Crashes (suite.outcome id s) ↔ ¬ s.AllFit (suite.after id s) :=
  (minds_runToDepth suite _ id s _ _ (yields_run (suite.run id) s)).crashed_iff

theorem suffix_after (suite : Suite) (id : String) (s : Session) :
    s.journal <:+ (suite.after id s).journal :=
  (minds_runToDepth suite _ id s _ _ (yields_run (suite.run id) s)).suffix

theorem suffix_afterAll (suite : Suite) (ids : List String) (s : Session) :
    s.journal <:+ (suite.afterAll ids s).journal := by
  induction ids generalizing s with
  | nil => exact List.suffix_refl _
  | cons id ids ih => exact (suite.suffix_after id s).trans (ih (suite.after id s))

/-- A case that is run while none is being run leaves none on the stack, unless it
crashes. -/
theorem active_after (idle : s.active = []) (survived : ¬ Stop.Crashes (suite.outcome id s)) :
    (suite.after id s).active = [] :=
  ((nests_runToDepth suite _ (yields_run (suite.run id) s)).restores survived).trans idle

/-- After cases that were run one after the other none is left on the stack, if all numbers
fit that came up. -/
theorem active_afterAll (ids : List String) (idle : s.active = [])
    (fit : s.AllFit (suite.afterAll ids s)) : (suite.afterAll ids s).active = [] := by
  induction ids generalizing s with
  | nil => exact idle
  | cons id ids ih =>
    obtain ⟨first, rest⟩ := fit.parts (suite.suffix_after id s) (suite.suffix_afterAll ids _)
    exact ih (active_after idle (not_not_intro first ∘ crashes_iff.mp)) rest

end Suite

end CaseRunner
