import CaseRunner.Proofs.Case.Plain
import CaseRunner.Proofs.Document.Visits
import CaseRunner.Proofs.Placeholder.Round

/-!
# Replacing placeholders again

The placeholders of a document are meant to be replaced once and for all: macros until
there is none, and then variables until there is none. But the values of variables are not
looked at for macros, which were expanded before. So a macro that a variable brings in, or
that comes about where its value meets the text around it, is left in the document, and is
expanded when placeholders are replaced again (`replacePlaceholders_expands_later`). This
is all that is left to do: if functions look at their arguments alone, replacing
placeholders again changes nothing exactly if it gives back the texts in which a macro is
left (`replacePlaceholders_again`).

Functions are arbitrary, and a function that counts its calls would give another text each
time. For those that look at their arguments alone the state of a run makes no difference
to what is answered, and this is carried through rounds and documents (`Settled`,
`Answers`), so that in the end both passes are functions of a document.
-/

namespace CaseRunner

namespace Registry

theorem pure_empty : empty.Pure := fun _ _ h => nomatch h

/-- One more function that looks at its arguments alone. -/
theorem Pure.register {r : Registry} (h : r.Pure) {f : MacroFunction}
    (hf : ∀ c c' args, f c args = f c' args) (name : String) : (r.register name f).Pure := by
  intro other g hg
  by_cases same : other = name
  · rw [same, find?_register_self] at hg
    cases hg
    exact hf
  · rw [find?_register_of_ne r f same] at hg
    exact h other g hg

end Registry

namespace Placeholder

variable {r : Registry} {store : Store} {now : Moment} {place : String}

/-! ## Macros -/

section Functions

variable (look : r.Pure)

include look

theorem settled_invoke (name : String) (args : List String) : Settled (invoke r name args) :=
  ⟨r.call name ⟨0, id⟩ args, fun _ => look.call_eq name _ _ args⟩

theorem settled_expandMacro (place : String) (written : List Char) (m : Macro) :
    Settled (expandMacro r place written m) := by
  unfold expandMacro
  dsimp only
  split
  · exact (Settled.throw _).bind fun _ => (settled_invoke look _ _).adapt
  · exact (Settled.pure _).bind fun _ => (settled_invoke look _ _).adapt

theorem settled_expandOnce (place : String) (skip : Nat) (s : List Char) :
    Settled (expandOnce r place skip s) := by
  induction s generalizing skip with
  | nil => cases skip <;> exact Settled.pure _
  | cons c rest ih =>
    cases skip with
    | succ skip => exact ih skip
    | zero =>
      rw [expandOnce]
      split
      · exact (settled_expandMacro look _ _ _).bind fun _ => (ih _).bind fun _ => Settled.pure _
      · exact (ih 0).bind fun _ => Settled.pure _

/-- **What comes of all rounds is settled**, if anything comes of them: by induction on how
many are allowed. It is so for a text without macros at once, and for others by what one
round leaves. -/
theorem settled_expandRounds (place source : String) (rounds : Nat) (s : List Char) :
    Settled (expandRounds r place source rounds s) := by
  induction rounds generalizing s with
  | zero =>
    unfold expandRounds
    split
    · exact Settled.throw _
    · exact Settled.pure _
  | succ rounds ih =>
    unfold expandRounds
    split
    · exact (settled_expandOnce look place 0 s).bind ih
    · exact Settled.pure _

/-- **What a text expands to** does not depend on the calls made before. Calls are still
recorded; it is only the text that is settled. -/
theorem settled_expand (place s : String) : Settled (expand r place s) :=
  (settled_expandRounds look place s _ _).bind fun _ => Settled.pure _

end Functions

/-- A text without macros stays. -/
theorem answers_expand_of_none {s : String} (h : hasMacro s.toList = false) :
    Answers (expand r place s) (.ok s) := by
  intro calls
  rw [expand, expandRounds_of_none h]
  exact congrArg Except.ok String.ofList_toList

/-! ## Variables -/

/-- **No variable is left** where variables are replaced. The rounds end for no other
reason, unless they end with an error. -/
theorem hasPlaceholder_of_substituteRounds {resolve : String → Except RunError String}
    {rounds : Nat} {s t : List Char} (h : substituteRounds resolve place rounds s = .ok t) :
    hasPlaceholder variableForm t = false := by
  induction rounds generalizing s with
  | zero =>
    unfold substituteRounds at h
    split at h
    · cases h
    next none =>
      cases h
      exact Bool.eq_false_iff.mpr none
  | succ rounds ih =>
    unfold substituteRounds at h
    split at h
    · obtain ⟨u, -, h⟩ := bind_eq_ok_iff.mp h
      exact ih h
    next none =>
      cases h
      exact Bool.eq_false_iff.mpr none

theorem hasPlaceholder_of_substituteVariables {s t : String}
    (h : substituteVariables store now place s = .ok t) :
    hasPlaceholder variableForm t.toList = false := by
  obtain ⟨u, hu, h⟩ := bind_eq_ok_iff.mp h
  cases h
  rw [String.toList_ofList]
  exact hasPlaceholder_of_substituteRounds hu

/-- A text without variables stays. -/
theorem substituteVariables_of_none {s : String}
    (h : hasPlaceholder variableForm s.toList = false) :
    substituteVariables store now place s = .ok s := by
  have stays (resolve : String → Except RunError String) :
      substituteRounds resolve place roundLimit s.toList = .ok s.toList := by
    unfold substituteRounds
    rw [if_neg (by simp [h])]
  refine bind_eq_ok_iff.mpr ⟨s.toList, stays _, ?_⟩
  exact congrArg Except.ok String.ofList_toList

/-! ## Both -/

/-- **A text comes to another** when its macros are expanded and then its variables
replaced. There is a text between the two, which may hold variables that came with the
value of a macro, and these are replaced; the reverse is not so. -/
def Resolves (r : Registry) (store : Store) (now : Moment) (place s t : String) : Prop :=
  ∃ u calls calls', Yields (expand r place s) calls (.ok u) calls'
    ∧ substituteVariables store now place u = .ok t

/-- What the text at a place expands to after certain calls. -/
def expansion (r : Registry) (calls : Calls) (location : String) (place : Document.Place)
    (s : String) : Except RunError String :=
  ((expand r (place.render location) s).run calls).1

/-- No variable is left in a document whose placeholders were replaced. -/
theorem hasPlaceholder_of_replacePlaceholders {location : String} {d d' : Document}
    {calls calls' : Calls}
    (h : Yields (replacePlaceholders r store now location d) calls (.ok d') calls') :
    ∀ s ∈ d'.leaves, hasPlaceholder variableForm s.toList = false := by
  obtain ⟨d₁, _, -, h⟩ := yields_bind_ok_iff.mp h
  have replaced : replaceVariables store now location d₁ = .ok d' :=
    (yields_mk_pure_iff.mp h).1.symm
  rw [replaceVariables_eq] at replaced
  exact Document.forall_leaves_of_replaceTexts
    (fun _ _ _ => hasPlaceholder_of_substituteVariables) [] d₁ replaced

section Documents

variable (look : r.Pure) (calls₀ : Calls) (location : String)

include look

theorem answers_expand (place : Document.Place) (s : String) :
    Answers (expand r (place.render location) s) (expansion r calls₀ location place s) :=
  (settled_expand look _ s).answers calls₀

/-- What comes of replacing the placeholders of a document does not depend on the calls
made before. -/
theorem answers_replacePlaceholders (d : Document) :
    Answers (replacePlaceholders r store now location d)
      (d.replaceTexts isHook (expansion r calls₀ location) []
        >>= replaceVariables store now location) := by
  rw [replacePlaceholders, replaceFunctions_eq]
  exact (Document.answers_replaceTexts (answers_expand look calls₀ location) [] d).bind
    fun _ => Answers.mk_pure _

/-- **A document without variables is given back** exactly if each of its texts, outside
the payloads of hooks, is. For the texts inside there is nothing to be asked, as the first
pass leaves them alone and the second one finds no variables in them. -/
theorem restored_iff {d : Document}
    (none : ∀ s ∈ d.leaves, hasPlaceholder variableForm s.toList = false) :
    (∃ calls, Yields (replacePlaceholders r store now location d) calls₀ (.ok d) calls) ↔
      ∀ v ∈ d.visits isHook [], Resolves r store now (v.1.render location) v.2 v.2 := by
  have answers : Answers (replacePlaceholders r store now location d) _ :=
    answers_replacePlaceholders look calls₀ location d
  have ran : (∃ calls, Yields (replacePlaceholders r store now location d) calls₀ (.ok d) calls) ↔
      (d.replaceTexts isHook (expansion r calls₀ location) []
        >>= replaceVariables store now location) = .ok d :=
    ⟨fun ⟨_, h⟩ => (answers.eq_of_yields h).symm,
      fun h => ⟨_, Prod.ext ((answers calls₀).trans h) rfl⟩⟩
  refine (ran.trans bind_eq_ok_iff).trans ?_
  simp only [replaceVariables_eq]
  refine (Document.restores_iff [] d fun place s hs =>
    substituteVariables_of_none (none s hs)).trans (forall₂_congr fun v _ => ⟨?_, ?_⟩)
  · rintro ⟨t, ht, hs⟩
    exact ⟨t, calls₀, _, Prod.ext ht rfl, hs⟩
  · rintro ⟨t, calls, calls', ht, hs⟩
    exact ⟨t, ((answers_expand look calls₀ location v.1 v.2).eq_of_yields ht).symm, hs⟩

end Documents

/-- A text without placeholders comes to itself. -/
theorem Resolves.of_none {place s : String} (hm : hasMacro s.toList = false)
    (hv : hasPlaceholder variableForm s.toList = false) (calls : Calls) :
    Resolves r store now place s s :=
  ⟨s, calls, _, Prod.ext (answers_expand_of_none hm calls) rfl,
    substituteVariables_of_none hv⟩

/-- **Replacing placeholders again changes nothing** exactly if it gives back each text,
outside the payloads of hooks, in which a macro is left; there are no variables left
anyway. Functions look at their arguments alone. So it changes nothing if no macro is left.

The condition is exact, and it cannot be that no macro is left: a macro may be expanded to
a variable whose value is the macro, and then it is there again whenever one looks. -/
theorem replacePlaceholders_again (look : r.Pure) {location : String} {d d' : Document}
    {calls calls' : Calls}
    (first : Yields (replacePlaceholders r store now location d) calls (.ok d') calls')
    (now' : Moment) (calls₁ : Calls) :
    (∀ s ∈ d'.leaves, hasPlaceholder variableForm s.toList = false)
      ∧ ((∃ calls₂, Yields (replacePlaceholders r store now' location d') calls₁ (.ok d') calls₂) ↔
        ∀ v ∈ d'.visits isHook [], hasMacro v.2.toList = true →
          Resolves r store now' (v.1.render location) v.2 v.2) := by
  have none := hasPlaceholder_of_replacePlaceholders first
  refine ⟨none, (restored_iff look calls₁ location none).trans (forall₂_congr fun v hv => ?_)⟩
  refine ⟨fun resolves _ => resolves, fun resolves => ?_⟩
  by_cases held : hasMacro v.2.toList = true
  · exact resolves held
  · exact .of_none (Bool.eq_false_iff.mpr held)
      (none _ (Document.mem_leaves_of_mem_visits [] d' hv)) calls₁

/-- A function and a variable whose values are each other's placeholders: a macro is
left, and comes back. -/
theorem replacePlaceholders_again_of_circle :
    let r := Registry.empty.register "f" fun _ _ => .ok "$\x7bx\x7d"
    let store : Store := { cache := Cache.empty.set "x" "$\x7bf()\x7d" none 0 }
    let calls : Calls := ⟨0, fun _ => ⟨0, id⟩⟩
    r.Pure ∧ ∃ calls',
      Yields (replacePlaceholders r store 0 "t" (.text "$\x7bx\x7d")) calls
        (.ok (.text "$\x7bf()\x7d")) calls'
      ∧ ∃ calls₂, Yields (replacePlaceholders r store 0 "t" (.text "$\x7bf()\x7d")) calls'
        (.ok (.text "$\x7bf()\x7d")) calls₂ := by
  intro r store calls
  have look : r.Pure := Registry.pure_empty.register (fun _ _ _ => rfl) "f"
  have first : Yields (replacePlaceholders r store 0 "t" (.text "$\x7bx\x7d")) calls
      (.ok (.text "$\x7bf()\x7d")) calls := rfl
  obtain ⟨-, again⟩ := replacePlaceholders_again look first 0 calls
  refine ⟨look, calls, first, again.mpr fun v hv _ => ?_⟩
  obtain rfl := List.mem_singleton.mp hv
  exact ⟨"$\x7bx\x7d", calls, _, rfl, rfl⟩

/-- **A macro that a variable brings in is expanded later**: the document has no variables
left, but replacing placeholders again changes it. What a document comes to depends,
therefore, on how often its placeholders are replaced. -/
theorem replacePlaceholders_expands_later :
    let r := Registry.empty.register "one" fun _ _ => .ok "1"
    let store : Store := { cache := Cache.empty.set "x" "$\x7bone()\x7d" none 0 }
    let calls : Calls := ⟨0, fun _ => ⟨0, id⟩⟩
    r.Pure ∧ ∃ calls',
      Yields (replacePlaceholders r store 0 "t" (.text "$\x7bx\x7d")) calls
        (.ok (.text "$\x7bone()\x7d")) calls'
      ∧ (∃ calls₂, Yields (replacePlaceholders r store 0 "t" (.text "$\x7bone()\x7d")) calls'
        (.ok (.text "1")) calls₂)
      ∧ ¬ ∃ calls₂, Yields (replacePlaceholders r store 0 "t" (.text "$\x7bone()\x7d")) calls'
        (.ok (.text "$\x7bone()\x7d")) calls₂ := by
  refine ⟨Registry.pure_empty.register (fun _ _ _ => rfl) "one", _, rfl, ⟨_, rfl⟩, ?_⟩
  rintro ⟨calls₂, h⟩
  have answer : (Except.ok (Document.text "1") : Except RunError Document)
      = .ok (.text "$\x7bone()\x7d") := congrArg Prod.fst h
  simp at answer

end Placeholder

end CaseRunner
