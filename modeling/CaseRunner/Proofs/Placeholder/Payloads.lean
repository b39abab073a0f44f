import CaseRunner.Proofs.Placeholder.Finding
import CaseRunner.Proofs.Placeholder.TextByText

/-!
# Which macros are left

Where the macros of a text are expanded, none is left, whatever the functions give
(`Placeholder.not_holdsMacro_of_expand`). So a macro that is left in a document was there
before and is in a text that was not visited. These are the payloads of hooks: what an item
of a list `setup` or `teardown` holds under `hook` (`Placeholder.InHook`).

The lists need not be those of the step. A request may hold members of these names as well,
however deep, and the texts in them are taken for payloads of hooks, though no hook runs
them. So a macro may be left in a request, and it is known when:
`replaceFunctions_leaves_payloads`. The first of the places where this can be is the body
of a request (`replaceFunctions_leaves_macro_in_request`).

A hook has to be left alone at first, since its macro is the action: expanding it would
call the function when the step is read and not when the hook is run.
-/

namespace CaseRunner.Placeholder

/-! ## Macros in a text -/

/-- **A text holds a macro.** Said by how a macro is written, and not by the test that is
made for one. -/
def HoldsMacro (s : List Char) : Prop :=
  ∃ front name inner rest, s = front ++ writtenMacro name inner ++ rest
    ∧ IsName name ∧ ∀ c ∈ inner, isArgumentChar c = true

section Macros

variable {s t : List Char} {m : Macro}

/-- **What is found is a macro as it is written.** -/
theorem exists_writtenMacro (h : macroAt? s = some m) :
    ∃ name inner rest, s = writtenMacro name inner ++ rest
      ∧ IsName name ∧ ∀ c ∈ inner, isArgumentChar c = true := by
  unfold macroAt? at h
  split at h
  next s =>
    rw [Option.bind_eq_bind, Option.bind_eq_some_iff] at h
    obtain ⟨name, hname, h⟩ := h
    obtain ⟨c, cs, rest, rfl, rfl, start, word, -⟩ := nameAt?_eq_some_iff.mp hname
    have drop : (c :: (cs ++ rest)).drop (c :: cs).length = rest := List.drop_left
    rw [drop] at h
    split at h
    next args =>
      obtain ⟨inner, rest, rfl, hinner, argument, -⟩ := Text.exists_longest isArgumentChar args
      dsimp only at h
      rw [hinner, List.drop_left] at h
      split at h
      next rest =>
        refine ⟨c :: cs, inner, rest, ?_, ⟨start, word⟩, argument⟩
        simp [writtenMacro]
      next => cases h
    next => cases h
  next => cases h

/-- **A macro is found in a text that holds one.** The test looks for macros with the same
function that expands them. -/
theorem hasMacro_iff : hasMacro s = true ↔ HoldsMacro s := by
  induction s with
  | nil => simp [hasMacro, HoldsMacro, writtenMacro]
  | cons c s ih =>
    rw [hasMacro, Bool.or_eq_true, ih, Option.isSome_iff_exists]
    constructor
    · rintro (⟨m, hm⟩ | ⟨front, name, inner, rest, rfl, written⟩)
      · obtain ⟨name, inner, rest, hs, written⟩ := exists_writtenMacro hm
        exact ⟨[], name, inner, rest, hs, written⟩
      · exact ⟨c :: front, name, inner, rest, rfl, written⟩
    · rintro ⟨front, name, inner, rest, hs, hname, hinner⟩
      cases front with
      | nil =>
        rw [hs]
        exact .inl ⟨_, macroAt?_writtenMacro hname hinner rest⟩
      | cons d front =>
        cases hs
        exact .inr ⟨front, name, inner, rest, rfl, hname, hinner⟩

end Macros

section Expanding

variable {r : Registry} {place source : String} {calls calls' : Calls}

/-- What rounds end with has no macro: they end for no other reason. -/
theorem hasMacro_of_expandRounds {n : Nat} {s t : List Char}
    (h : Yields (expandRounds r place source n s) calls (.ok t) calls') : hasMacro t = false := by
  induction n generalizing s calls with
  | zero =>
    unfold expandRounds at h
    split at h
    · cases (yields_throw_iff.mp h).1
    next none =>
      cases (yields_pure_iff.mp h).1
      exact Bool.eq_false_iff.mpr none
  | succ n ih =>
    unfold expandRounds at h
    split at h
    · obtain ⟨u, _, -, h⟩ := yields_bind_ok_iff.mp h
      exact ih h
    next none =>
      cases (yields_pure_iff.mp h).1
      exact Bool.eq_false_iff.mpr none

/-- **No macro is left** in an expanded text, whatever the functions give. Rounds are made
until there is none, and if there is one after the last round that is allowed, there is an
error and no text. -/
theorem not_holdsMacro_of_expand {s t : String}
    (h : Yields (expand r place s) calls (.ok t) calls') : ¬ HoldsMacro t.toList := by
  obtain ⟨u, _, hu, h⟩ := yields_bind_ok_iff.mp h
  cases (yields_pure_iff.mp h).1
  rw [String.toList_ofList, ← hasMacro_iff, hasMacro_of_expandRounds hu]
  exact Bool.false_ne_true

/-- **A hook that runs** calls a function, and no macro is left in what it gives. -/
theorem holdsMacro_of_runHook {location hook t : String}
    (h : Yields (runHook r location hook) calls (.ok t) calls') :
    HoldsMacro hook.toList ∧ ¬ HoldsMacro t.toList := by
  unfold runHook at h
  split at h
  next held => exact ⟨hasMacro_iff.mp held, not_holdsMacro_of_expand h⟩
  next => cases (yields_throw_iff.mp h).1

end Expanding

/-! ## Payloads of hooks -/

section Places

open Document

/-- **A place in the payload of a hook**, of an action of a mapping that is at another
place. The actions of a step are those of the mapping at no place.

A place is read from the inside out. So whatever is outside of the list comes last, and
where the list stands is open. -/
def InHook (outer place : Place) : Prop :=
  ∃ inner i actions, (actions = "setup" ∨ actions = "teardown")
    ∧ place = inner ++ .key "hook" :: .index i :: .key actions :: outer

/-- **A place in a member** of the document. -/
def InMember (name : String) (place : Place) : Prop := ∃ inner, place = inner ++ [.key name]

theorem isAction_eq_true_iff {place : Place} : place.isAction = true ↔
    ∃ i actions outer, (actions = "setup" ∨ actions = "teardown")
      ∧ place = .index i :: .key actions :: outer := by
  constructor
  · intro h
    unfold Place.isAction at h
    split at h
    next i actions outer => exact ⟨i, actions, outer, by simpa using h, rfl⟩
    next => cases h
  · rintro ⟨i, actions, outer, h, rfl⟩
    simpa [Place.isAction] using h

/-- **The places that are left alone** are those in the payloads of hooks, wherever these
are. On the left is how the walk decides, which looks at the two segments around a member
and no further out. -/
theorem skipped_isHook_iff {place : Place} :
    place.skipped isHook = true ↔ ∃ outer, InHook outer place := by
  induction place with
  | nil => simp [Place.skipped, InHook]
  | cons segment outer ih =>
    have deeper : (∃ o, InHook o outer) → ∃ o, InHook o (segment :: outer) := by
      rintro ⟨o, inner, i, actions, h, rfl⟩
      exact ⟨o, segment :: inner, i, actions, h, rfl⟩
    cases segment with
    | index j =>
      rw [Place.skipped, ih]
      refine ⟨deeper, ?_⟩
      rintro ⟨o, _ | ⟨_, inner⟩, i, actions, h, hplace⟩
      · cases hplace
      · cases hplace
        exact ⟨o, inner, i, actions, h, rfl⟩
    | key name =>
      rw [Place.skipped, Bool.or_eq_true, ih, isHook, Bool.and_eq_true, isAction_eq_true_iff,
        beq_iff_eq]
      constructor
      · rintro (⟨⟨i, actions, o, h, rfl⟩, rfl⟩ | inHook)
        · exact ⟨o, [], i, actions, h, rfl⟩
        · exact deeper inHook
      · rintro ⟨o, _ | ⟨_, inner⟩, i, actions, h, hplace⟩
        · cases hplace
          exact .inl ⟨⟨i, actions, o, h, rfl⟩, rfl⟩
        · cases hplace
          exact .inr ⟨o, inner, i, actions, h, rfl⟩

/-- No hook of the step itself is in another member than those of its actions. -/
theorem InMember.not_inHook {name : String} {place : Place} (h : InMember name place)
    (setup : name ≠ "setup") (teardown : name ≠ "teardown") : ¬ InHook [] place := by
  rintro ⟨inner, i, actions, either, rfl⟩
  obtain ⟨inner', hplace⟩ := h
  have last := congrArg List.getLast? hplace
  simp only [List.getLast?_append, List.getLast?_cons_cons, List.getLast?_singleton,
    Option.some_or, Option.some.injEq, Segment.key.injEq] at last
  rcases either with rfl | rfl
  · exact setup last.symm
  · exact teardown last.symm

end Places

/-! ## Documents -/

section Documents

open Document

variable {r : Registry} {location : String} {d e : Document} {calls calls' : Calls}

/-- **A text of a document was expanded** or left alone, by its place. These are the two
alternatives, and no text is both. -/
def Expanded (r : Registry) (location : String) (v w : Place × String) : Prop :=
  w.1 = v.1 ∧ ((∃ outer, InHook outer v.1) ∧ w.2 = v.2
    ∨ (¬ ∃ outer, InHook outer v.1) ∧ ¬ HoldsMacro w.2.toList
      ∧ ∃ calls calls', Yields (expand r (v.1.render location) v.2) calls (.ok w.2) calls')

/-- **The macros of a document are expanded text by text**: the shape stays, and each text
was expanded or left alone by its place. -/
theorem expanded_of_replaceFunctions
    (h : Yields (replaceFunctions r location d) calls (.ok e) calls') :
    SameShape d e ∧ List.Forall₂ (Expanded r location) (texts [] d) (texts [] e) := by
  rw [replaceFunctions_eq] at h
  obtain ⟨shape, all⟩ := walked_of_replaceTexts rfl d h
  refine ⟨shape, all.imp fun v w ⟨same, walked⟩ => ⟨same, ?_⟩⟩
  split at walked
  next left => exact .inl ⟨skipped_isHook_iff.mp left, walked⟩
  next visited =>
    obtain ⟨c, c', ran⟩ := walked
    exact .inr ⟨fun inHook => visited (skipped_isHook_iff.mpr inHook),
      not_holdsMacro_of_expand ran, c, c', ran⟩

/-- **Macros are left in the payloads of hooks and nowhere else.** Where the macros of a
document were expanded, each text is as it was if it is in the payload of a hook, and
expanded otherwise. So the texts in which a macro is left are those that held one and are
in such a payload. No macro is left in the request exactly if there is no such text in it,
none of which would be in a hook of the step itself; and no macro is left in what comes of
a hook that runs.

The condition on the request is exact, and it is one on the document as it was loaded:
whether a macro will be left can be seen before anything is expanded. -/
theorem replaceFunctions_leaves_payloads
    (h : Yields (replaceFunctions r location d) calls (.ok e) calls') :
    (SameShape d e ∧ List.Forall₂ (Expanded r location) (texts [] d) (texts [] e))
      ∧ (∀ v, v ∈ texts [] e ∧ HoldsMacro v.2.toList
        ↔ v ∈ texts [] d ∧ HoldsMacro v.2.toList ∧ ∃ outer, InHook outer v.1)
      ∧ ((∀ v ∈ texts [] e, InMember "request" v.1 → ¬ HoldsMacro v.2.toList)
        ↔ ∀ v ∈ texts [] d, InMember "request" v.1 → HoldsMacro v.2.toList →
          ¬ ∃ outer, InHook outer v.1)
      ∧ (∀ place, InMember "request" place → ¬ InHook [] place)
      ∧ ∀ place hook t calls calls', Yields (runHook r place hook) calls (.ok t) calls' →
        HoldsMacro hook.toList ∧ ¬ HoldsMacro t.toList := by
  obtain ⟨shape, all⟩ := expanded_of_replaceFunctions h
  have left (v : Place × String) : v ∈ texts [] e ∧ HoldsMacro v.2.toList
      ↔ v ∈ texts [] d ∧ HoldsMacro v.2.toList ∧ ∃ outer, InHook outer v.1 := by
    constructor
    · rintro ⟨mem, held⟩
      obtain ⟨u, hu, same, ⟨inHook, text⟩ | ⟨-, none, -⟩⟩ := exists_left_of_mem all mem
      · obtain rfl : v = u := Prod.ext same text
        exact ⟨hu, held, inHook⟩
      · exact absurd held none
    · rintro ⟨mem, held, inHook⟩
      obtain ⟨w, hw, same, ⟨-, text⟩ | ⟨not, -⟩⟩ := exists_right_of_mem all mem
      · obtain rfl : w = v := Prod.ext same text
        exact ⟨hw, held⟩
      · exact absurd inHook not
  refine ⟨⟨shape, all⟩, left,
    ⟨fun none v hv within held inHook => ?_, fun none v hv within held => ?_⟩,
    fun place within => within.not_inHook (by decide) (by decide),
    fun place hook t calls calls' => holdsMacro_of_runHook⟩
  · exact none v ((left v).mpr ⟨hv, held, inHook⟩).1 within held
  · obtain ⟨hv, held, inHook⟩ := (left v).mp ⟨hv, held⟩
    exact none v hv within held inHook

/-- A step with a hook of its own, and a macro in its request. -/
theorem replaceFunctions_leaves_payloads_of_step :
    let r := Registry.empty.register "one" fun _ _ => .ok "1"
    let d : Document := .mapping [("request", .mapping [("url", .text "/$\x7bone()\x7d")]),
      ("setup", .list [.mapping [("hook", .text "$\x7bone()\x7d")]])]
    let calls : Calls := ⟨0, fun _ => ⟨0, id⟩⟩
    ∃ e calls', Yields (replaceFunctions r "t" d) calls (.ok e) calls'
      ∧ ∀ v ∈ texts [] e, InMember "request" v.1 → ¬ HoldsMacro v.2.toList := by
  intro r d calls
  let e : Document := .mapping [("request", .mapping [("url", .text "/1")]),
    ("setup", .list [.mapping [("hook", .text "$\x7bone()\x7d")]])]
  have ran : Yields (replaceFunctions r "t" d) calls (.ok e) ⟨1, fun _ => ⟨0, id⟩⟩ := rfl
  obtain ⟨-, -, none, -⟩ := replaceFunctions_leaves_payloads ran
  refine ⟨e, _, ran, none.mpr fun v hv within _ inHook => ?_⟩
  rcases List.mem_cons.mp hv with rfl | hv
  · -- the text of the request is no payload
    exact absurd (skipped_isHook_iff.mpr inHook) (by decide)
  · obtain rfl := List.mem_singleton.mp hv
    -- the other one is a payload, but not in the request
    obtain ⟨inner, hplace⟩ := within
    have last := congrArg List.getLast? hplace
    simp at last

/-- **A macro may be left in a request**: the body holds a list `setup` of its own, and
what an item holds under `hook` is not expanded, though no hook runs it. -/
theorem replaceFunctions_leaves_macro_in_request :
    let r := Registry.empty.register "one" fun _ _ => .ok "1"
    let d : Document := .mapping [("case_id", .text "a"), ("request", .mapping [
      ("body", .mapping [("setup", .list [.mapping [("hook", .text "$\x7bone()\x7d")]])]),
      ("method", .text "POST"), ("url", .text "/a")])]
    let calls : Calls := ⟨0, fun _ => ⟨0, id⟩⟩
    ∃ e calls', Yields (replaceFunctions r "t" d) calls (.ok e) calls'
      ∧ ∃ v ∈ texts [] e, InMember "request" v.1 ∧ HoldsMacro v.2.toList := by
  intro r d calls
  refine ⟨d, calls, rfl, ([.key "hook", .index 0, .key "setup", .key "body", .key "request"],
    "$\x7bone()\x7d"), ?_, ?_, ?_⟩
  · decide
  · exact ⟨[.key "hook", .index 0, .key "setup", .key "body"], rfl⟩
  · exact hasMacro_iff.mp (by decide)

end Documents

end CaseRunner.Placeholder
