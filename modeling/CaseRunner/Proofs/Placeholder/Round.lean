import CaseRunner.Placeholder.Macro
import CaseRunner.Proofs.Computation
import CaseRunner.Proofs.Text.Pieces

/-!
# One round of expansion

A round replaces the macros of a text from left to right. A text is put together from
parts, and what a round makes of the whole is put together from what it makes of the parts,
as long as no part can be taken for the beginning of a macro that ends behind it. That a
round takes a part to another, whatever follows, is said by `Placeholder.Passes`. Three
things pass in this way: characters other than `$`, which begin nothing; a macro with
arguments in which there is no other macro, which becomes its value; and the shell of a
macro with others among its arguments, which stays.

A round reads its text once and does not look at what it has put in. What comes about is
looked at by the next round, as a text like any other, so that a macro can come about from
a value and what stands beside it. `Placeholder.Leads` is for the texts where it is known
what every round will do.
-/

namespace CaseRunner

namespace Placeholder

/-! ## A macro as it is written -/

/-- **The name of a function** that a macro may call. -/
def IsName : List Char → Prop
  | [] => False
  | c :: rest => Text.isNameStart c = true ∧ ∀ d ∈ rest, Text.isWordChar d = true

theorem IsName.not_mem {name : List Char} (h : IsName name) : '$' ∉ name := by
  cases name with
  | nil => exact h.elim
  | cons c rest =>
    rintro (_ | ⟨_, hmem⟩)
    · exact absurd h.1 (by decide)
    · exact absurd (h.2 _ hmem) (by decide)

/-- A macro as it is written, with what stands between the parentheses. Nothing is asked of
this, so that the shell of a macro with others in it can be written down in the same way.
-/
def writtenMacro (name inner : List Char) : List Char :=
  '$' :: '{' :: (name ++ '(' :: (inner ++ [')', '}']))

section Reading

variable {name inner : List Char}

theorem nameAt?_append (h : IsName name) (s : List Char) :
    nameAt? (name ++ '(' :: s) = some name := by
  cases name with
  | nil => exact h.elim
  | cons c rest =>
    have stop : ∀ d ∈ ('(' :: s).head?, Text.isWordChar d = false := by simp; decide
    rw [List.cons_append, nameAt?, if_pos h.1, Text.takeWhile_of_longest h.2 stop]

/-- Behind the name the arguments are read as far as they go, and then the macro must be
closed. -/
theorem macroAt?_append (h : IsName name) (hinner : ∀ c ∈ inner, isArgumentChar c = true)
    {c : Char} (hc : isArgumentChar c = false) (s : List Char) :
    macroAt? ('$' :: '{' :: (name ++ '(' :: (inner ++ c :: s))) =
      if c = ')' ∧ s.head? = some '}' then
        some ⟨String.ofList name, inner, name.length + inner.length + 5⟩
      else none := by
  have stop : ∀ d ∈ (c :: s).head?, isArgumentChar d = false := by simpa using hc
  simp only [macroAt?, nameAt?_append h, Option.bind_eq_bind, Option.bind_some, List.drop_left,
    Text.takeWhile_of_longest hinner stop]
  split
  next heq => cases heq; simp
  next other =>
    rw [if_neg]
    rintro ⟨rfl, hs⟩
    cases s with
    | nil => cases hs
    | cons d s =>
      cases hs
      exact other s rfl

/-- **A macro is found** if nothing but characters of arguments stands between the
parentheses. -/
theorem macroAt?_writtenMacro (h : IsName name) (hinner : ∀ c ∈ inner, isArgumentChar c = true)
    (rest : List Char) : macroAt? (writtenMacro name inner ++ rest)
      = some ⟨String.ofList name, inner, name.length + inner.length + 5⟩ := by
  have shape : writtenMacro name inner ++ rest
      = '$' :: '{' :: (name ++ '(' :: (inner ++ ')' :: '}' :: rest)) := by
    simp [writtenMacro]
  rw [shape, macroAt?_append h hinner (by decide), if_pos ⟨rfl, rfl⟩]

/-- **No macro is found** if another one begins between the parentheses. A dollar cannot
stand in an argument, so the outer macro is not read as one; its turn comes when the inner
one has been replaced. -/
theorem macroAt?_eq_none {front behind : List Char} (h : IsName name)
    (hfront : ∀ c ∈ front, isArgumentChar c = true) (rest : List Char) :
    macroAt? (writtenMacro name (front ++ '$' :: behind) ++ rest) = none := by
  have shape : writtenMacro name (front ++ '$' :: behind) ++ rest
      = '$' :: '{' :: (name ++ '(' :: (front ++ '$' :: (behind ++ ')' :: '}' :: rest))) := by
    simp [writtenMacro]
  rw [shape, macroAt?_append h hfront (by decide), if_neg (by simp)]

theorem macroAt?_of_ne {c : Char} (hc : c ≠ '$') (s : List Char) : macroAt? (c :: s) = none := by
  unfold macroAt?
  split
  next heq => exact absurd (List.cons.inj heq).1 hc
  · rfl

end Reading

/-! ## What passes -/

section Passing

variable {r : Registry} {place : String} {s s' t t' : List Char}

/-- **A round takes a text to another**, whatever stands behind it.

The statement is about what is answered, and from every state. So the calls that a round
makes count for nothing, which suits functions that look at their arguments alone. That it
holds whatever stands behind is what makes it possible to append. -/
def Passes (r : Registry) (place : String) (s s' : List Char) : Prop :=
  ∀ rest out, Answers (expandOnce r place 0 rest) (.ok out) →
    Answers (expandOnce r place 0 (s ++ rest)) (.ok (s' ++ out))

theorem Passes.nil : Passes r place [] [] := fun _ _ h => h

theorem Passes.append (hs : Passes r place s s') (ht : Passes r place t t') :
    Passes r place (s ++ t) (s' ++ t') := by
  intro rest out h
  rw [List.append_assoc, List.append_assoc]
  exact hs _ _ (ht _ _ h)

/-- The round over what passes. -/
theorem Passes.answers (h : Passes r place s s') : Answers (expandOnce r place 0 s) (.ok s') := by
  simpa using h [] [] (Answers.pure [])

/-- A character that begins no macro stays. -/
theorem answers_expandOnce_cons {c : Char} {rest out : List Char}
    (none : macroAt? (c :: rest) = none) (h : Answers (expandOnce r place 0 rest) (.ok out)) :
    Answers (expandOnce r place 0 (c :: rest)) (.ok (c :: out)) := by
  rw [expandOnce, none]
  exact h.bind_ok (Answers.pure _)

/-- **A text without dollars stays.** There is nothing in it with which a macro could
begin. -/
theorem passes_plain (h : '$' ∉ s) : Passes r place s s := by
  intro rest out hrest
  induction s with
  | nil => exact hrest
  | cons c s ih =>
    rw [List.mem_cons, not_or] at h
    exact answers_expandOnce_cons (macroAt?_of_ne (Ne.symm h.1) _) (ih h.2)

/-- What belongs to a macro is passed over. -/
theorem expandOnce_skip (skip : Nat) (s : List Char) :
    expandOnce r place skip s = expandOnce r place 0 (s.drop skip) := by
  induction skip generalizing s with
  | zero => rfl
  | succ skip ih =>
    cases s with
    | nil => rfl
    | cons c s => exact ih s

/-- What a registered function gives is the answer of the macro that calls it. -/
theorem answers_expandMacro {m : Macro} {g : MacroFunction} {value : String}
    (found : r.find? m.name = some g) (gives : ∀ c, g c (readArguments m.arguments) = .ok value)
    (written : List Char) : Answers (expandMacro r place written m) (.ok value) := by
  have there : r.contains m.name = true := by
    rw [Registry.contains, found]
    rfl
  have called : Answers (invoke r m.name (readArguments m.arguments)) (.ok value) := by
    intro calls
    show r.call m.name _ (readArguments m.arguments) = .ok value
    rw [Registry.call, found]
    exact gives _
  unfold expandMacro
  dsimp only
  rw [there]
  exact called.adapt

/-- **A macro becomes its value** if nothing but characters of arguments stands between the
parentheses. The value may be anything, also a text with macros: it is not looked at in
this round. -/
theorem passes_macro {name inner : List Char} {g : MacroFunction} {value : String}
    (hname : IsName name) (hinner : ∀ c ∈ inner, isArgumentChar c = true)
    (found : r.find? (String.ofList name) = some g)
    (gives : ∀ c, g c (readArguments inner) = .ok value) :
    Passes r place (writtenMacro name inner) value.toList := by
  intro rest out hrest
  have read := macroAt?_writtenMacro hname hinner rest
  have size : (writtenMacro name inner).length = name.length + inner.length + 5 := by
    simp only [writtenMacro, List.length_cons, List.length_append, List.length_nil]
    omega
  obtain ⟨body, shape⟩ : ∃ body, writtenMacro name inner = '$' :: body := ⟨_, rfl⟩
  rw [shape, List.cons_append] at read ⊢
  rw [shape, List.length_cons] at size
  rw [expandOnce, read]
  -- the macro is as long as it is written, so that what follows it comes next
  have next : expandOnce r place (name.length + inner.length + 5 - 1) (body ++ rest)
      = expandOnce r place 0 rest := by
    rw [expandOnce_skip, ← size, Nat.add_sub_cancel, List.drop_left]
  have becomes (written : List Char) : Answers (expandMacro r place written
      ⟨String.ofList name, inner, name.length + inner.length + 5⟩) (.ok value) :=
    answers_expandMacro found gives written
  refine (becomes _).bind_ok ?_
  dsimp only
  rw [next]
  exact hrest.bind_ok (Answers.pure _)

/-- **The shell of a macro stays** if another one begins between the parentheses. What
stands between them is passed by itself, up to where the parentheses are closed. -/
theorem passes_shell {name front behind inner : List Char} (hname : IsName name)
    (hfront : ∀ c ∈ front, isArgumentChar c = true)
    (h : Passes r place (front ++ '$' :: behind) inner) :
    Passes r place (writtenMacro name (front ++ '$' :: behind)) (writtenMacro name inner) := by
  have head : '$' ∉ '{' :: (name ++ ['(']) := by
    simpa using hname.not_mem
  have body := ((passes_plain head).append h).append (passes_plain (by decide : '$' ∉ [')', '}']))
  intro rest out hrest
  have none : macroAt? (writtenMacro name (front ++ '$' :: behind) ++ rest) = none :=
    macroAt?_eq_none hname hfront rest
  refine answers_expandOnce_cons none ?_
  simpa using body rest out hrest

end Passing

/-! ## Rounds -/

section Rounds

variable {r : Registry} {place : String} {s s' t : List Char}

theorem hasMacro_of_not_mem (h : '$' ∉ s) : hasMacro s = false := by
  induction s with
  | nil => rfl
  | cons c s ih =>
    rw [List.mem_cons, not_or] at h
    rw [hasMacro, macroAt?_of_ne (Ne.symm h.1), ih h.2]
    rfl

/-- A round over a text without macros leaves it. -/
theorem answers_expandOnce_of_none (h : hasMacro s = false) :
    Answers (expandOnce r place 0 s) (.ok s) := by
  induction s with
  | nil => exact Answers.pure _
  | cons c s ih =>
    rw [hasMacro, Bool.or_eq_false_iff, Option.isSome_eq_false_iff, Option.isNone_iff_eq_none] at h
    exact answers_expandOnce_cons h.1 (ih h.2)

/-- A text without macros needs no rounds. -/
theorem expandRounds_of_none (none : hasMacro s = false) (source : String) (n : Nat) :
    expandRounds r place source n s = pure s := by
  unfold expandRounds
  rw [if_neg (by simp [none])]

/-- **Rounds, so many at most, lead from a text to another** in which no macro is left. The
number is a bound and not a count, so that what takes fewer rounds than its neighbour can
be led along with it. -/
inductive Leads (r : Registry) (place : String) : Nat → List Char → List Char → Prop
  /-- There is nothing to be done. -/
  | done {n : Nat} {s : List Char} (none : hasMacro s = false) : Leads r place n s s
  /-- A round is done, and then the others. -/
  | round {n : Nat} {s s' t : List Char} (first : Passes r place s s')
      (rest : Leads r place n s' t) : Leads r place (n + 1) s t

/-- **Where rounds lead is what a text is expanded to.** A round that is not made, as no
macro is left, would have changed nothing. -/
theorem Leads.answers {n : Nat} (h : Leads r place n s t) (source : String) :
    Answers (expandRounds r place source n s) (.ok t) := by
  have stays {n : Nat} {s : List Char} (none : hasMacro s = false) :
      Answers (expandRounds r place source n s) (.ok s) := by
    rw [expandRounds_of_none none]
    exact Answers.pure s
  induction h with
  | done none => exact stays none
  | @round n s s' t first rest ih =>
    by_cases held : hasMacro s = true
    · unfold expandRounds
      rw [if_pos held]
      exact first.answers.bind_ok ih
    · have none : hasMacro s = false := Bool.eq_false_iff.mpr held
      obtain rfl : s = s' := Except.ok.inj
        ((answers_expandOnce_of_none none).unique first.answers ⟨0, fun _ => ⟨0, id⟩⟩)
      obtain rfl : s = t := Except.ok.inj ((stays none).unique ih ⟨0, fun _ => ⟨0, id⟩⟩)
      exact stays none

end Rounds

end Placeholder

end CaseRunner
