import CaseRunner.Placeholder.Substitution
import CaseRunner.Proofs.Text.Pieces

/-!
# Where a placeholder is found

A placeholder is found by walking along a text with one eye on the character before. What
is found can be said without the walk: a sign and a name in braces, or a sign and a name
that is as long as it can be and, if the form asks for it, between gaps
(`Placeholder.Begins`). The two agree (`Placeholder.placeholderAt?_eq_some_iff`), whatever
the form is.

There are two forms. Variables have a sign of their own and must stand alone if they are
bare, and relation variables have another sign and need not. Both are covered by one
definition with the form as a parameter, and nothing further on depends on which one it is,
but for the last few steps.
-/

namespace CaseRunner.Placeholder

/-! ## Names -/

/-- The longest name at the front of a text. -/
theorem nameAt?_eq_some_iff {s name : List Char} :
    nameAt? s = some name ↔ ∃ c cs rest, s = c :: (cs ++ rest) ∧ name = c :: cs
      ∧ Text.isNameStart c = true ∧ (∀ c ∈ cs, Text.isWordChar c = true)
      ∧ ∀ c ∈ rest.head?, Text.isWordChar c = false := by
  constructor
  · intro h
    unfold nameAt? at h
    split at h
    next c s =>
      split at h
      next start =>
        obtain ⟨cs, rest, rfl, hcs, word, longest⟩ := Text.exists_longest Text.isWordChar s
        rw [hcs] at h
        cases h
        exact ⟨c, cs, rest, rfl, rfl, start, word, longest⟩
      next => cases h
    next => cases h
  · rintro ⟨c, cs, rest, rfl, rfl, start, word, longest⟩
    rw [nameAt?, if_pos start, Text.takeWhile_of_longest word longest]

/-! ## Placeholders -/

/-- **There is a gap**: a blank, or nothing. The beginning of a text and its end are as
good as blanks. -/
abbrev Gap (c : Option Char) : Prop := ∀ d ∈ c, Text.isBlank d = true

/-- **A placeholder begins here**, behind a character or nothing: how it is written, its
name, and what stands behind it.

How it is written and what stands behind it make up the text, so that the relation divides
the text as well. A name in braces may begin with a digit, and what stands around the
braces does not matter; a bare name is the longest that there is, so that it cannot be cut
short to stand alone. -/
inductive Begins (form : Form) (before : Option Char) :
    List Char → List Char → List Char → Prop
  /-- A name in braces is made of word characters. -/
  | braced {name rest : List Char} (some : name ≠ [])
      (word : ∀ c ∈ name, Text.isWordChar c = true) :
      Begins form before (form.sigil :: '{' :: (name ++ ['}'])) name rest
  /-- A bare name begins with a letter, is as long as it can be, and stands alone if it
  must. -/
  | bare {c : Char} {name rest : List Char} (start : Text.isNameStart c = true)
      (word : ∀ c ∈ name, Text.isWordChar c = true)
      (longest : ∀ c ∈ rest.head?, Text.isWordChar c = false)
      (alone : form.standalone = true → Gap before ∧ Gap rest.head?) :
      Begins form before (form.sigil :: c :: name) (c :: name) rest

theorem isGap_eq_true_iff {c : Option Char} : isGap c = true ↔ Gap c := by
  cases c <;> simp [isGap, Gap]

/-- A bare name stands alone if it must. -/
theorem alone_iff {form : Form} {before after : Option Char} :
    (!form.standalone || (isGap before && isGap after)) = true
      ↔ (form.standalone = true → Gap before ∧ Gap after) := by
  cases form.standalone <;> simp [isGap_eq_true_iff]

variable {form : Form} {before : Option Char} {s written name rest : List Char}

/-- It is written with the sign of its form in front. -/
theorem Begins.sigil (h : Begins form before written name rest) :
    ∃ tail, written = form.sigil :: tail := by
  cases h <;> exact ⟨_, rfl⟩

/-- **A placeholder is found where one begins.** -/
theorem Begins.placeholderAt? (h : Begins form before written name rest) :
    placeholderAt? form before (written ++ rest)
      = some (String.ofList name, written.length) := by
  cases h with
  | braced some word =>
    -- the name ends where the brace is
    have closing : ∀ c ∈ ('}' :: rest).head?, Text.isWordChar c = false := by
      rintro c hc
      cases hc
      decide
    have shape : form.sigil :: '{' :: (name ++ ['}']) ++ rest
        = form.sigil :: '{' :: (name ++ '}' :: rest) := by simp
    rw [shape, Placeholder.placeholderAt?, Text.takeWhile_of_longest word closing, List.drop_left,
      if_pos (by simpa using some)]
    simp
  | @bare c cs rest start word longest alone =>
    have hname : nameAt? (c :: (cs ++ rest)) = some (c :: cs) :=
      nameAt?_eq_some_iff.mpr ⟨c, cs, rest, rfl, rfl, start, word, longest⟩
    -- what a name begins with is no brace
    have hc : c ≠ '{' := by
      rintro rfl
      cases start
    have behind : (c :: (cs ++ rest)).drop (c :: cs).length = rest := List.drop_left
    rw [List.cons_append, List.cons_append,
      placeholderAt?.eq_2 _ _ _ _ fun _ h => hc (List.cons.inj h).1, hname]
    dsimp only
    rw [behind, if_pos (by simpa using alone_iff.mpr alone)]
    rfl

/-- **A placeholder begins where one is found.** An opening brace behind the sign decides
that it has to be a name in braces, as no bare name begins with one. -/
theorem begins_of_placeholderAt? {n : String} {size : Nat}
    (h : placeholderAt? form before s = some (n, size)) :
    ∃ written name rest, s = written ++ rest ∧ Begins form before written name rest
      ∧ n = String.ofList name ∧ size = written.length := by
  unfold placeholderAt? at h
  split at h
  next c s =>
    obtain ⟨name, rest, rfl, hname, word, -⟩ := Text.exists_longest Text.isWordChar s
    dsimp only at h
    rw [hname, List.drop_left] at h
    split at h
    next found =>
      cases h
      simp only [Bool.and_eq_true, Bool.not_eq_true', decide_eq_true_eq,
        List.head?_eq_some_iff, List.isEmpty_eq_false_iff] at found
      obtain ⟨⟨rfl, some⟩, after, rfl⟩ := found
      exact ⟨_, name, after, by simp, .braced some word, rfl, by simp⟩
    next => cases h
  next c s _ =>
    split at h
    next name found =>
      obtain ⟨d, cs, rest, rfl, rfl, start, word, longest⟩ := nameAt?_eq_some_iff.mp found
      split at h
      next sigil =>
        cases h
        rw [Bool.and_eq_true, decide_eq_true_eq] at sigil
        obtain ⟨rfl, alone⟩ := sigil
        have behind : (d :: (cs ++ rest)).drop (d :: cs).length = rest := List.drop_left
        rw [behind] at alone
        exact ⟨_, d :: cs, rest, rfl, .bare start word longest (alone_iff.mp alone), rfl, rfl⟩
      next => cases h
    next => cases h
  next => cases h

/-- **What is found is what begins.** Both directions are needed: what begins must not be
overlooked, and a text that is no placeholder must not be taken for one. -/
theorem placeholderAt?_eq_some_iff {n : String} {size : Nat} :
    placeholderAt? form before s = some (n, size) ↔
      ∃ written name rest, s = written ++ rest ∧ Begins form before written name rest
        ∧ n = String.ofList name ∧ size = written.length := by
  refine ⟨begins_of_placeholderAt?, ?_⟩
  rintro ⟨written, name, rest, rfl, begins, rfl, rfl⟩
  exact begins.placeholderAt?

/-- **No placeholder begins here** exactly if none of any length does. -/
theorem placeholderAt?_eq_none_iff : placeholderAt? form before s = none ↔
    ∀ written name rest, s = written ++ rest → ¬ Begins form before written name rest := by
  constructor
  · rintro h written name rest rfl begins
    rw [begins.placeholderAt?] at h
    cases h
  · intro h
    cases found : placeholderAt? form before s with
    | none => rfl
    | some p =>
      obtain ⟨written, name, rest, hs, begins, -⟩ := begins_of_placeholderAt? found
      exact absurd begins (h _ _ _ hs)

/-- **One placeholder begins at a place, or none.** Both are what is found there, and one
thing is found. -/
theorem Begins.unique {written' name' rest' : List Char}
    (h : Begins form before written name rest) (h' : Begins form before written' name' rest')
    (heq : written ++ rest = written' ++ rest') :
    written = written' ∧ name = name' ∧ rest = rest' := by
  have found := h.placeholderAt?
  rw [heq, h'.placeholderAt?, Option.some.injEq, Prod.mk.injEq, String.ofList_inj] at found
  obtain ⟨rfl, hlength⟩ := found
  obtain ⟨rfl, rfl⟩ := List.append_inj heq hlength.symm
  exact ⟨rfl, rfl, rfl⟩

end CaseRunner.Placeholder
