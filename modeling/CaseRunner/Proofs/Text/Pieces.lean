import CaseRunner.Text.Search
import Mathlib.Data.List.TakeWhile

/-!
# The pieces of a text

What `splitBy` makes of a text that is put together from parts. A separator cuts a text in
two that are split each by itself (`splitBy_append_cons`), and a text without one is a
single piece; so where the separators of a text are known, its pieces are. The pieces are
what cannot be made longer without a separator in it (`mem_splitBy_iff`).

And what the longest beginning of a text is whose characters have a property: a text is put
together from it and what does not go on with it in one way (`exists_longest`).

What stands before and behind a piece is looked at only by its last and its first
character. If there is none the piece stands at an end of the text, which is as good as a
separator. Therefore the conditions are put as they are here, for all characters that the
one part ends with and the other begins with, which may be no character.
-/

namespace CaseRunner.Text

variable {test : Char → Bool}

/-- A text without separators is one piece. -/
theorem splitBy_of_forall {s : List Char} (h : ∀ c ∈ s, test c = false) :
    splitBy test s = [s] := by
  induction s with
  | nil => rfl
  | cons c rest ih =>
    obtain ⟨hc, hrest⟩ := List.forall_mem_cons.mp h
    rw [splitBy, if_neg (by simp [hc]), ih hrest]

/-- The pieces of a text are those before a separator and those behind it. -/
theorem splitBy_append_cons {c : Char} (hc : test c = true) (a b : List Char) :
    splitBy test (a ++ c :: b) = splitBy test a ++ splitBy test b := by
  induction a with
  | nil =>
    show splitBy test (c :: b) = [] :: splitBy test b
    rw [splitBy, if_pos hc]
  | cons d a ih =>
    by_cases hd : test d = true
    · rw [List.cons_append, splitBy, splitBy, if_pos hd, if_pos hd, ih, List.cons_append]
    · rw [List.cons_append, splitBy, splitBy, if_neg hd, if_neg hd, ih]
      cases ha : splitBy test a with
      | nil => exact absurd ha (splitBy_ne_nil test a)
      | cons piece pieces => rfl

/-- No piece holds a separator. -/
theorem forall_mem_splitBy {s piece : List Char} (h : piece ∈ splitBy test s) :
    ∀ c ∈ piece, test c = false := by
  induction s generalizing piece with
  | nil =>
    obtain rfl := List.mem_singleton.mp h
    exact nofun
  | cons d rest ih =>
    by_cases hd : test d = true
    · rw [splitBy, if_pos hd] at h
      rcases List.mem_cons.mp h with rfl | h
      · exact nofun
      · exact ih h
    · rw [splitBy, if_neg hd] at h
      cases hrest : splitBy test rest with
      | nil => exact absurd hrest (splitBy_ne_nil test rest)
      | cons first pieces =>
        rw [hrest] at h ih
        rcases List.mem_cons.mp h with rfl | h
        · exact List.forall_mem_cons.mpr ⟨by simpa using hd, ih List.mem_cons_self⟩
        · exact ih (List.mem_cons_of_mem _ h)

/-- **A stretch between separators is a piece.** -/
theorem mem_splitBy_append {a w b : List Char} (hw : ∀ c ∈ w, test c = false)
    (ha : ∀ c ∈ a.getLast?, test c = true) (hb : ∀ c ∈ b.head?, test c = true) :
    w ∈ splitBy test (a ++ (w ++ b)) := by
  have behind : w ∈ splitBy test (w ++ b) := by
    cases b with
    | nil => simp [splitBy_of_forall hw]
    | cons c b => simp [splitBy_append_cons (hb c rfl), splitBy_of_forall hw]
  cases hlast : a.getLast? with
  | none => rwa [List.getLast?_eq_none_iff.mp hlast, List.nil_append]
  | some c =>
    obtain ⟨front, rfl⟩ := List.getLast?_eq_some_iff.mp hlast
    rw [List.append_assoc, List.singleton_append, splitBy_append_cons (ha c hlast)]
    exact List.mem_append_right _ behind

/-! ## The longest beginning -/

section Longest

variable {front rest : List Char}

/-- The longest beginning of a text whose characters have a property. -/
theorem takeWhile_of_longest (all : ∀ c ∈ front, test c = true)
    (longest : ∀ c ∈ rest.head?, test c = false) : (front ++ rest).takeWhile test = front := by
  rw [List.takeWhile_append_of_pos all]
  cases rest with
  | nil => simp
  | cons c rest => rw [List.takeWhile_cons_of_neg (by simp [longest c rfl]), List.append_nil]

/-- What stands behind it. -/
theorem dropWhile_of_longest (all : ∀ c ∈ front, test c = true)
    (longest : ∀ c ∈ rest.head?, test c = false) : (front ++ rest).dropWhile test = rest := by
  rw [List.dropWhile_append_of_pos all]
  cases rest with
  | nil => rfl
  | cons c rest => rw [List.dropWhile_cons_of_neg (by simp [longest c rfl])]

/-- A text is its longest such beginning and what does not go on with it. -/
theorem exists_longest (test : Char → Bool) (s : List Char) :
    ∃ front rest, s = front ++ rest ∧ s.takeWhile test = front ∧ (∀ c ∈ front, test c = true)
      ∧ ∀ c ∈ rest.head?, test c = false := by
  refine ⟨s.takeWhile test, s.dropWhile test, List.takeWhile_append_dropWhile.symm, rfl,
    fun c hc => List.mem_takeWhile_imp hc, fun c hc => ?_⟩
  have := List.head?_dropWhile_not test s
  rwa [Option.mem_def.mp hc] at this

/-- **A text is put together from them in one way.** -/
theorem longest_inj {front' rest' : List Char} (all : ∀ c ∈ front, test c = true)
    (longest : ∀ c ∈ rest.head?, test c = false) (all' : ∀ c ∈ front', test c = true)
    (longest' : ∀ c ∈ rest'.head?, test c = false) (h : front ++ rest = front' ++ rest') :
    front = front' ∧ rest = rest' := by
  constructor
  · rw [← takeWhile_of_longest all longest, h, takeWhile_of_longest all' longest']
  · rw [← dropWhile_of_longest all longest, h, dropWhile_of_longest all' longest']

end Longest

/-! ## Where the pieces stand -/

/-- A piece stands between separators, or at an end of the text. -/
theorem exists_of_mem_splitBy {s w : List Char} (h : w ∈ splitBy test s) :
    ∃ a b, s = a ++ (w ++ b) ∧ (∀ c ∈ a.getLast?, test c = true)
      ∧ ∀ c ∈ b.head?, test c = true := by
  induction hn : s.length using Nat.strong_induction_on generalizing s with
  | _ n ih =>
    obtain ⟨front, rest, rfl, -, plain, ends⟩ := exists_longest (fun c => !test c) s
    have plain : ∀ c ∈ front, test c = false := fun c hc => by simpa using plain c hc
    cases rest with
    | nil =>
      rw [List.append_nil, splitBy_of_forall plain, List.mem_singleton] at h
      exact ⟨[], [], by simp [h], nofun, nofun⟩
    | cons c rest =>
      have hc : test c = true := by simpa using ends c rfl
      rw [splitBy_append_cons hc, splitBy_of_forall plain, List.singleton_append,
        List.mem_cons] at h
      rcases h with rfl | h
      · exact ⟨[], c :: rest, by simp, nofun, fun d hd => Option.mem_some.mp hd ▸ hc⟩
      · have shorter : rest.length < n := by
          rw [← hn, List.length_append, List.length_cons]
          omega
        obtain ⟨a, b, rfl, ha, hb⟩ := ih _ shorter h rfl
        refine ⟨front ++ c :: a, b, by simp, fun d hd => ?_, hb⟩
        cases a with
        | nil => simpa [← Option.mem_some.mp (by simpa using hd)] using hc
        | cons e a => exact ha d (by simpa [List.getLast?_append] using hd)

/-- **The pieces of a text** are its stretches without separators that cannot be made
longer. The empty stretch between two separators in a row is a piece as well, and so is the
one behind a separator at the end. -/
theorem mem_splitBy_iff {s w : List Char} :
    w ∈ splitBy test s ↔ ∃ a b, s = a ++ (w ++ b) ∧ (∀ c ∈ w, test c = false)
      ∧ (∀ c ∈ a.getLast?, test c = true) ∧ ∀ c ∈ b.head?, test c = true := by
  constructor
  · intro h
    obtain ⟨a, b, hs, ha, hb⟩ := exists_of_mem_splitBy h
    exact ⟨a, b, hs, forall_mem_splitBy h, ha, hb⟩
  · rintro ⟨a, b, rfl, hw, ha, hb⟩
    exact mem_splitBy_append hw ha hb

end CaseRunner.Text
