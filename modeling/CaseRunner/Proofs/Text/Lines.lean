import CaseRunner.Proofs.Text.Pieces
import CaseRunner.Text.Blank
import Mathlib.Data.List.DropRight

/-!
# Lines and their ends

A text that is written line by line has these lines, as long as no line holds an end of
line itself or ends with what would be taken for a part of one (`lines_flatMap`). Trimming
takes nothing from a text that neither begins nor ends with a blank, and leaves a text that
does neither (`trim_eq_self`, `ends_trim`).

Files of variables are read by cutting: into lines, at the first `=` of a line, and at
blanks. For each of the cuts there is a lemma that says what becomes of a text which was
put together, and one that says of what a text must have been put together. The first kind
shows that something that was written is read, and the second kind that nothing else is.
-/

namespace CaseRunner.Text

/-! ## Lines -/

theorem splitBy_flatMap {test : Char → Bool} {c : Char} (hc : test c = true)
    {ls : List (List Char)} (h : ∀ l ∈ ls, ∀ d ∈ l, test d = false) :
    splitBy test (ls.flatMap (· ++ [c])) = ls ++ [[]] := by
  induction ls with
  | nil => rfl
  | cons l ls ih =>
    obtain ⟨hl, hls⟩ := List.forall_mem_cons.mp h
    rw [List.flatMap_cons, List.append_assoc, List.singleton_append, splitBy_append_cons hc,
      splitBy_of_forall hl, ih hls]
    rfl

/-- **A text that is written line by line has these lines.** The carriage return is
excluded only at the end of a line, where it counts as a part of the end. Inside a line it
is a character as any other. -/
theorem lines_flatMap {ls : List (List Char)}
    (h : ∀ l ∈ ls, '\n' ∉ l ∧ l.getLast? ≠ some '\r') :
    lines (ls.flatMap (· ++ ['\n'])) = ls := by
  have pieces : splitBy (· == '\n') (ls.flatMap (· ++ ['\n'])) = ls ++ [[]] :=
    splitBy_flatMap rfl fun l hl d hd => beq_false_of_ne fun heq => (h l hl).1 (heq ▸ hd)
  have whole : ∀ l ∈ ls, (stripLast? '\r' l).getD l = l := fun l hl => by
    rw [stripLast?, if_neg (h l hl).2, Option.getD_none]
  rw [lines, pieces]
  rw [if_pos List.getLast?_concat, List.dropLast_concat]
  refine List.ext_getElem (List.length_mapIdx ..) fun i hi hi' => ?_
  rw [List.getElem_mapIdx]
  split
  · exact whole _ (List.getElem_mem hi')
  · rfl

/-- No line holds an end of line. -/
theorem not_mem_of_mem_lines {s l : List Char} (h : l ∈ lines s) : '\n' ∉ l := by
  have piece : ∀ p ∈ splitBy (· == '\n') s, '\n' ∉ p := fun p hp hmem =>
    absurd (forall_mem_splitBy hp _ hmem) (by decide)
  rw [lines, List.mem_mapIdx] at h
  obtain ⟨i, hi, rfl⟩ := h
  generalize hpieces : (if (splitBy (· == '\n') s).getLast? = some [] then
    (splitBy (· == '\n') s).dropLast else splitBy (· == '\n') s) = pieces at hi
  have mem : pieces[i] ∈ splitBy (· == '\n') s := by
    have := List.getElem_mem hi
    generalize pieces[i] = p at this ⊢
    rw [← hpieces] at this
    split at this
    · exact List.dropLast_subset _ this
    · exact this
  generalize pieces[i] = p at mem ⊢
  split
  · rw [stripLast?]
    split
    · exact fun hmem => piece p mem (List.dropLast_subset p hmem)
    · exact piece p mem
  · exact piece p mem

/-! ## Before and behind a mark -/

theorem splitOnce?_append_cons {mark : Char} {a : List Char} (h : mark ∉ a) (b : List Char) :
    splitOnce? mark (a ++ mark :: b) = some (a, b) := by
  induction a with
  | nil => rw [List.nil_append, splitOnce?, if_pos rfl]
  | cons c a ih =>
    rw [List.cons_append, splitOnce?, if_neg (List.ne_of_not_mem_cons h).symm,
      ih (List.not_mem_of_not_mem_cons h)]
    rfl

/-- What is cut at a mark was the one part, the mark and the other part. -/
theorem exists_of_splitOnce? {mark : Char} {s a b : List Char}
    (h : splitOnce? mark s = some (a, b)) : mark ∉ a ∧ s = a ++ mark :: b := by
  induction s generalizing a with
  | nil => cases h
  | cons c s ih =>
    rw [splitOnce?] at h
    split at h
    · rename_i hc
      cases h
      exact ⟨List.not_mem_nil, hc ▸ rfl⟩
    · rename_i hc
      obtain ⟨⟨a', b'⟩, hs, heq⟩ := Option.map_eq_some_iff.mp h
      cases heq
      obtain ⟨hmark, rfl⟩ := ih hs
      exact ⟨List.not_mem_cons_of_ne_of_not_mem (Ne.symm hc) hmark, rfl⟩

/-! ## Blanks at the ends -/

theorem trim_eq (s : List Char) : trim s = (s.dropWhile isBlank).rdropWhile isBlank := rfl

theorem trim_subset (s : List Char) : trim s ⊆ s := fun _ h =>
  (List.dropWhile_sublist isBlank).subset ((List.rdropWhile_prefix isBlank _).subset h)

/-- A trimmed text neither begins nor ends with a blank. -/
theorem ends_trim (s : List Char) :
    (∀ c ∈ (trim s).head?, isBlank c = false) ∧ ∀ c ∈ (trim s).getLast?, isBlank c = false := by
  refine ⟨fun c hc => ?_, fun c hc => ?_⟩
  · obtain ⟨rest, hrest⟩ := List.rdropWhile_prefix isBlank (s.dropWhile isBlank)
    refine head?_trimStart s c ?_
    rw [trimStart, ← hrest, List.head?_append, ← trim_eq, hc]
    rfl
  · obtain ⟨hne, rfl⟩ := List.mem_getLast?_eq_getLast hc
    exact Bool.eq_false_iff.mpr (List.rdropWhile_last_not isBlank _ hne)

/-- **What trimming leaves alone**: a text that neither begins nor ends with a blank. The
text may be empty; then there is nothing that it begins with. -/
theorem trim_eq_self {s : List Char} (hhead : ∀ c ∈ s.head?, isBlank c = false)
    (hlast : ∀ c ∈ s.getLast?, isBlank c = false) : trim s = s := by
  have front : s.dropWhile isBlank = s := List.dropWhile_eq_self_iff.mpr fun hlen =>
    Bool.eq_false_iff.mp (hhead _ (List.head?_eq_getElem? ▸ List.getElem?_eq_getElem hlen))
  rw [trim_eq, front]
  exact List.rdropWhile_eq_self_iff.mpr fun hne =>
    Bool.eq_false_iff.mp (hlast _ (List.getLast?_eq_some_getLast hne))

end CaseRunner.Text
