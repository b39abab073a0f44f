import CaseRunner.Proofs.Text.Lines
import CaseRunner.Proofs.Text.UpperCase

/-!
# Words in any letter case

Whether a text is a word in any letter case can be asked in two ways: by putting the text
into lower case, in the sense of Unicode, and by comparing letter by letter up to the case
of ASCII. They agree on the words of which no letter has a capital outside ASCII
(`toLower_eq_iff`). Only `i` and `k` have such capitals. And such a word has no blanks
around it (`trimmed_of_word`).

Both ways are met: where words come in from documents and where they come in from settings
they are compared by different rules. None of the words in question has an `i` or a `k` in
it, which is why the two cannot be told apart by the words. That this is a fact about these
words, and none about the rules, shows in the hypothesis.
-/

namespace CaseRunner.Text

/-- The letters of ASCII that are the lower case of nothing outside ASCII. The sign for
degrees Kelvin has the lower case `k`, and the dotted capital of Turkish has a lower case
that begins with `i`; all other letters have their one capital and no other. -/
def plainLetters : List Char := "abcdefghjlmnopqrstuvwxyz".toList

/-- They are small letters of ASCII, and none is `i` or `k`. -/
theorem plain_of_mem {c : Char} (h : c ∈ plainLetters) :
    c.toNat < 0x80 ∧ c.toNat ≠ 0x69 ∧ c.toNat ≠ 0x6b ∧ c.toLower = c ∧ isBlank c = false := by
  have all : plainLetters.all (fun c => c.toNat < 0x80 ∧ c.toNat ≠ 0x69 ∧ c.toNat ≠ 0x6b
      ∧ c.toLower = c ∧ isBlank c = false) = true := by decide
  exact of_decide_eq_true (List.all_eq_true.mp all c h)

/-- What stands in the tables as a lower case outside ASCII is not one of them. -/
theorem ofNat_not_mem_plainLetters {n : Nat} (valid : n.isValidChar)
    (h : 0x80 ≤ n ∨ n = 0x69 ∨ n = 0x6b) : Char.ofNat n ∉ plainLetters := by
  have code : (Char.ofNat n).toNat = n := by
    rw [Char.ofNat, dif_pos valid]
    rfl
  intro hmem
  have := plain_of_mem hmem
  rw [code] at this
  omega

/-- What is put into lower case outside ASCII does not begin with such a letter. -/
theorem exists_head_lowerChar {c : Char} (hc : 0x80 ≤ c.toNat) :
    ∃ d rest, lowerChar c = d :: rest ∧ d ∉ plainLetters := by
  have expanded : ∀ e ∈ lowerExpansions, ∃ n ∈ e.2.head?,
      n.isValidChar ∧ (0x80 ≤ n ∨ n = 0x69 ∨ n = 0x6b) := by decide
  have shifted : ∀ run ∈ lowerRuns, (∀ n ∈ run.codes, n < 0x80)
      ∨ ∀ n ∈ run.images, n.isValidChar ∧ (0x80 ≤ n ∨ n = 0x69 ∨ n = 0x6b) := by
    decide +kernel
  rw [lowerChar, if_neg (Nat.not_lt.mpr hc), mapCase]
  cases hfind : lowerExpansions.find? (·.1 == c.toNat) with
  | some e =>
    obtain ⟨n, hn, valid, far⟩ := expanded e (List.mem_of_find?_eq_some hfind)
    obtain ⟨codes, hcodes⟩ := List.head?_eq_some_iff.mp hn
    exact ⟨Char.ofNat n, codes.map Char.ofNat, by simp [hcodes],
      ofNat_not_mem_plainLetters valid far⟩
  | none =>
    refine ⟨_, [], rfl, ?_⟩
    rcases shiftBy_eq_or_mem lowerRuns c.toNat with same | ⟨run, hrun, hcode, himage⟩
    · rw [same, Char.ofNat_toNat]
      exact fun hmem => absurd (plain_of_mem hmem).1 (Nat.not_lt.mpr hc)
    · rcases shifted run hrun with low | far
      · exact absurd (low _ hcode) (Nat.not_lt.mpr hc)
      · exact ofNat_not_mem_plainLetters (far _ himage).1 (far _ himage).2

/-- The case of ASCII leaves all other characters alone. -/
theorem toLower_of_le {c : Char} (hc : 0x80 ≤ c.toNat) : c.toLower = c := by
  refine dif_neg fun h => ?_
  have last : c.toNat ≤ 'Z'.toNat := UInt32.le_iff_toNat_le.mp h.2
  exact absurd (Nat.le_trans hc last) (by decide)

/-- By induction on the text, whose characters are each put into lower case by themselves, a
sigma at the end of a word apart. -/
theorem lowerFrom_eq_iff {before s w : List Char} (hw : ∀ c ∈ w, c ∈ plainLetters) :
    lowerFrom before s = w ↔ s.map Char.toLower = w := by
  induction s generalizing before w with
  | nil => rfl
  | cons c rest ih =>
    rw [lowerFrom, List.map_cons]
    by_cases hc : 0x80 ≤ c.toNat
    · -- neither way such a character gives a letter of the word
      obtain ⟨d, more, hd, far⟩ : ∃ d more, (if c == 'Σ' then
          [if meetsCased before && !meetsCased rest then 'ς' else 'σ']
          else lowerChar c) = d :: more ∧ d ∉ plainLetters := by
        split
        · split
          · exact ⟨_, _, rfl, by decide⟩
          · exact ⟨_, _, rfl, by decide⟩
        · exact exists_head_lowerChar hc
      rw [hd, toLower_of_le hc]
      refine iff_of_false ?_ ?_
      · rintro rfl
        exact far (hw d (by simp))
      · rintro rfl
        exact absurd (plain_of_mem (hw c (by simp))).1 (Nat.not_lt.mpr hc)
    · have other : (c == 'Σ') = false := beq_false_of_ne fun h => hc (h ▸ by decide)
      rw [other, if_neg Bool.false_ne_true, lowerChar, if_pos (Nat.not_le.mp hc)]
      cases w with
      | nil => exact iff_of_false nofun nofun
      | cons d w =>
        rw [List.singleton_append, List.cons.injEq, List.cons.injEq,
          ih fun c hmem => hw c (List.mem_cons_of_mem d hmem)]

/-- **A word in any letter case**: a text is such a word in lower case if it is the word up
to the case of ASCII. From right to left this is clear. From left to right a character
outside ASCII has to be excluded, whose lower case could begin with a letter of the word.
-/
theorem toLower_eq_ofList_iff {s : String} {w : List Char} (hw : ∀ c ∈ w, c ∈ plainLetters) :
    toLower s = String.ofList w ↔ s.toList.map Char.toLower = w := by
  rw [toLower, String.ofList_inj]
  exact lowerFrom_eq_iff hw

/-! ## Words -/

section Words

variable {s w : String} (hw : ∀ c ∈ w.toList, c ∈ plainLetters)

include hw

/-- Whether a text is such a word does not depend on how the letter case is left out. -/
theorem toLower_eq_iff : toLower s = w ↔ eqIgnoringAsciiCase s w = true := by
  have hlower : w.toList.map Char.toLower = w.toList := by
    refine (List.map_congr_left fun c hc => ?_).trans (List.map_id' _)
    exact (plain_of_mem (hw c hc)).2.2.2.1
  rw [eqIgnoringAsciiCase_iff, hlower, ← toLower_eq_ofList_iff hw, String.ofList_toList]

/-- Such a word has no blanks to be cut off. -/
theorem trimmed_of_word (h : eqIgnoringAsciiCase s w = true) : trimmed s = s := by
  have same : ∀ n ∈ blankCodes, (Char.ofNat n).toLower = Char.ofNat n := by decide
  have visible (c : Char) (hc : c ∈ s.toList) : isBlank c = false := by
    refine Bool.eq_false_iff.mpr fun blank => ?_
    obtain ⟨d, hd, hcd⟩ : ∃ d ∈ w.toList, d.toLower = c.toLower :=
      List.mem_map.mp (eqIgnoringAsciiCase_iff.mp h ▸ List.mem_map_of_mem hc)
    have hlower := same _ (mem_blankCodes blank)
    rw [Char.ofNat_toNat] at hlower
    obtain ⟨-, -, -, small, visible⟩ := plain_of_mem (hw d hd)
    rw [hlower, small] at hcd
    exact Bool.false_ne_true (visible.symm.trans (hcd ▸ blank))
  rw [trimmed, trim_eq_self (fun c hc => visible c (List.mem_of_mem_head? hc))
    (fun c hc => visible c (List.mem_of_mem_getLast? hc)), String.ofList_toList]

end Words

end CaseRunner.Text
