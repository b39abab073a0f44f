import CaseRunner.Text.Blank
import CaseRunner.Text.LetterCase
import Mathlib.Data.List.Basic

/-!
# What upper case is made of

A character of a text in upper case either stood in the text before and has no other upper
case, or it is a capital: it is its own upper case, it is no blank, and of ASCII it is a
letter (`capital_of_mem_upperChar`). So putting a text into upper case is settled at once
(`toUpper_toUpper`), and it brings neither blanks nor signs into a text.

That the tables write nothing but capitals is looked up in them. They hold some thousand
code points, too many to compare them one by one; a set of code points is compared as a
number, with one bit for each of them.

The keys of an environment are put into upper case before they are kept. What is shown here
is what makes it safe to write such a key into a line and to read it again: it is not
changed a second time, and its upper case holds no sign that would end it early, unless it
stood there before.
-/

namespace CaseRunner.Text

/-! ## Sets of code points -/

/-- The number with a bit for each code point of a list. Two sets that have nothing in
common have no bit in common, and this is a single operation on two numbers, where pairs of
code points would be a million comparisons. -/
def bits (codes : List Nat) : Nat := codes.foldr (fun n m => 1 <<< n ||| m) 0

theorem testBit_bits (codes : List Nat) (n : Nat) :
    (bits codes).testBit n = decide (n ∈ codes) := by
  induction codes with
  | nil => simp [bits]
  | cons k codes ih =>
    show (1 <<< k ||| bits codes).testBit n = _
    rw [Nat.testBit_or, ih, Nat.one_shiftLeft, Nat.testBit_two_pow]
    simp [eq_comm]

/-- Lists whose numbers have no bit in common have no code point in common. -/
theorem not_mem_of_bits {a b : List Nat} (h : bits a &&& bits b = 0) {n : Nat}
    (ha : n ∈ a) : n ∉ b := by
  intro hb
  have bit : (bits a &&& bits b).testBit n = true := by
    rw [Nat.testBit_and, testBit_bits, testBit_bits, decide_eq_true ha, decide_eq_true hb]
    rfl
  rw [h, Nat.zero_testBit] at bit
  cases bit

/-! ## The code points of the tables -/

/-- The code points that a run holds. -/
def CaseRun.codes (run : CaseRun) : List Nat :=
  (List.range ((run.last - run.first) / run.step + 1)).map fun i => run.first + run.step * i

/-- Their other letter case. -/
def CaseRun.images (run : CaseRun) : List Nat :=
  run.codes.map fun n : Nat => ((n : Int) + run.shift).toNat

/-- The simple mapping leaves a code point alone, or takes it from a run. -/
theorem shiftBy_eq_or_mem (runs : List CaseRun) (n : Nat) :
    shiftBy runs n = n
      ∨ ∃ run ∈ runs, n ∈ run.codes ∧ shiftBy runs n ∈ run.images := by
  induction runs with
  | nil => exact .inl rfl
  | cons run rest ih =>
    rw [shiftBy]
    split
    · exact .inl rfl
    · rename_i hfirst
      split
      · rename_i hrun
        simp only [Bool.and_eq_true, decide_eq_true_eq, beq_iff_eq] at hrun
        have whole := Nat.div_add_mod (n - run.first) run.step
        have code : n ∈ run.codes := by
          refine List.mem_map.mpr ⟨(n - run.first) / run.step, List.mem_range.mpr ?_, by omega⟩
          exact Nat.lt_succ_of_le (Nat.div_le_div_right (Nat.sub_le_sub_right hrun.1 _))
        exact .inr ⟨run, List.mem_cons_self, code, List.mem_map_of_mem code⟩
      · rcases ih with ih | ⟨other, hother, hmem⟩
        · exact .inl ih
        · exact .inr ⟨other, List.mem_cons_of_mem _ hother, hmem⟩

/-- The code points for which the tables have an upper case. -/
def upperSources : List Nat :=
  upperRuns.flatMap CaseRun.codes ++ upperExpansions.map (·.1)

/-- The code points that stand in the tables as an upper case. -/
def upperImages : List Nat :=
  upperRuns.flatMap CaseRun.images ++ upperExpansions.flatMap (·.2)

/-- The code points of blanks. -/
def blankCodes : List Nat :=
  List.range' 0x09 5 ++ [0x20, 0x85, 0xa0, 0x1680] ++ List.range' 0x2000 11 ++
    [0x2028, 0x2029, 0x202f, 0x205f, 0x3000]

theorem mem_blankCodes {c : Char} (h : isBlank c = true) : c.toNat ∈ blankCodes := by
  simp only [isBlank, Bool.or_eq_true, Bool.and_eq_true, decide_eq_true_eq, beq_iff_eq] at h
  simp only [blankCodes, List.mem_append, List.mem_range'_1, List.mem_cons, List.not_mem_nil]
  omega

/-- The code points of ASCII but for its capitals. -/
def smallCodes : List Nat := List.range 0x41 ++ List.range' 0x5b 0x25

/-- **An upper case has no upper case of its own and is no blank**; of ASCII it is a
capital. The three things that are excluded are put into one set, so that the tables are
gone through once. -/
theorem not_mem_of_mem_upperImages {n : Nat} (h : n ∈ upperImages) :
    n ∉ upperSources ++ blankCodes ++ smallCodes :=
  not_mem_of_bits (by decide +kernel) h

theorem isValidChar_of_mem_upperImages {n : Nat} (h : n ∈ upperImages) : n.isValidChar := by
  have all : ∀ n ∈ upperImages, n.isValidChar := by decide +kernel
  exact all n h

/-! ## Capitals -/

/-- **A capital**: a character that is its own upper case, is no blank, and of ASCII is a
capital letter. Outside ASCII it may be anything, a letter of any script or a mark, as only
the characters of ASCII have a meaning in the files. -/
structure Capital (c : Char) : Prop where
  /-- It is its own upper case. -/
  settled : upperChar c = [c]
  /-- It is no blank. -/
  visible : isBlank c = false
  /-- It is no sign and no small letter of ASCII. -/
  letter : c.isUpper = true ∨ 0x80 ≤ c.toNat

/-- What the tables give as an upper case is a capital. By going through the tables. -/
theorem capital_ofNat {n : Nat} (h : n ∈ upperImages) : Capital (Char.ofNat n) := by
  have code : (Char.ofNat n).toNat = n := by
    rw [Char.ofNat, dif_pos (isValidChar_of_mem_upperImages h)]
    rfl
  have far := not_mem_of_mem_upperImages h
  simp only [List.mem_append, not_or] at far
  obtain ⟨⟨hsource, hblank⟩, hsmall⟩ := far
  have letter : (0x41 ≤ n ∧ n ≤ 0x5a) ∨ 0x80 ≤ n := by
    simp only [smallCodes, List.mem_append, List.mem_range, List.mem_range'_1] at hsmall
    omega
  have ascii : ∀ n < 0x5b, 0x41 ≤ n →
      (Char.ofNat n).toUpper = Char.ofNat n ∧ (Char.ofNat n).isUpper = true := by
    decide
  refine ⟨?_, ?_, ?_⟩
  · have alone : shiftBy upperRuns n = n := by
      rcases shiftBy_eq_or_mem upperRuns n with same | ⟨run, hrun, hcode, -⟩
      · exact same
      · exact absurd (List.mem_append_left _ (List.mem_flatMap.mpr ⟨run, hrun, hcode⟩)) hsource
    have single : upperExpansions.find? (·.1 == n) = none := by
      rw [List.find?_eq_none]
      intro e he heq
      exact hsource (List.mem_append_right _
        (List.mem_map.mpr ⟨e, he, beq_iff_eq.mp heq⟩))
    rw [upperChar, code]
    split
    · rw [(ascii n (by omega) (by omega)).1]
    · rw [mapCase, code, single]
      show [Char.ofNat (shiftBy upperRuns n)] = _
      rw [alone]
  · by_contra hcon
    exact hblank (code ▸ mem_blankCodes (Bool.not_eq_false _ ▸ hcon))
  · rw [code]
    exact letter.imp_left fun h => (ascii n (by omega) h.1).2

/-- **Whatever is written for another character is a capital.** A character without an
entry in the tables is written as it is, and of it nothing is known but that it has no
other upper case. -/
theorem capital_of_mem_upperChar {c d : Char} (h : d ∈ upperChar c) :
    (d = c ∧ upperChar c = [c]) ∨ Capital d := by
  have ascii : ∀ n < 0x80, (Char.ofNat n).toUpper = Char.ofNat n
      ∨ (Char.ofNat n).toUpper.toNat ∈ upperImages := by
    decide +kernel
  rw [upperChar] at h ⊢
  split at h
  · rename_i hascii
    rw [if_pos hascii]
    obtain rfl := List.mem_singleton.mp h
    rcases ascii c.toNat hascii with same | mem
    · rw [Char.ofNat_toNat] at same
      exact .inl ⟨same, congrArg (fun d => [d]) same⟩
    · rw [Char.ofNat_toNat] at mem
      exact .inr (Char.ofNat_toNat c.toUpper ▸ capital_ofNat mem)
  · rename_i hascii
    rw [if_neg hascii]
    rw [mapCase] at h ⊢
    cases hfind : upperExpansions.find? (·.1 == c.toNat) with
    | some e =>
      rw [hfind] at h
      obtain ⟨n, hn, rfl⟩ := List.mem_map.mp h
      exact .inr (capital_ofNat (List.mem_append_right _
        (List.mem_flatMap.mpr ⟨e, List.mem_of_find?_eq_some hfind, hn⟩)))
    | none =>
      rw [hfind] at h
      obtain rfl := List.mem_singleton.mp h
      rcases shiftBy_eq_or_mem upperRuns c.toNat with same | ⟨run, hrun, -, hmem⟩
      · refine .inl ?_
        dsimp only
        rw [same, Char.ofNat_toNat]
        exact ⟨rfl, rfl⟩
      · exact .inr (capital_ofNat (List.mem_append_left _
          (List.mem_flatMap.mpr ⟨run, hrun, hmem⟩)))

theorem upperChar_ne_nil (c : Char) : upperChar c ≠ [] := by
  have expanded : ∀ e ∈ upperExpansions, e.2 ≠ [] := by decide +kernel
  unfold upperChar mapCase
  split
  · simp
  · split
    · rename_i hfind
      simpa using expanded _ (List.mem_of_find?_eq_some hfind)
    · simp

/-! ## Texts -/

/-- A character of a text in upper case stood in the text, or is a capital. -/
theorem mem_toUpper {s : String} {d : Char} (h : d ∈ (toUpper s).toList) :
    (d ∈ s.toList ∧ upperChar d = [d]) ∨ Capital d := by
  rw [toUpper, String.toList_ofList] at h
  obtain ⟨c, hc, hd⟩ := List.mem_flatMap.mp h
  rcases capital_of_mem_upperChar hd with ⟨rfl, settled⟩ | capital
  · exact .inl ⟨hc, settled⟩
  · exact .inr capital

/-- What a text in upper case begins with, the text began with, or it is a capital. -/
theorem mem_head?_toUpper {s : String} {d : Char} (h : d ∈ (toUpper s).toList.head?) :
    d ∈ s.toList.head? ∨ Capital d := by
  rw [toUpper, String.toList_ofList] at h
  cases hs : s.toList with
  | nil => rw [hs] at h; cases h
  | cons c rest =>
    rw [hs, List.flatMap_cons, List.head?_append_of_ne_nil _ (upperChar_ne_nil c)] at h
    rcases capital_of_mem_upperChar (List.mem_of_mem_head? h) with ⟨rfl, -⟩ | capital
    · exact .inl rfl
    · exact .inr capital

/-- What a text in upper case ends with, the text ended with, or it is a capital. -/
theorem mem_getLast?_toUpper {s : String} {d : Char} (h : d ∈ (toUpper s).toList.getLast?) :
    d ∈ s.toList.getLast? ∨ Capital d := by
  rw [toUpper, String.toList_ofList] at h
  cases hs : s.toList.getLast? with
  | none => rw [List.getLast?_eq_none_iff.mp hs] at h; cases h
  | some c =>
    obtain ⟨front, hfront⟩ := List.getLast?_eq_some_iff.mp hs
    rw [hfront, List.flatMap_append, List.flatMap_singleton,
      List.getLast?_append_of_ne_nil _ (upperChar_ne_nil c)] at h
    rcases capital_of_mem_upperChar (List.mem_of_getLast? h) with ⟨rfl, -⟩ | capital
    · exact .inl rfl
    · exact .inr capital

/-- **Upper case is settled at once.** One character can become up to three, and each of
them is its own upper case. -/
@[simp] theorem toUpper_toUpper (s : String) : toUpper (toUpper s) = toUpper s := by
  have settled : ∀ c ∈ (toUpper s).toList, upperChar c = [c] := fun c hc =>
    (mem_toUpper hc).elim And.right Capital.settled
  conv_lhs =>
    rw [toUpper, List.flatMap_congr settled, List.flatMap_singleton', String.ofList_toList]

end CaseRunner.Text
