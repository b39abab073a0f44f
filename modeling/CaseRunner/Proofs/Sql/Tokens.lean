import CaseRunner.Sql.ReadOnly
import Mathlib.Data.List.TakeWhile
import Mathlib.Tactic.SplitIfs

/-!
# Statements as a database reads them

A database cuts a statement into tokens: words, literals in quotes, comments and single
signs. What begins a token decides where it ends. A literal goes on to the next quote of
its kind that is not written twice, a comment to the end of its line or to its closing
mark, and a word as far as it can; nothing begins inside a literal or a comment. What is
not closed goes on to the end of the text.

No character is lost (`text_tokens`), and each token stands before the rest of the text as
its kind wants it (`Token.Before`). That is all that is said about the division of a text
further on; how far a token goes is looked at nowhere else.

The division is made by another hand than the guard's. To say of the guard that it
overlooks a word there has to be somebody who does not, and this is the database that the
statement is meant for. The rules here are those that databases have in common.
-/

namespace CaseRunner.Sql

/-- A token of a statement, in the characters it is written with. -/
inductive Token where
  /-- A keyword, a name or a number. -/
  | word (s : List Char)
  /-- A text or a name, with the quotes around it. -/
  | literal (s : List Char)
  /-- A comment, with its marks. -/
  | comment (s : List Char)
  /-- Any other character, blanks too. -/
  | sign (c : Char)
  deriving DecidableEq, Repr

/-- The characters of a token. -/
def Token.text : Token → List Char
  | .word s | .literal s | .comment s => s
  | .sign c => [c]

/-- A character that a database makes words of: the ASCII letters and digits, `_`,
`$`, and whatever is beyond ASCII. -/
def isNameChar (c : Char) : Bool :=
  c.isAlphanum || c == '_' || c == '$' || 0x80 ≤ c.toNat

/-- How far a literal goes behind its opening quote, with its closing quote. -/
def literalLength (q : Char) : List Char → Nat
  | [] => 0
  | [_] => 1
  | c :: d :: rest =>
    if c = q then if d = q then literalLength q rest + 2 else 1
    else literalLength q (d :: rest) + 1

/-- How far a comment goes behind its opening mark, with its closing mark. -/
def commentLength : List Char → Nat
  | '*' :: '/' :: _ => 2
  | _ :: rest => commentLength rest + 1
  | [] => 0

/-- The first token of a text, by its first character and what follows, and the rest behind
it. The order of the questions matters only for the marks of comments, each of whose
characters would be a sign alone. -/
def Token.first (c : Char) (rest : List Char) : Token × List Char :=
  if c = '-' ∧ rest.head? = some '-' then
    (.comment ((c :: rest).takeWhile (· != '\n')), (c :: rest).dropWhile (· != '\n'))
  else if c = '/' ∧ rest.head? = some '*' then
    let length := commentLength rest.tail
    (.comment (c :: '*' :: rest.tail.take length), rest.tail.drop length)
  else if isQuote c then
    let length := literalLength c rest
    (.literal (c :: rest.take length), rest.drop length)
  else if isNameChar c then
    (.word ((c :: rest).takeWhile isNameChar), (c :: rest).dropWhile isNameChar)
  else (.sign c, rest)

/-- The first token and the rest are the text. -/
theorem Token.text_first_append (c : Char) (rest : List Char) :
    (first c rest).1.text ++ (first c rest).2 = c :: rest := by
  unfold first
  split_ifs with hline hblock hquote hname
  · exact List.takeWhile_append_dropWhile
  · obtain ⟨rest, rfl⟩ := List.head?_eq_some_iff.mp hblock.2
    simp [text]
  · simp [text]
  · exact List.takeWhile_append_dropWhile
  · rfl

theorem Token.text_first_ne_nil (c : Char) (rest : List Char) :
    (first c rest).1.text ≠ [] := by
  unfold first
  split_ifs with hline hblock hquote hname
  · simp [text, hline.1]
  · simp [text]
  · simp [text]
  · simp [text, hname]
  · simp [text]

/-- **The tokens of a statement.** Each time the first token is taken off, which holds at
least one character, so the rest is shorter. -/
def tokens : List Char → List Token
  | [] => []
  | c :: rest => (Token.first c rest).1 :: tokens (Token.first c rest).2
termination_by s => s.length
decreasing_by
  have whole := congrArg List.length (Token.text_first_append c rest)
  have := List.length_pos_iff.mpr (Token.text_first_ne_nil c rest)
  rw [List.length_append] at whole
  omega

example : tokens "a''b/*'*/".toList =
    [.word ['a'], .literal ['\'', '\''], .word ['b'], .comment "/*'*/".toList] := by
  cbv

/-! ## How a token stands in a text -/

/-- What follows the opening quote of a literal that is closed: a quote written twice does
not close it. Written as what there is and not as where to stop, since this is how it is
used: by induction on how the literal goes on. -/
inductive Closes (q : Char) : List Char → Prop
  | close : Closes q [q]
  | doubled {s : List Char} (h : Closes q s) : Closes q (q :: q :: s)
  | inside {c : Char} {s : List Char} (hc : c ≠ q) (h : Closes q s) : Closes q (c :: s)

/-- **A token before the rest of a text**: it is made as its kind wants it, and does not
end before it has to.

A token at the end of a text need not be closed, so the two kinds that can be closed are
asked for it only if something follows. Of a comment nothing is said about what stands in
it. This is what the guard does not know of, and where the two readings part. -/
inductive Token.Before : Token → List Char → Prop
  | word {s rest : List Char} (chars : ∀ c ∈ s, isNameChar c = true)
      (ends : ∀ c ∈ rest.head?, isNameChar c = false) : Before (.word s) rest
  | literal {q : Char} {s rest : List Char} (quote : isQuote q = true)
      (ends : rest = [] ∨ Closes q s) : Before (.literal (q :: s)) rest
  | line {s rest : List Char} (ends : ∀ c ∈ rest.head?, c = '\n') :
      Before (.comment s) rest
  | block {s rest : List Char} (ends : rest = [] ∨ ∃ inside, s = inside ++ ['/']) :
      Before (.comment s) rest
  | sign {c : Char} {rest : List Char} (name : isNameChar c = false)
      (quote : isQuote c = false) : Before (.sign c) rest

/-- What is taken for a literal is closed, unless it goes to the end of the text. -/
theorem closes_take {q : Char} {s : List Char} (h : s.drop (literalLength q s) ≠ []) :
    Closes q (s.take (literalLength q s)) := by
  induction s using literalLength.induct (q := q) with
  | case1 => exact absurd rfl h
  | case2 c => exact absurd rfl h
  | case3 rest ih =>
    simp only [literalLength, ↓reduceIte, List.drop_succ_cons, List.take_succ_cons] at h ⊢
    exact .doubled (ih h)
  | case4 c rest hc =>
    simp only [literalLength, ↓reduceIte, if_neg hc, List.take_succ_cons, List.take_zero]
    exact .close
  | case5 c d rest hc ih =>
    simp only [literalLength, if_neg hc, List.drop_succ_cons, List.take_succ_cons] at h ⊢
    exact .inside hc (ih h)

/-- In the same way a comment that does not go to the end of the text ends with its slash.
-/
theorem exists_take_commentLength {s : List Char} (h : s.drop (commentLength s) ≠ []) :
    ∃ inside, s.take (commentLength s) = inside ++ ['/'] := by
  induction s using commentLength.induct with
  | case1 rest => exact ⟨['*'], rfl⟩
  | case2 c rest hc ih =>
    rw [commentLength] at h ⊢
    · obtain ⟨inside, hinside⟩ := ih h
      exact ⟨c :: inside, by rw [List.take_succ_cons, hinside, List.cons_append]⟩
    all_goals exact hc
  | case3 => exact absurd rfl h

/-- The first token stands before the rest. -/
theorem Token.before_first (c : Char) (rest : List Char) :
    (first c rest).1.Before (first c rest).2 := by
  have head_dropWhile (p : Char → Bool) (s : List Char) :
      ∀ d ∈ (s.dropWhile p).head?, p d = false := by
    intro d hd
    have := List.head?_dropWhile_not p s
    rwa [hd] at this
  unfold first
  split_ifs with hline hblock hquote hname
  · exact .line fun d hd => by simpa using head_dropWhile _ _ d hd
  · refine .block ?_
    by_cases hrest : rest.tail.drop (commentLength rest.tail) = []
    · exact .inl hrest
    · obtain ⟨inside, hinside⟩ := exists_take_commentLength hrest
      exact .inr ⟨c :: '*' :: inside, by rw [hinside]; rfl⟩
  · refine .literal hquote ?_
    by_cases hrest : rest.drop (literalLength c rest) = []
    · exact .inl hrest
    · exact .inr (closes_take hrest)
  · exact .word (fun d hd => List.mem_takeWhile_imp hd) (head_dropWhile _ _)
  · exact .sign (by simpa using hname) (by simpa using hquote)

/-- **How a text begins**: with its first token, which stands before the rest. -/
theorem exists_of_tokens_cons {s : List Char} {t : Token} {ts : List Token}
    (h : tokens s = t :: ts) :
    ∃ rest, s = t.text ++ rest ∧ t.text ≠ [] ∧ t.Before rest ∧ tokens rest = ts := by
  cases s with
  | nil => simp [tokens] at h
  | cons c rest =>
    rw [tokens] at h
    obtain ⟨rfl, behind⟩ := List.cons.inj h
    exact ⟨_, (Token.text_first_append c rest).symm, Token.text_first_ne_nil c rest,
      Token.before_first c rest, behind⟩

/-- **No character is lost.** What is left of a statement is put together from its tokens,
so nothing can be slipped in between them. -/
theorem text_tokens (s : List Char) : (tokens s).flatMap Token.text = s := by
  induction s using tokens.induct with
  | case1 => simp [tokens]
  | case2 c rest ih => rw [tokens, List.flatMap_cons, ih, Token.text_first_append]

end CaseRunner.Sql
