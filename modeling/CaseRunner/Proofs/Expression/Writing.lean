import CaseRunner.Expression.Evaluation
import CaseRunner.Proofs.Computation
import CaseRunner.Proofs.Text.Pieces
import CaseRunner.Proofs.Text.UpperCase
import Mathlib.Algebra.Group.Int.Defs

/-!
# Words as they are written

A word may be written in more than one way: a text stands in either kind of quotes, and in
it a backslash may stand before any character, not only where it must (`Quoted`). Words
that follow each other have blanks between them, as many as one likes (`Written`).

None of this is left when a text is cut into words (`tokenize_of_written`). A word that is
written is read back, whatever stands behind it, if this is nothing or begins with a blank
(`Writes.readToken`); the words of a text follow by induction along the way in which it is
written. So how an assertion is written changes nothing in what it is, nor in whether it
holds.

To write words is a relation and not a function. A function would write each word in one
way, and what is read back from that way says nothing of the others, which users write.
-/

namespace CaseRunner.Expression

/-! ## Ways to write words -/

/-- **A text as it is written between quotes**: a backslash takes the next character as it
is, and stands at least before backslashes and quotes of the kind. The quotes of the other
kind may stand there as they are. -/
inductive Quoted (quote : Char) : List Char → List Char → Prop
  | nil : Quoted quote [] []
  | plain {c : Char} {w s : List Char} (unquote : c ≠ quote) (unescape : c ≠ '\\')
      (further : Quoted quote w s) : Quoted quote (c :: w) (c :: s)
  | escaped {c : Char} {w s : List Char} (further : Quoted quote w s) :
      Quoted quote ('\\' :: c :: w) (c :: s)

/-- **A word is written**: a text in quotes, and any other word as it is spelled. -/
inductive Writes : Token → List Char → Prop
  | text {quote : Char} {w s : List Char} (kind : quote = '\'' ∨ quote = '"')
      (body : Quoted quote w s) : Writes (.text (String.ofList s)) (quote :: (w ++ [quote]))
  | spelled {t : Token} (other : ∀ s, t ≠ .text s) : Writes t t.spelling.toList

/-- **Words are written** one after the other, with one blank or more between them. More
blanks may stand in front and behind. That there has to be a blank is stricter than need
be, as most signs are set off by what they are; but with it nothing has to be known of two
words that follow each other. -/
inductive Written : List Token → List Char → Prop
  | nil : Written [] []
  | blank {c : Char} {ts : List Token} {s : List Char} (blank : Text.isBlank c = true)
      (further : Written ts s) : Written ts (c :: s)
  | last {t : Token} {w : List Char} (word : Writes t w) : Written [t] w
  | cons {t : Token} {w : List Char} {c : Char} {ts : List Token} {s : List Char}
      (word : Writes t w) (blank : Text.isBlank c = true) (further : Written ts s) :
      Written (t :: ts) (w ++ c :: s)

/-- **A word that can be read**: a name has the form of one, and a number is whole and has
63 bits and a sign. Words are built of texts and numbers that could be anything; those that
come of cutting a text are of this kind but for numbers that are not whole, whose spelling
depends on how they are rounded. -/
def Token.Readable : Token → Prop
  | .name s => ∃ c cs, s.toList = c :: cs ∧ isNameStart c = true ∧ ∀ d ∈ cs, isNameChar d = true
  | .number n => ∃ i : Int, n = .int i ∧ -2 ^ 63 ≤ i ∧ i < 2 ^ 63
  | _ => True

/-- Every text can be written in either kind of quotes. -/
theorem exists_quoted (quote : Char) (s : List Char) : ∃ w, Quoted quote w s := by
  induction s with
  | nil => exact ⟨[], .nil⟩
  | cons c s ih =>
    obtain ⟨w, further⟩ := ih
    exact ⟨_, .escaped further⟩

theorem exists_writes (t : Token) : ∃ w, Writes t w := by
  by_cases h : ∃ s, t = .text s
  · obtain ⟨s, rfl⟩ := h
    obtain ⟨w, body⟩ := exists_quoted '"' s.toList
    rw [← String.ofList_toList (s := s)]
    exact ⟨_, .text (.inr rfl) body⟩
  · exact ⟨_, .spelled fun s hs => h ⟨s, hs⟩⟩

/-- **All words can be written.** -/
theorem exists_written (ts : List Token) : ∃ s, Written ts s := by
  induction ts with
  | nil => exact ⟨[], .nil⟩
  | cons t ts ih =>
    obtain ⟨w, word⟩ := exists_writes t
    obtain ⟨s, further⟩ := ih
    have blank : Text.isBlank ' ' = true := by decide
    exact ⟨_, .cons word blank further⟩

/-! ## What separates words -/

/-- **Nothing of a word follows**: a blank does, or the end. This is all that a reader of a
word has to know of what comes behind it. -/
def Apart (rest : List Char) : Prop := ∀ c ∈ rest.head?, Text.isBlank c = true

section Blanks

variable {c : Char} {rest : List Char}

/-- A blank belongs to no word but a text, and none begins with it. -/
theorem blank_in_no_word (h : Text.isBlank c = true) :
    isNameChar c = false ∧ isNumberChar c = false ∧ isNameStart c = false
      ∧ isSignStart c = false ∧ punctuation? c = none ∧ c ∉ ['\'', '"', '-'] := by
  have all : ∀ n ∈ Text.blankCodes, let c := Char.ofNat n
      isNameChar c = false ∧ isNumberChar c = false ∧ isNameStart c = false
        ∧ isSignStart c = false ∧ punctuation? c = none ∧ c ∉ ['\'', '"', '-'] := by
    decide +kernel
  simpa using all c.toNat (Text.mem_blankCodes h)

/-- At the end of a text nothing follows. -/
theorem Apart.nil : Apart [] := nofun

theorem Apart.of_blank (h : Text.isBlank c = true) : Apart (c :: rest) := by
  intro d hd
  cases hd
  exact h

theorem Apart.nameChar (h : Apart rest) : ∀ c ∈ rest.head?, isNameChar c = false :=
  fun c hc => (blank_in_no_word (h c hc)).1

theorem Apart.numberChar (h : Apart rest) : ∀ c ∈ rest.head?, isNumberChar c = false :=
  fun c hc => (blank_in_no_word (h c hc)).2.1

/-- No word begins with a blank. -/
theorem readToken_of_blank (h : Text.isBlank c = true) :
    readToken c rest = .error (.badChar c) := by
  obtain ⟨-, number, name, sign, punctuation, other⟩ := blank_in_no_word h
  have digit : c.isDigit = false := (Bool.or_eq_false_iff.mp number).1
  simp only [List.mem_cons, List.not_mem_nil, or_false, not_or] at other
  obtain ⟨single, double, minus⟩ := other
  simp [readToken, punctuation, sign, name, isNumberStart, digit, single, double, minus]

end Blanks

/-! ## Texts -/

section Reading

variable {quote c : Char} {w s rest : List Char} {t : Token} {n : Int}

/-- **The body of a text is read back**, up to the closing quote. -/
theorem Quoted.readText (h : Quoted quote w s) (rest : List Char) (hquote : quote ≠ '\\') :
    readText quote (w ++ quote :: rest) = some (s, rest) := by
  induction h with
  | nil =>
    rw [List.nil_append, Expression.readText.eq_3 _ _ _ (fun d r h _ => hquote h), if_pos rfl]
  | plain unquote unescape _ ih =>
    rw [List.cons_append, Expression.readText.eq_3 _ _ _ (fun d r h _ => unescape h),
      if_neg unquote, ih]
    rfl
  | escaped _ ih =>
    rw [List.cons_append, List.cons_append, Expression.readText, ih]
    rfl

theorem readToken_quote (kind : quote = '\'' ∨ quote = '"') :
    readToken quote rest = readTextToken quote rest := by
  rcases kind with rfl | rfl <;> rfl

theorem readToken_text (kind : quote = '\'' ∨ quote = '"') (body : Quoted quote w s) :
    readToken quote ((w ++ [quote]) ++ rest) = .ok (.text (String.ofList s), rest) := by
  have hquote : quote ≠ '\\' := by rcases kind with rfl | rfl <;> decide
  rw [readToken_quote kind, List.append_assoc, readTextToken]
  dsimp only [List.cons_append, List.nil_append]
  rw [body.readText rest hquote]

/-! ## Names and numbers -/

/-- What begins a name or a number begins nothing else. -/
theorem readToken_of_plain (h : (c == '-' || c.isDigit || isNameStart c) = true) :
    readToken c rest = if isNumberStart c rest then readNumberToken c rest
      else if isNameStart c then .ok (readNameToken c rest) else .error (.badChar c) := by
  have punctuation : punctuation? c = none := by
    unfold punctuation?
    split <;> first | rfl | exact absurd h (by decide)
  have sign : isSignStart c = false := by
    refine Bool.eq_false_iff.mpr fun hc => ?_
    simp only [isSignStart, Bool.or_eq_true, beq_iff_eq] at hc
    rcases hc with ((rfl | rfl) | rfl) | rfl <;> exact absurd h (by decide)
  have quotes : (c == '\'' || c == '"') = false := by
    refine Bool.eq_false_iff.mpr fun hc => ?_
    simp only [Bool.or_eq_true, beq_iff_eq] at hc
    rcases hc with rfl | rfl <;> exact absurd h (by decide)
  unfold readToken
  simp [punctuation, sign, quotes]

theorem isNumberStart_of_isNameStart (h : isNameStart c = true) :
    isNumberStart c rest = false := by
  have digits : ∀ n < 58, (Char.ofNat n).isDigit = true → isNameStart (Char.ofNat n) = false := by
    decide +kernel
  refine Bool.eq_false_iff.mpr fun hc => ?_
  simp only [isNumberStart, Bool.or_eq_true, Bool.and_eq_true, beq_iff_eq] at hc
  rcases hc with digit | ⟨rfl, -⟩
  · have low : c.toNat < 58 := Nat.lt_succ_of_le (Char.isDigit_iff_toNat.mp digit).2
    have other := digits c.toNat low
    rw [Char.ofNat_toNat] at other
    exact Bool.false_ne_true ((other digit).symm.trans h)
  · exact absurd h (by decide)

theorem readToken_name (start : isNameStart c = true) (all : ∀ d ∈ w, isNameChar d = true)
    (apart : Apart rest) :
    readToken c (w ++ rest) = .ok (.name (String.ofList (c :: w)), rest) := by
  rw [readToken_of_plain (by simp [start]), isNumberStart_of_isNameStart start, if_neg (by simp),
    if_pos start, readNameToken, Text.takeWhile_of_longest all apart.nameChar,
    Text.dropWhile_of_longest all apart.nameChar]

/-- The digits of a number stand for it. -/
theorem digitsValue_toDigits (m : Nat) : Decimal.digitsValue (Nat.toDigits 10 m) = m := by
  rw [Decimal.digitsValue, ← Nat.ofDigitChars_eq_foldl, Nat.ofDigitChars_ten_toDigits]

theorem isDigit_of_mem_toDigits {m : Nat} (h : c ∈ Nat.toDigits 10 m) : c.isDigit = true :=
  Nat.isDigit_of_mem_toDigits (by decide) (by decide) h

/-- A whole number is spelled with digits, behind a minus if it is negative. -/
theorem toList_toString (n : Int) : (toString n).toList
    = if n < 0 then '-' :: Nat.toDigits 10 n.natAbs else Nat.toDigits 10 n.natAbs := by
  cases n with
  | ofNat m =>
    have spelled : toString (Int.ofNat m) = toString m := rfl
    rw [spelled, Nat.toString_eq_ofList_toDigits, String.toList_ofList]
    rfl
  | negSucc m =>
    have spelled : toString (Int.negSucc m) = "-" ++ toString (m + 1) := rfl
    rw [if_pos (Int.negSucc_lt_zero m), spelled, Nat.toString_eq_ofList_toDigits,
      String.toList_append, String.toList_ofList, String.toList_ofList]
    rfl

/-- A number has a first character, and digits behind it. -/
theorem exists_toList_toString (n : Int) : ∃ c cs, (toString n).toList = c :: cs
    ∧ (∀ d ∈ cs, d.isDigit = true) ∧ ∀ rest, isNumberStart c (cs ++ rest) = true := by
  obtain ⟨d, ds, hds⟩ := List.exists_cons_of_ne_nil (Nat.toDigits_ne_nil (n := n.natAbs) (b := 10))
  have all : ∀ c ∈ d :: ds, c.isDigit = true := fun c hc => isDigit_of_mem_toDigits (hds ▸ hc)
  have first : d.isDigit = true := all d List.mem_cons_self
  rw [toList_toString, hds]
  split
  · exact ⟨'-', d :: ds, rfl, all, fun rest => by simp [isNumberStart, first]⟩
  · exact ⟨d, ds, rfl, fun c hc => all c (List.mem_cons_of_mem _ hc),
      fun rest => by simp [isNumberStart, first]⟩

/-- The sign of a number is taken off, and its digits are left. -/
theorem takeSign_toString (n : Int) : Decimal.takeSign (toString n).toList
    = (decide (n < 0), Nat.toDigits 10 n.natAbs) := by
  rw [toList_toString]
  split
  next negative => rw [Decimal.takeSign, decide_eq_true negative]
  next positive =>
    have digit : ∀ c ∈ Nat.toDigits 10 n.natAbs, c.isDigit = true :=
      fun c => isDigit_of_mem_toDigits
    rw [decide_eq_false positive]
    unfold Decimal.takeSign
    split
    next heq => exact absurd (digit '-' (heq ▸ List.mem_cons_self)) (by decide)
    next heq => exact absurd (digit '+' (heq ▸ List.mem_cons_self)) (by decide)
    next => rfl

/-- **A whole number is read as it is spelled.** The bounds are those beyond which a whole
number is refused. -/
theorem number?_toString (low : -2 ^ 63 ≤ n) (high : n < 2 ^ 63) :
    number? (toString n).toList = some (.int n) := by
  have whole : '.' ∉ (toString n).toList := by
    rw [toList_toString]
    have other (h : '.' ∈ Nat.toDigits 10 n.natAbs) : False :=
      absurd (isDigit_of_mem_toDigits h) (by decide)
    split
    · exact fun h => other ((List.mem_cons.mp h).resolve_left (by decide))
    · exact other
  have value : (if decide (n < 0) = true then -(n.natAbs : Int) else n.natAbs) = n := by
    simp only [decide_eq_true_eq]
    omega
  have bounds : (decide (-((pow2 63 : Nat) : Int) ≤ n) && decide (n < (pow2 63 : Nat))) = true := by
    simpa using ⟨low, high⟩
  rw [number?, if_neg (by simpa using whole), wholeNumber?, takeSign_toString]
  dsimp only
  rw [digitsValue_toDigits, value, if_pos bounds]

/-- **A whole number is read back** from its digits, if it is one of 63 bits and a sign and
what follows is apart. -/
theorem readToken_number {cs : List Char} (low : -2 ^ 63 ≤ n) (high : n < 2 ^ 63)
    (spelled : (toString n).toList = c :: cs) (apart : Apart rest) :
    readToken c (cs ++ rest) = .ok (.number (.int n), rest) := by
  obtain ⟨c', cs', spelled', digits, start⟩ := exists_toList_toString n
  obtain ⟨rfl, rfl⟩ := List.cons.inj (spelled.symm.trans spelled')
  have all : ∀ d ∈ cs, isNumberChar d = true := fun d hd => by simp [isNumberChar, digits d hd]
  have begins : (c == '-' || c.isDigit || isNameStart c) = true := by
    have := start []
    simp only [isNumberStart, Bool.or_eq_true, Bool.and_eq_true] at this ⊢
    tauto
  rw [readToken_of_plain begins, if_pos (start rest), readNumberToken,
    Text.takeWhile_of_longest all apart.numberChar,
    Text.dropWhile_of_longest all apart.numberChar, ← spelled, number?_toString low high]

/-! ## Signs -/

/-- A sign that may go on is read back where it does not. -/
theorem readSign_of_ends (apart : Apart rest) :
    readSign '<' rest = .ok (.sign .lt, rest) ∧ readSign '>' rest = .ok (.sign .gt, rest) := by
  have ends : ∀ tail, rest ≠ '=' :: tail := by
    rintro tail rfl
    exact absurd (apart '=' rfl) (by decide)
  unfold readSign
  constructor
  · split <;> simp_all
  · split <;> simp_all

theorem readToken_sign (sign : Sign) : ∃ c cs, sign.spelling.toList = c :: cs
    ∧ ∀ rest, Apart rest → readToken c (cs ++ rest) = .ok (.sign sign, rest) := by
  cases sign with
  | eq | ne | ge | le => exact ⟨_, _, rfl, fun _ _ => rfl⟩
  | lt => exact ⟨_, [], rfl, fun _ apart => (readSign_of_ends apart).1⟩
  | gt => exact ⟨_, [], rfl, fun _ apart => (readSign_of_ends apart).2⟩

end Reading

/-! ## Words -/

/-- **A word is read back** as it is written, whatever stands apart from it behind. Here
the ways to write a word come together with the readers of the single kinds of words, and
further on neither is looked at again. -/
theorem Writes.readToken {t : Token} {w : List Char} (h : Writes t w) (readable : t.Readable) :
    ∃ c cs, w = c :: cs ∧ ∀ rest, Apart rest → readToken c (cs ++ rest) = .ok (t, rest) := by
  cases h with
  | text kind body => exact ⟨_, _, rfl, fun rest _ => readToken_text kind body⟩
  | spelled other =>
    cases t with
    | text s => exact absurd rfl (other s)
    | name s =>
      obtain ⟨c, cs, hs, start, all⟩ := readable
      refine ⟨c, cs, hs, fun rest apart => ?_⟩
      rw [readToken_name start all apart, ← hs, String.ofList_toList]
    | number n =>
      obtain ⟨i, rfl, low, high⟩ := readable
      obtain ⟨c, cs, spelled, -⟩ := exists_toList_toString i
      exact ⟨c, cs, spelled, fun rest apart => readToken_number low high spelled apart⟩
    | sign sign => exact readToken_sign sign
    | dot | comma | openParen | closeParen | openBracket | closeBracket =>
      exact ⟨_, [], rfl, fun rest _ => rfl⟩

/-! ## Texts of words -/

section Cutting

variable {c : Char} {s rest : List Char} {t : Token} {ts : List Token}

/-- Blanks mean nothing. -/
theorem tokenize_of_blank (h : Text.isBlank c = true) : tokenize (c :: s) = tokenize s := by
  rw [tokenize, if_pos h]

/-- What is read as a word is one, with the words behind it. -/
theorem tokenize_of_readToken (h : readToken c s = .ok (t, rest)) :
    tokenize (c :: s) = (tokenize rest).map (t :: ·) := by
  have visible : ¬ Text.isBlank c = true := by
    intro blank
    rw [readToken_of_blank blank] at h
    cases h
  rw [tokenize, if_neg visible]
  split
  next error =>
    rw [h] at error
    cases error
  next read =>
    rw [h] at read
    cases read
    rfl

/-- **Cutting into words undoes writing.** By induction on the way in which the words are
written: a blank is passed over, and a word is read back and leaves what stands behind it.
-/
theorem tokenize_of_written (h : Written ts s) (readable : ∀ t ∈ ts, t.Readable) :
    tokenize s = .ok ts := by
  induction h with
  | nil => rw [tokenize]
  | blank blank _ ih => rw [tokenize_of_blank blank, ih readable]
  | last word =>
    obtain ⟨c, cs, rfl, read⟩ := word.readToken (readable _ List.mem_cons_self)
    have here := read [] .nil
    rw [List.append_nil] at here
    rw [tokenize_of_readToken here, tokenize]
    rfl
  | @cons t w b ts s word blank _ ih =>
    obtain ⟨c, cs, rfl, read⟩ := word.readToken (readable _ List.mem_cons_self)
    rw [List.cons_append, tokenize_of_readToken (read _ (.of_blank blank)), tokenize_of_blank blank,
      ih fun t ht => readable t (List.mem_cons_of_mem _ ht)]
    rfl

end Cutting

/-! ## Assertions and conditions -/

section Meaning

variable {ts : List Token} {s : List Char}

/-- An assertion is what its words are, and quotes its text. -/
theorem parseAssertion_of_tokenize {source : String} (h : tokenize source.toList = .ok ts) :
    parseAssertion source = ((assertionOfTokens ts).map fun (c, note) => ⟨source, c, note⟩).mapError
      (SyntaxFault.error source) := by
  rw [parseAssertion, h]
  rfl

theorem parseCondition_of_tokenize {source : String} (h : tokenize source.toList = .ok ts) :
    parseCondition source = (conditionOfTokens ts).mapError (SyntaxFault.error source) := by
  rw [parseCondition, h]
  rfl

/-- The text that is quoted does not matter for the truth of a comparison. -/
theorem Comparison.evaluate_eq_ok_iff (c : Comparison) (answer : Document) (source source' : String)
    (b : Bool) : c.evaluate answer source = .ok b ↔ c.evaluate answer source' = .ok b := by
  unfold Comparison.evaluate
  cases c.left.resolve answer with
  | typed t => cases c.right.resolve answer <;> simp
  | value l =>
    cases c.right.resolve answer with
    | typed t => simp
    | value r =>
      dsimp only
      cases c.op.apply? l r <;> simp

theorem Condition.evaluate_eq_ok_iff (c : Condition) (source source' : String) (b : Bool) :
    c.evaluate source = .ok b ↔ c.evaluate source' = .ok b := by
  cases c with
  | literal d => rfl
  | comparison c => exact c.evaluate_eq_ok_iff .null source source' b

/-- An assertion holds if its comparison is true. -/
theorem Assertion.check_eq_ok_iff {a : Assertion} {answer : Document} :
    a.check answer = .ok () ↔ a.comparison.evaluate answer a.source = .ok true := by
  unfold Assertion.check
  rw [bind_eq_ok_iff]
  constructor
  · rintro ⟨_ | _, h, checked⟩
    · cases checked
    · exact h
  · exact fun h => ⟨true, h, rfl⟩

/-- **How words are written changes nothing.** Words that can be read can be written; and
however they are written, they are read back, an assertion or a condition is what they are,
up to the text that is quoted, and it holds or does not hold as it would if they were
written otherwise.

The text is quoted in messages, and there the two ways of writing can be told apart.
Nothing else of the text is left. -/
theorem written_words_read_back {ts : List Token} (readable : ∀ t ∈ ts, t.Readable) :
    (∃ s, Written ts s)
      ∧ (∀ source : String, Written ts source.toList → tokenize source.toList = .ok ts
        ∧ parseAssertion source = ((assertionOfTokens ts).map
          fun (c, note) => ⟨source, c, note⟩).mapError (SyntaxFault.error source)
        ∧ parseCondition source = (conditionOfTokens ts).mapError (SyntaxFault.error source))
      ∧ ∀ source source' : String, Written ts source.toList → Written ts source'.toList →
        (∀ answer, (parseAssertion source >>= (Assertion.check · answer)) = .ok ()
            ↔ (parseAssertion source' >>= (Assertion.check · answer)) = .ok ())
          ∧ ∀ b, evaluateCondition source = .ok b ↔ evaluateCondition source' = .ok b := by
  have parsed (source : String) (h : Written ts source.toList) := tokenize_of_written h readable
  refine ⟨exists_written ts, fun source h => ⟨parsed source h,
    parseAssertion_of_tokenize (parsed source h), parseCondition_of_tokenize (parsed source h)⟩,
    fun source source' h h' => ⟨fun answer => ?_, fun b => ?_⟩⟩
  · rw [parseAssertion_of_tokenize (parsed source h),
      parseAssertion_of_tokenize (parsed source' h')]
    cases assertionOfTokens ts with
    | error fault => exact ⟨nofun, nofun⟩
    | ok a =>
      refine Assertion.check_eq_ok_iff.trans (Iff.trans ?_ Assertion.check_eq_ok_iff.symm)
      exact a.1.evaluate_eq_ok_iff answer source source' true
  · unfold evaluateCondition
    rw [parseCondition_of_tokenize (parsed source h),
      parseCondition_of_tokenize (parsed source' h')]
    cases conditionOfTokens ts with
    | error fault => exact ⟨nofun, nofun⟩
    | ok c => exact c.evaluate_eq_ok_iff source source' b

/-- A quote inside a text, and a number below zero, with blanks around them. -/
theorem written_words_read_back_of_quote :
    let ts : List Token := [.name "assert", .text "it's", .sign .ne, .number (.int (-1))]
    let source := "assert 'it\\'s'\t!=  -1 "
    (∀ t ∈ ts, t.Readable) ∧ Written ts source.toList ∧ tokenize source.toList = .ok ts := by
  intro ts source
  have readable : ∀ t ∈ ts, t.Readable := by
    simp only [ts, List.forall_mem_cons, List.not_mem_nil, false_implies, implies_true, and_true]
    refine ⟨⟨'a', "ssert".toList, rfl, by decide, ?_⟩, trivial, trivial,
      -1, rfl, by decide, by decide⟩
    exact List.all_eq_true.mp (by decide)
  have first : Writes (.name "assert") "assert".toList := .spelled nofun
  have body : Quoted '\'' "it\\'s".toList "it's".toList :=
    .plain (by decide) (by decide) (.plain (by decide) (by decide)
      (.escaped (.plain (by decide) (by decide) .nil)))
  have text : Writes (.text "it's") "'it\\'s'".toList := .text (.inl rfl) body
  have sign : Writes (.sign .ne) "!=".toList := .spelled nofun
  have number : Writes (.number (.int (-1))) "-1".toList := .spelled nofun
  have blank : Text.isBlank ' ' = true := by decide
  have tab : Text.isBlank '\t' = true := by decide
  have written : Written ts source.toList := by
    have parts : source.toList = "assert".toList ++ ' ' :: ("'it\\'s'".toList ++ '\t' ::
        ("!=".toList ++ ' ' :: ' ' :: ("-1".toList ++ [' ']))) := by decide
    rw [parts]
    exact .cons first blank (.cons text tab (.cons sign blank (.blank blank
      (.cons number blank .nil))))
  exact ⟨readable, written, ((written_words_read_back readable).2.1 source written).1⟩

end Meaning

end CaseRunner.Expression
