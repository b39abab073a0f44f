import CaseRunner.Proofs.Sql.Tokens
import CaseRunner.Proofs.Text.Pieces
import Mathlib.Data.List.Induction

/-!
# What the guard of the database sees

The guard lets a statement through if no word outside quotes is a write keyword. It knows
nothing of comments: a quote in a comment opens a literal for the guard and none for the
database, and from there on the two read different statements.

Where all comments in front of a word leave no quote open, the guard is outside literals at
the word as the database is (`stands_of_tokens`), and it sees the word
(`writeKeyword?_ne_none`). So a write keyword is overlooked only behind a comment with a
quote that is not closed in it, and there it can be (`ensureReadOnly_overlooks_drop`).

The two also make words of different characters. The guard takes a letter of any script for
a part of a word and the database every character beyond ASCII, and it cuts at a `$` where
the database does not. None of this hides a keyword, as the guard makes words of fewer
characters: what is a word of its own for the database is set off for the guard as well.
-/

namespace CaseRunner.Sql

/-- The quote that the guard takes to be open behind a text, by the one that is open before
it. It follows the guard through the text but keeps none of it. So the text that was read
can be forgotten, but for this, when it is asked what the guard makes of what comes next.
-/
def openQuote : Option Char → List Char → Option Char
  | q?, [] => q?
  | some q, c :: rest => if c = q then openQuote none rest else openQuote (some q) rest
  | none, c :: rest => if isQuote c then openQuote (some c) rest else openQuote none rest

/-- **Is the word a write keyword**, in any letter case? Keywords are of ASCII, and the
case is left out letter by letter; that this agrees with the lower case that the guard uses
is shown below. -/
def isWriteWord (w : List Char) : Bool :=
  writeKeywords.any fun keyword => w.map Char.toLower == keyword.toList

/-! ## The text outside quotes -/

theorem openQuote_append (q? : Option Char) (a b : List Char) :
    openQuote q? (a ++ b) = openQuote (openQuote q? a) b := by
  fun_induction openQuote q? a with
  | case1 q? => rfl
  | case2 q rest ih => rw [List.cons_append, openQuote, if_pos rfl, ih]
  | case3 q c rest hc ih => rw [List.cons_append, openQuote, if_neg hc, ih]
  | case4 c rest hc ih => rw [List.cons_append, openQuote, if_pos hc, ih]
  | case5 c rest hc ih => rw [List.cons_append, openQuote, if_neg hc, ih]

theorem unquoted_append (q? : Option Char) (a b : List Char) :
    unquoted q? (a ++ b) = unquoted q? a ++ unquoted (openQuote q? a) b := by
  fun_induction openQuote q? a with
  | case1 q? => simp [unquoted]
  | case2 q rest ih => simp [unquoted, ih]
  | case3 q c rest hc ih => simp [unquoted, hc, ih]
  | case4 c rest hc ih => simp [unquoted, hc, ih]
  | case5 c rest hc ih => simp [unquoted, hc, ih]

/-- A text without quotes stays as it is. -/
theorem unquoted_of_forall {s : List Char} (h : ∀ c ∈ s, isQuote c = false) :
    unquoted none s = s ∧ openQuote none s = none := by
  induction s with
  | nil => exact ⟨rfl, rfl⟩
  | cons c rest ih =>
    obtain ⟨hc, hrest⟩ := List.forall_mem_cons.mp h
    simp [unquoted, openQuote, hc, ih hrest]

/-- While a quote is open, the last thing that was shown is the blank in its place. -/
theorem getLast?_unquoted_of_open {s : List Char} (h : openQuote none s ≠ none) :
    (unquoted none s).getLast? = some ' ' := by
  induction s using List.reverseRecOn with
  | nil => exact absurd rfl h
  | append_singleton s c ih =>
    rw [openQuote_append] at h
    rw [unquoted_append]
    cases hopen : openQuote none s with
    | none =>
      by_cases hc : isQuote c = true
      · simp [unquoted, hc]
      · rw [hopen] at h
        simp [openQuote, hc] at h
    | some q =>
      have before := ih (by simp [hopen])
      by_cases hc : c = q <;> simp [unquoted, hc, before]

/-- Outside quotes the text that is shown ends as the text itself does, or with a blank in
place of a literal. Either way nothing at its end goes on into a word that follows, unless
the text itself does. -/
theorem getLast?_unquoted {s : List Char} (h : openQuote none s = none) {c : Char}
    (hc : c ∈ (unquoted none s).getLast?) : c = ' ' ∨ c ∈ s.getLast? := by
  induction s using List.reverseRecOn with
  | nil => cases hc
  | append_singleton s d _ =>
    rw [openQuote_append] at h
    rw [unquoted_append] at hc
    cases hopen : openQuote none s with
    | none =>
      by_cases hd : isQuote d = true
      · rw [hopen] at h
        simp [openQuote, hd] at h
      · simp only [hopen, unquoted, hd, Bool.false_eq_true, ↓reduceIte,
          List.getLast?_append, List.getLast?_singleton, Option.some_or, Option.mem_def,
          Option.some.injEq] at hc
        exact .inr (by simp [hc])
    | some q =>
      by_cases hd : d = q
      · have blank := getLast?_unquoted_of_open (s := s) (by simp [hopen])
        left
        simpa [hopen, unquoted, hd, blank, eq_comm] using hc
      · rw [hopen] at h
        simp [openQuote, hd] at h

theorem head?_unquoted {s : List Char} {c : Char} (hc : c ∈ (unquoted none s).head?) :
    c = ' ' ∨ c ∈ s.head? := by
  cases s with
  | nil => cases hc
  | cons d rest =>
    by_cases hd : isQuote d = true
    · left
      simpa [unquoted, hd, eq_comm] using hc
    · right
      simpa [unquoted, hd] using hc

/-! ## Words -/

/-- Among the ASCII characters the letters and numerals of all scripts are those of
ASCII. -/
theorem isAlphanumeric_of_ascii {c : Char} (h : c.toNat < 0x80) :
    Text.isAlphanumeric c = c.isAlphanum := by
  have all : ∀ n < 0x80, Text.isAlphanumeric (Char.ofNat n) = (Char.ofNat n).isAlphanum := by
    decide +kernel
  simpa using all c.toNat h

/-- The guard makes words of fewer characters than the database. -/
theorem isWordChar_eq_false {c : Char} (h : isNameChar c = false) :
    isWordChar c = false := by
  simp only [isNameChar, Bool.or_eq_false_iff, decide_eq_false_iff_not, Nat.not_le] at h
  obtain ⟨⟨⟨halnum, hline⟩, -⟩, hascii⟩ := h
  simp [isWordChar, isAlphanumeric_of_ascii hascii, halnum, hline]

theorem isQuote_eq_false {c : Char} (h : isNameChar c = true) : isQuote c = false := by
  by_contra hquote
  simp only [isQuote, Bool.not_eq_false, Bool.or_eq_true, beq_iff_eq] at hquote
  rcases hquote with (rfl | rfl) | rfl <;> cases h

/-- The characters of a write keyword are ASCII letters. -/
theorem isAlpha_of_isWriteWord {w : List Char} (h : isWriteWord w = true) :
    ∀ c ∈ w, c.isAlpha = true := by
  have letters : (writeKeywords.all fun keyword => keyword.toList.all Char.isAlpha) = true := by
    decide
  obtain ⟨keyword, hkeyword, heq⟩ := List.any_eq_true.mp h
  intro c hc
  have lower : c.toLower.isAlpha = true :=
    List.all_eq_true.mp (List.all_eq_true.mp letters keyword hkeyword) _
      (beq_iff_eq.mp heq ▸ List.mem_map_of_mem hc)
  by_cases hupper : c.isUpper = true
  · exact Bool.or_eq_true_iff.mpr (.inl hupper)
  · have same : c.toLower = c := dif_neg fun h => hupper (decide_eq_true h)
    rwa [same] at lower

theorem toNat_lt_of_isAlpha {c : Char} (h : c.isAlpha = true) : c.toNat < 0x80 := by
  change (decide (c.val ≥ 'A'.val ∧ c.val ≤ 'Z'.val)
    || (decide (c.val ≥ 'a'.val) && decide (c.val ≤ 'z'.val))) = true at h
  simp only [Bool.or_eq_true, Bool.and_eq_true, decide_eq_true_eq, ge_iff_le,
    UInt32.le_iff_toNat_le, Char.toNat_val] at h
  have upper : 'Z'.toNat = 0x5a := rfl
  have lower : 'z'.toNat = 0x7a := rfl
  omega

/-- A word of ASCII characters has its lower case character by character. -/
theorem toLower_of_ascii {w : List Char} (h : ∀ c ∈ w, c.toNat < 0x80) :
    Text.toLower (String.ofList w) = String.ofList (w.map Char.toLower) := by
  have from_ : ∀ before, Text.lowerFrom before w = w.map Char.toLower := by
    induction w with
    | nil => exact fun _ => rfl
    | cons c rest ih =>
      intro before
      obtain ⟨hc, hrest⟩ := List.forall_mem_cons.mp h
      have sigma : (c == 'Σ') = false := by
        rw [beq_eq_false_iff_ne]
        rintro rfl
        exact absurd hc (by decide)
      rw [Text.lowerFrom, ih hrest, sigma, Text.lowerChar, if_pos hc]
      rfl
  rw [Text.toLower, String.toList_ofList, from_]

/-- **The guard finds a keyword that stands outside what it takes for literals**, if it is
set off on both sides as a word of the database is. This is where the words of the two
readings meet. -/
theorem writeKeyword?_ne_none {sql : String} {a w b : List Char}
    (hsql : sql.toList = a ++ (w ++ b)) (hw : isWriteWord w = true)
    (hopen : openQuote none a = none) (ha : ∀ c ∈ a.getLast?, isNameChar c = false)
    (hb : ∀ c ∈ b.head?, isNameChar c = false) : writeKeyword? sql ≠ none := by
  have letters := isAlpha_of_isWriteWord hw
  have chars : ∀ c ∈ w, isWordChar c = true := by
    intro c hc
    rw [isWordChar, isAlphanumeric_of_ascii (toNat_lt_of_isAlpha (letters c hc)),
      Char.isAlphanum, letters c hc]
    rfl
  obtain ⟨shown, stays⟩ := unquoted_of_forall (s := w) fun c hc =>
    isQuote_eq_false (by rw [isNameChar, Char.isAlphanum, letters c hc]; rfl)
  have piece : w ∈ Text.splitBy (fun c => !isWordChar c) (unquoted none sql.toList) := by
    rw [hsql, unquoted_append, hopen, unquoted_append, shown, stays]
    refine Text.mem_splitBy_append (fun c hc => by simp [chars c hc]) ?_ ?_
    · intro c hc
      rcases getLast?_unquoted hopen hc with rfl | hc
      · rfl
      · simp [isWordChar_eq_false (ha c hc)]
    · intro c hc
      rcases head?_unquoted hc with rfl | hc
      · rfl
      · simp [isWordChar_eq_false (hb c hc)]
  obtain ⟨keyword, hkeyword, heq⟩ := List.any_eq_true.mp hw
  have found : keyword ∈ words (unquoted none sql.toList) := by
    refine List.mem_map.mpr ⟨w, piece, ?_⟩
    rw [toLower_of_ascii fun c hc => toNat_lt_of_isAlpha (letters c hc), beq_iff_eq.mp heq,
      String.ofList_toList]
  intro none
  exact List.find?_eq_none.mp none keyword found (List.contains_iff_mem.mpr hkeyword)

/-! ## Tokens and quotes -/

theorem Closes.openQuote {q : Char} {s : List Char} (quote : isQuote q = true)
    (h : Closes q s) : openQuote (some q) s = none := by
  induction h with
  | close => simp [Sql.openQuote]
  | doubled _ ih => simp [Sql.openQuote, quote, ih]
  | inside hc _ ih => simp [Sql.openQuote, hc, ih]

theorem Closes.getLast? {q : Char} {s : List Char} (h : Closes q s) : s.getLast? = some q := by
  induction h with
  | close => rfl
  | doubled _ ih => simp [List.getLast?_cons, ih]
  | inside _ _ ih => simp [List.getLast?_cons, ih]

namespace Token.Before

variable {t : Token} {rest : List Char}

/-- The quotes of a token behind which the text goes on are closed, unless it is a
comment. -/
theorem openQuote (h : t.Before rest) (hrest : rest ≠ [])
    (hcomment : ∀ s, t = .comment s → Sql.openQuote none s = none) :
    Sql.openQuote none t.text = none := by
  cases h with
  | word chars => exact (unquoted_of_forall fun c hc => isQuote_eq_false (chars c hc)).2
  | literal quote ends =>
    rw [text, Sql.openQuote, if_pos quote]
    exact (ends.resolve_left hrest).openQuote quote
  | line | block => exact hcomment _ rfl
  | sign _ quote => simp [text, Sql.openQuote, quote]

/-- What stands in front of a word does not end as a word might. -/
theorem getLast? (h : t.Before rest) {d : Char} (hd : d ∈ rest.head?)
    (hname : isNameChar d = true) : ∀ c ∈ t.text.getLast?, isNameChar c = false := by
  have hrest : rest ≠ [] := by
    rintro rfl
    cases hd
  have not_name {q : Char} (quote : isQuote q = true) : isNameChar q = false := by
    by_contra name
    rw [isQuote_eq_false (Bool.not_eq_false _ ▸ name)] at quote
    cases quote
  intro c hc
  cases h with
  | word _ ends => cases hname.symm.trans (ends d hd)
  | @literal q s _ quote ends =>
    have last := (ends.resolve_left hrest).getLast?
    rw [text, List.getLast?_cons, last] at hc
    cases hc
    exact not_name quote
  | line ends =>
    obtain rfl := ends d hd
    cases hname
  | block ends =>
    obtain ⟨inside, rfl⟩ := ends.resolve_left hrest
    rw [text, List.getLast?_concat] at hc
    cases hc
    rfl
  | sign name =>
    cases hc
    exact name

end Token.Before

/-- **Where a word stands.** If no comment in front of it leaves a quote open, the guard
has no literal open at a word, and the word is set off on both sides. By induction on the
tokens in front: literals are closed, since something follows them; words and signs hold no
quotes; and comments are what the hypothesis is about. -/
theorem stands_of_tokens {s w : List Char} {before after : List Token}
    (h : tokens s = before ++ .word w :: after)
    (hcomment : ∀ c, .comment c ∈ before → openQuote none c = none) :
    ∃ a b, s = a ++ (w ++ b) ∧ openQuote none a = none
      ∧ (∀ c ∈ a.getLast?, isNameChar c = false)
      ∧ (∀ c ∈ b.head?, isNameChar c = false)
      ∧ ∃ c ∈ w.head?, isNameChar c = true := by
  induction before generalizing s with
  | nil =>
    obtain ⟨b, rfl, hw, stands, -⟩ := exists_of_tokens_cons h
    cases stands with
    | word chars ends =>
      obtain ⟨d, w', rfl⟩ := List.exists_cons_of_ne_nil hw
      exact ⟨[], b, rfl, rfl, nofun, ends, d, rfl, chars d List.mem_cons_self⟩
  | cons t before ih =>
    obtain ⟨rest, rfl, -, stands, behind⟩ := exists_of_tokens_cons h
    obtain ⟨a, b, rfl, hopen, ha, hb, d, hd, hname⟩ :=
      ih behind fun c hc => hcomment c (List.mem_cons_of_mem _ hc)
    obtain ⟨w', rfl⟩ := List.head?_eq_some_iff.mp hd
    refine ⟨t.text ++ a, b, (List.append_assoc ..).symm, ?_, ?_, hb, d, hd, hname⟩
    · rw [openQuote_append, stands.openQuote (by simp), hopen]
      rintro c rfl
      exact hcomment c List.mem_cons_self
    · intro c hc
      -- the text in front ends with the token `t` if nothing stands between it and the word
      cases a with
      | nil => exact stands.getLast? rfl hname c (by simpa using hc)
      | cons e a => exact ha c (by simpa [List.getLast?_append] using hc)

/-- **The guard overlooks a keyword only behind a comment with an open quote.** In a
statement that is let through no word is a write keyword exactly if no write keyword stands
behind a comment in which a quote is opened and not closed, as the guard counts quotes.

The condition looks at comments only, and at those in front of the keyword: what comes
behind the keyword cannot hide it. From left to right nothing is to be shown. From right to
left it says that comments are the only gap, so that whoever mends the guard has to teach
it comments and nothing else. -/
theorem ensureReadOnly_overlooks_iff {sql : String} (h : ensureReadOnly sql = .ok ()) :
    (∀ w, .word w ∈ tokens sql.toList → isWriteWord w = false) ↔
      ¬ ∃ before w after c, tokens sql.toList = before ++ .word w :: after
        ∧ isWriteWord w = true ∧ .comment c ∈ before ∧ openQuote none c ≠ none := by
  constructor
  · rintro all ⟨before, w, after, c, hs, hw, -⟩
    have := all w (by rw [hs]; simp)
    rw [this] at hw
    cases hw
  · intro closed w hmem
    obtain ⟨before, after, hs⟩ := List.append_of_mem hmem
    by_contra hw
    rw [Bool.not_eq_false] at hw
    obtain ⟨a, b, hsql, hopen, ha, hb, -⟩ := stands_of_tokens hs fun c hc => by
      by_contra hopen
      exact closed ⟨before, w, after, c, hs, hw, hc, hopen⟩
    exact writeKeyword?_ne_none hsql hw hopen ha hb ((ensureReadOnly_eq_ok_iff sql).mp h)

/-- A statement with a keyword in a literal, and with quotes in a comment that are
closed there. -/
theorem ensureReadOnly_overlooks_iff_of_closed :
    ensureReadOnly "select 'drop' -- 'it''s'" = .ok ()
      ∧ ∀ w, .word w ∈ tokens "select 'drop' -- 'it''s'".toList → isWriteWord w = false := by
  have accepted : ensureReadOnly "select 'drop' -- 'it''s'" = .ok () := by decide +kernel
  have cut : tokens "select 'drop' -- 'it''s'".toList =
      [.word "select".toList, .sign ' ', .literal "'drop'".toList, .sign ' ',
        .comment "-- 'it''s'".toList] := by
    decide +kernel
  refine ⟨accepted, (ensureReadOnly_overlooks_iff accepted).mpr ?_⟩
  rintro ⟨before, w, after, c, hs, -, hc, hopen⟩
  have mem : Token.comment c ∈ before ++ .word w :: after := List.mem_append_left _ hc
  rw [← hs, cut] at mem
  obtain rfl : c = "-- 'it''s'".toList := by simpa using mem
  exact hopen (by decide)

/-- **The guard lets a statement through that drops a table**: the quote in the comment
opens a literal for the guard and none for the database. The comment reads as any note
would, with an apostrophe in it. -/
theorem ensureReadOnly_overlooks_drop :
    ensureReadOnly "-- it's\ndrop table users" = .ok ()
      ∧ ¬ ∀ w, .word w ∈ tokens "-- it's\ndrop table users".toList →
          isWriteWord w = false := by
  refine ⟨by decide +kernel, fun all => ?_⟩
  have drop : .word "drop".toList ∈ tokens "-- it's\ndrop table users".toList := by
    decide +kernel
  exact absurd (all _ drop) (by decide)

end CaseRunner.Sql
