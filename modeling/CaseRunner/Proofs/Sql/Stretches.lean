import CaseRunner.Proofs.Sql.Guard

/-!
# The words that decide

For the guard of the database a statement is cut from left to right into stretches outside
quotes and literals in quotes. A literal goes to the next quote of its kind, which it does
not hold itself, and one that is not closed goes to the end of the text. Such a division is
a value here (`Division`), whose parts carry what makes them parts; every text has one and
no other (`Division.exists_division`, `Division.text_inj`).

The guard joins what it keeps of a statement into one text before it looks for words. Still
no word comes from two stretches, since each literal leaves a blank
(`Division.isRun_unquoted_iff`). So a statement is let through exactly if no run of word
characters in one stretch is a write keyword, and what stands in the literals does not
matter (`ensureReadOnly_by_stretches`).

A quote that is written twice makes two literals here, one right behind the other, and not
one literal with a quote in it. This is how the guard reads it. It comes to the same for
the words outside, as nothing stands between the two.
-/

namespace CaseRunner.Sql

/-- A stretch of a statement outside quotes. -/
@[ext] structure Stretch where
  /-- The characters. -/
  text : List Char
  /-- None of them is a quote. -/
  plain : ∀ c ∈ text, isQuote c = false

/-- A literal, without the quotes around it. That its quote does not stand in it belongs to
the literal and is not said of it elsewhere: so the first quote of its kind behind its
beginning is its end, whatever follows. -/
@[ext] structure Literal where
  /-- The quote. -/
  quote : Char
  /-- It is one. -/
  isQuote_quote : isQuote quote = true
  /-- What stands in the literal. -/
  inside : List Char
  /-- The quote does not. -/
  not_mem_inside : quote ∉ inside

/-- **A statement cut into stretches and literals.** A stretch may be empty, so that a
division always begins with one, and stretches and literals take turns. The three ways to
go on are the three ways in which the text behind a stretch can look: there is nothing, a
quote without another of its kind, or a literal. -/
inductive Division where
  /-- The last stretch. -/
  | last (s : Stretch)
  /-- The last stretch, and a literal that is not closed. -/
  | unclosed (s : Stretch) (l : Literal)
  /-- A stretch, a literal, and what follows its closing quote. -/
  | closed (s : Stretch) (l : Literal) (rest : Division)

namespace Division

/-- The text that is divided. -/
def text : Division → List Char
  | last s => s.text
  | unclosed s l => s.text ++ l.quote :: l.inside
  | closed s l rest => s.text ++ l.quote :: (l.inside ++ l.quote :: rest.text)

/-- The stretches outside quotes. -/
def stretches : Division → List Stretch
  | last s | unclosed s _ => [s]
  | closed s _ rest => s :: rest.stretches

/-- **Other contents in closed literals**: each has the quote that it had. The contents are
free but for that quote, which a literal cannot hold; they may hold quotes of the other
kinds and write keywords. A literal that is not closed stays as it is. -/
inductive Refilled : Division → Division → Prop
  | last (s : Stretch) : Refilled (last s) (last s)
  | unclosed (s : Stretch) (l : Literal) : Refilled (unclosed s l) (unclosed s l)
  | closed (s : Stretch) {l l' : Literal} {rest rest' : Division} (quote : l'.quote = l.quote)
      (further : Refilled rest rest') : Refilled (closed s l rest) (closed s l' rest')

/-! ## Every text has one division -/

variable {d e : Division}

/-- **A text can be divided.** By induction on how long it is: behind a literal the text
that is left is shorter. -/
theorem exists_division (s : List Char) : ∃ d : Division, d.text = s := by
  induction hn : s.length using Nat.strong_induction_on generalizing s with
  | _ n ih =>
    obtain ⟨front, rest, rfl, -, plain, opens⟩ := Text.exists_longest (fun c => !isQuote c) s
    let stretch : Stretch := ⟨front, fun c hc => by simpa using plain c hc⟩
    cases rest with
    | nil => exact ⟨last stretch, (List.append_nil front).symm⟩
    | cons q rest =>
      have quote : isQuote q = true := by simpa using opens q rfl
      obtain ⟨inside, rest, rfl, -, other, closes⟩ := Text.exists_longest (· != q) rest
      let literal : Literal := ⟨q, quote, inside, fun hq => by simpa using other q hq⟩
      cases rest with
      | nil => exact ⟨unclosed stretch literal, by simp [text, stretch, literal]⟩
      | cons c rest =>
        obtain rfl : c = q := by simpa using closes c rfl
        have shorter : rest.length < n := by
          rw [← hn]
          simp only [List.length_append, List.length_cons]
          omega
        obtain ⟨d, rfl⟩ := ih _ shorter rest rfl
        exact ⟨closed stretch literal d, rfl⟩

/-- The first stretch. -/
def first : Division → Stretch
  | last s | unclosed s _ | closed s _ _ => s

/-- What stands behind the first stretch. -/
def behind : Division → List Char
  | last _ => []
  | unclosed _ l => l.quote :: l.inside
  | closed _ l rest => l.quote :: (l.inside ++ l.quote :: rest.text)

theorem first_append_behind (d : Division) : d.first.text ++ d.behind = d.text := by
  cases d with
  | last s => exact List.append_nil _
  | unclosed s l => rfl
  | closed s l rest => rfl

theorem isQuote_of_behind (d : Division) : ∀ c ∈ d.behind.head?, isQuote c = true := by
  intro c hc
  cases d with
  | last s => cases hc
  | unclosed s l | closed s l rest => exact Option.mem_some.mp hc ▸ l.isQuote_quote

/-- The first stretch goes to the first quote. -/
theorem first_inj (h : d.text = e.text) : d.first = e.first ∧ d.behind = e.behind := by
  have plain (d : Division) : ∀ c ∈ d.first.text, (!isQuote c) = true := fun c hc => by
    simpa using d.first.plain c hc
  have opens (d : Division) : ∀ c ∈ d.behind.head?, (!isQuote c) = false := fun c hc => by
    simpa using d.isQuote_of_behind c hc
  rw [← first_append_behind d, ← first_append_behind e] at h
  obtain ⟨first, behind⟩ := Text.longest_inj (plain d) (opens d) (plain e) (opens e) h
  exact ⟨Stretch.ext first, behind⟩

/-- A literal goes to the next quote of its kind. -/
theorem inside_inj {l l' : Literal} {s s' : List Char} (quote : l.quote = l'.quote)
    (h : l.inside ++ l.quote :: s = l'.inside ++ l'.quote :: s') : l = l' ∧ s = s' := by
  have other (l : Literal) : ∀ c ∈ l.inside, (c != l.quote) = true := fun c hc => by
    rw [bne_iff_ne]
    rintro rfl
    exact l.not_mem_inside hc
  have closes (q : Char) (s : List Char) : ∀ c ∈ (q :: s).head?, (c != q) = false :=
    fun c hc => by
      obtain rfl := Option.mem_some.mp hc
      exact bne_self_eq_false q
  obtain ⟨inside, rest⟩ := Text.longest_inj (other l) (closes _ s) (quote ▸ other l')
    (quote ▸ closes _ s') h
  exact ⟨Literal.ext quote inside, (List.cons.inj rest).2⟩

/-- **A text has only one division.** The first quote of a text ends the first stretch, and
the next of its kind ends the literal; so two divisions of a text begin alike, and then
they divide the same rest. -/
theorem text_inj (h : d.text = e.text) : d = e := by
  induction d generalizing e with
  | last s =>
    obtain ⟨hfirst, hbehind⟩ := first_inj h
    cases e with
    | last s' => exact congrArg last hfirst
    | unclosed | closed => cases hbehind
  | unclosed s l =>
    obtain ⟨hfirst, hbehind⟩ := first_inj h
    cases e with
    | last s' => cases hbehind
    | unclosed s' l' =>
      obtain ⟨quote, inside⟩ := List.cons.inj hbehind
      exact congrArg₂ unclosed hfirst (Literal.ext quote inside)
    | closed s' l' rest =>
      obtain ⟨quote, inside⟩ := List.cons.inj hbehind
      exact absurd (by rw [inside, quote]; simp) l.not_mem_inside
  | closed s l rest ih =>
    obtain ⟨hfirst, hbehind⟩ := first_inj h
    cases e with
    | last s' => cases hbehind
    | unclosed s' l' =>
      obtain ⟨quote, inside⟩ := List.cons.inj hbehind
      exact absurd (by rw [← inside, quote]; simp) l'.not_mem_inside
    | closed s' l' rest' =>
      obtain ⟨quote, inside⟩ := List.cons.inj hbehind
      obtain ⟨hl, hrest⟩ := inside_inj quote inside
      cases hfirst
      rw [hl, ih hrest]

/-- Other contents leave the stretches as they are. -/
theorem Refilled.stretches (h : Refilled d e) : e.stretches = d.stretches := by
  induction h with
  | last | unclosed => rfl
  | closed s quote further ih => exact congrArg (s :: ·) ih

/-! ## Words -/

/-- Nothing of a literal is kept. -/
theorem unquoted_inside (l : Literal) (rest : List Char) :
    unquoted (some l.quote) (l.inside ++ rest) = unquoted (some l.quote) rest := by
  obtain ⟨q, -, inside, other⟩ := l
  dsimp only
  induction inside with
  | nil => rfl
  | cons c inside ih =>
    obtain ⟨hc, hinside⟩ := not_or.mp (mt List.mem_cons.mpr other)
    rw [List.cons_append, unquoted, if_neg (Ne.symm hc), ih hinside]

/-- A literal leaves a blank. -/
theorem unquoted_stretch (s : Stretch) (l : Literal) (rest : List Char) :
    unquoted none (s.text ++ l.quote :: (l.inside ++ rest))
      = s.text ++ ' ' :: unquoted (some l.quote) rest := by
  obtain ⟨stays, opens⟩ := unquoted_of_forall s.plain
  rw [unquoted_append, stays, opens, unquoted, if_pos l.isQuote_quote, unquoted_inside]

theorem unquoted_closed (s : Stretch) (l : Literal) (rest : Division) :
    unquoted none (closed s l rest).text = s.text ++ ' ' :: unquoted none rest.text := by
  rw [text, unquoted_stretch, unquoted, if_pos rfl]

theorem unquoted_unclosed (s : Stretch) (l : Literal) :
    unquoted none (unclosed s l).text = s.text ++ [' '] := by
  have := unquoted_stretch s l []
  rwa [List.append_nil] at this

end Division

/-- **A run of word characters** in a text, which goes on on neither side. So a keyword
inside a longer word is no run, and a write keyword has to stand by itself to count. -/
structure IsRun (w s : List Char) : Prop where
  /-- It has characters. -/
  ne_nil : w ≠ []
  /-- They are word characters. -/
  chars : ∀ c ∈ w, isWordChar c = true
  /-- What stands before and behind it does not go on with it. -/
  stands : ∃ a b, s = a ++ (w ++ b) ∧ (∀ c ∈ a.getLast?, isWordChar c = false)
    ∧ ∀ c ∈ b.head?, isWordChar c = false

/-- The runs of word characters are the parts into which all other characters divide a
text. -/
theorem isRun_iff {w s : List Char} :
    IsRun w s ↔ w ≠ [] ∧ w ∈ Text.splitBy (fun c => !isWordChar c) s := by
  rw [Text.mem_splitBy_iff]
  simp only [Bool.not_eq_false', Bool.not_eq_true']
  constructor
  · rintro ⟨hw, chars, a, b, hs, ha, hb⟩
    exact ⟨hw, a, b, hs, chars, ha, hb⟩
  · rintro ⟨hw, a, b, hs, chars, ha, hb⟩
    exact ⟨hw, chars, a, b, hs, ha, hb⟩

/-- A blank cuts what is kept. -/
theorem splitBy_append_blank (a b : List Char) :
    Text.splitBy (fun c => !isWordChar c) (a ++ ' ' :: b)
      = Text.splitBy (fun c => !isWordChar c) a ++ Text.splitBy (fun c => !isWordChar c) b :=
  Text.splitBy_append_cons rfl a b

/-- **The runs of what is kept are those of the stretches.** The guard looks for words in
one text that is joined from all stretches. Without the blank that each literal leaves, the
ends of two stretches could make a word that stands nowhere in the statement. -/
theorem Division.isRun_unquoted_iff (d : Division) {w : List Char} :
    IsRun w (unquoted none d.text) ↔ ∃ s ∈ d.stretches, IsRun w s.text := by
  induction d with
  | last s => simp [text, stretches, (unquoted_of_forall s.plain).1]
  | unclosed s l =>
    rw [unquoted_unclosed]
    simp only [isRun_iff, stretches, splitBy_append_blank]
    simp +contextual [Text.splitBy]
  | closed s l rest ih =>
    rw [unquoted_closed]
    simp only [isRun_iff] at ih ⊢
    rw [splitBy_append_blank]
    simp only [stretches, List.mem_append, List.mem_cons, exists_eq_or_imp, ← ih, and_or_left]

/-- The guard lets a statement through if it keeps no run that is a write keyword. -/
theorem ensureReadOnly_iff_runs (sql : String) :
    ensureReadOnly sql = .ok () ↔ ∀ w, IsRun w (unquoted none sql.toList) →
      Text.toLower (String.ofList w) ∉ writeKeywords := by
  rw [ensureReadOnly_eq_ok_iff, writeKeyword?, words, List.find?_eq_none]
  simp only [List.forall_mem_map, List.contains_iff_mem, isRun_iff]
  constructor
  · exact fun h w hw => h w hw.2
  · intro h w hw
    by_cases empty : w = []
    · rw [empty]
      decide
    · exact h w ⟨empty, hw⟩

/-- **The guard decides by the words outside quotes.** A statement has one division into
stretches outside quotes and literals; it is let through exactly if no run of word
characters in a single stretch is a write keyword in lower case; and with other contents of
its closed literals it is let through exactly if it is with these.

The last part follows from the second, since refilling changes no stretch. But it is what a
caller relies on who puts values into literals: however they read, they decide nothing, as
long as they do not hold the quote that closes them. -/
theorem ensureReadOnly_by_stretches (sql : String) :
    ∃ d : Division, d.text = sql.toList ∧ (∀ e : Division, e.text = sql.toList → e = d)
      ∧ (ensureReadOnly sql = .ok () ↔
          ∀ s ∈ d.stretches, ∀ w, IsRun w s.text →
            Text.toLower (String.ofList w) ∉ writeKeywords)
      ∧ ∀ e, d.Refilled e →
          (ensureReadOnly (String.ofList e.text) = .ok () ↔ ensureReadOnly sql = .ok ()) := by
  have decides (d : Division) : ensureReadOnly (String.ofList d.text) = .ok () ↔
      ∀ s ∈ d.stretches, ∀ w, IsRun w s.text →
        Text.toLower (String.ofList w) ∉ writeKeywords := by
    rw [ensureReadOnly_iff_runs, String.toList_ofList]
    simp only [d.isRun_unquoted_iff]
    exact ⟨fun h s hs w hw => h w ⟨s, hs, hw⟩, fun h w ⟨s, hs, hw⟩ => h s hs w hw⟩
  obtain ⟨d, hd⟩ := Division.exists_division sql.toList
  have same : String.ofList d.text = sql := by rw [hd, String.ofList_toList]
  refine ⟨d, hd, fun e he => Division.text_inj (he.trans hd.symm), ?_, fun e he => ?_⟩
  · rw [← decides, same]
  · rw [decides, he.stretches, ← decides, same]

example : ensureReadOnly "select 'drop' as dr\"\"op" = .ok () := by decide +kernel

end CaseRunner.Sql
