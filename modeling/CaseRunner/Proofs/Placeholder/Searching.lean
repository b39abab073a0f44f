import CaseRunner.Proofs.Placeholder.Finding
import CaseRunner.Proofs.Text.Slices

/-!
# Placeholders searched for

A placeholder can be searched for with two patterns, one for names in braces and one for
bare names. Each finds its matches in the whole text, from left to right and without
overlaps (`Pattern.matchesFrom`). The next placeholder from a place on is the first match
that begins there or behind, of those that stand alone if they must (`nextPlaceholder`).
Places are counted in bytes, and looking at what stands around a match cuts the text there.

From a place between two characters the search finds what begins there
(`nextPlaceholder_of_begins`), or else what it finds from the next such place
(`nextPlaceholder_of_plain`).

There are two things that could go wrong. A pattern whose matches do not overlap might pass
over a placeholder because it begins inside a match that is not one, such as a bare name
that does not stand alone. It does not, as a match has no sign in it but the first
(`Pattern.matchesFrom_eq`). And a place might fall inside a character of several bytes. It
does not either, as all places come from matches, and these have whole characters around
them.
-/

namespace CaseRunner.Placeholder

open String (utf8Len utf8Len_nil utf8Len_cons utf8Len_append)

/-! ## Patterns -/

/-- **A pattern** matches texts that begin with a sign, and there is a name in them. What
it matches is known only by what it finds at the front of a text, and by this being a front
of the text. -/
structure Pattern where
  /-- What it matches at the front of a text, and the name in it. -/
  at? : List Char → Option (List Char × String)
  /-- The sign. -/
  sigil : Char
  /-- A match is a front of the text and begins with the sign. -/
  front : ∀ {s written name}, at? s = some (written, name) →
    ∃ tail rest, written = sigil :: tail ∧ s = written ++ rest

/-- A sign and a name in braces at the front of a text. -/
def bracedAt? (sigil : Char) (s : List Char) : Option (List Char × String) :=
  match s with
  | c :: '{' :: rest =>
    let name := rest.takeWhile Text.isWordChar
    if c = sigil && !name.isEmpty && (rest.drop name.length).head? = some '}' then
      some (c :: '{' :: (name ++ ['}']), String.ofList name)
    else none
  | _ => none

/-- A sign and a bare name at the front of a text, as long as it goes. -/
def bareAt? (sigil : Char) (s : List Char) : Option (List Char × String) :=
  match s with
  | c :: rest => (nameAt? rest).bind fun name =>
    if c = sigil then some (c :: name, String.ofList name) else none
  | [] => none

/-- **A match of a pattern in a text**, between two places. -/
structure Match where
  /-- The place where it begins. -/
  start : Nat
  /-- The place where it ends. -/
  stop : Nat
  /-- The name. -/
  name : String
  deriving DecidableEq, Repr

section Patterns

variable {sigil : Char} {s written : List Char} {n : String}

/-- **The braced form as the pattern says it**: a sign, an opening brace, letters of words,
at least one of them, and a closing brace. -/
theorem bracedAt?_eq_some_iff : bracedAt? sigil s = some (written, n) ↔
    ∃ name rest, name ≠ [] ∧ (∀ c ∈ name, Text.isWordChar c = true)
      ∧ written = sigil :: '{' :: (name ++ ['}']) ∧ s = written ++ rest
      ∧ n = String.ofList name := by
  constructor
  · intro h
    unfold bracedAt? at h
    split at h
    next c s =>
      obtain ⟨name, rest, rfl, hname, word, -⟩ := Text.exists_longest Text.isWordChar s
      dsimp only at h
      rw [hname, List.drop_left] at h
      split at h
      next found =>
        cases h
        simp only [Bool.and_eq_true, Bool.not_eq_true', decide_eq_true_eq,
          List.head?_eq_some_iff, List.isEmpty_eq_false_iff] at found
        obtain ⟨⟨rfl, some⟩, after, rfl⟩ := found
        exact ⟨name, after, some, word, rfl, by simp, rfl⟩
      next => cases h
    next => cases h
  · rintro ⟨name, rest, some, word, rfl, rfl, rfl⟩
    have closing : ∀ c ∈ ('}' :: rest).head?, Text.isWordChar c = false := by
      rintro c hc
      cases hc
      decide
    have shape : sigil :: '{' :: (name ++ ['}']) ++ rest
        = sigil :: '{' :: (name ++ '}' :: rest) := by simp
    rw [shape, bracedAt?, Text.takeWhile_of_longest word closing, List.drop_left,
      if_pos (by simpa using some)]

/-- **The bare form**: a sign, the beginning of a name, and all letters of words that
follow. It takes as many as there are, so the next character is none. -/
theorem bareAt?_eq_some_iff : bareAt? sigil s = some (written, n) ↔
    ∃ c cs rest, Text.isNameStart c = true ∧ (∀ c ∈ cs, Text.isWordChar c = true)
      ∧ (∀ c ∈ rest.head?, Text.isWordChar c = false) ∧ written = sigil :: c :: cs
      ∧ s = written ++ rest ∧ n = String.ofList (c :: cs) := by
  constructor
  · intro h
    unfold bareAt? at h
    split at h
    next d s =>
      obtain ⟨name, found, h⟩ := Option.bind_eq_some_iff.mp h
      obtain ⟨c, cs, rest, rfl, rfl, start, word, longest⟩ := nameAt?_eq_some_iff.mp found
      split at h
      next sign =>
        cases h
        exact ⟨c, cs, rest, start, word, longest, by rw [sign], rfl, rfl⟩
      next => cases h
    next => cases h
  · rintro ⟨c, cs, rest, start, word, longest, rfl, rfl, rfl⟩
    refine Option.bind_eq_some_iff.mpr ⟨c :: cs, ?_, if_pos rfl⟩
    exact nameAt?_eq_some_iff.mpr ⟨c, cs, rest, rfl, rfl, start, word, longest⟩

theorem bracedAt?_front (h : bracedAt? sigil s = some (written, n)) :
    ∃ tail rest, written = sigil :: tail ∧ s = written ++ rest := by
  obtain ⟨name, rest, -, -, hwritten, hs, -⟩ := bracedAt?_eq_some_iff.mp h
  exact ⟨_, rest, hwritten, hs⟩

theorem bareAt?_front (h : bareAt? sigil s = some (written, n)) :
    ∃ tail rest, written = sigil :: tail ∧ s = written ++ rest := by
  obtain ⟨c, cs, rest, -, -, -, hwritten, hs, -⟩ := bareAt?_eq_some_iff.mp h
  exact ⟨_, rest, hwritten, hs⟩

end Patterns

/-- The pattern of names in braces. -/
def Form.braced (form : Form) : Pattern := ⟨bracedAt? form.sigil, form.sigil, bracedAt?_front⟩

/-- The pattern of bare names. -/
def Form.bare (form : Form) : Pattern := ⟨bareAt? form.sigil, form.sigil, bareAt?_front⟩

/-- The matches of a pattern in a text behind so many bytes, from left to right. So many
characters belong to a match that has been found. The search for the next match begins
behind the last one, also if that one is not wanted. -/
def Pattern.matchesFrom (p : Pattern) : Nat → Nat → List Char → List Match
  | _, _, [] => []
  | offset, skip + 1, c :: s => p.matchesFrom (offset + c.utf8Size) skip s
  | offset, 0, c :: s =>
    match p.at? (c :: s) with
    | some (written, name) =>
      ⟨offset, offset + utf8Len written, name⟩
        :: p.matchesFrom (offset + c.utf8Size) (written.length - 1) s
    | none => p.matchesFrom (offset + c.utf8Size) 0 s

/-! ## The search -/

/-- The first of some matches in a text that begins at a place or behind it and stands
alone if it must; nothing where the text cannot be cut. There are two kinds of nothing: no
such match, and a cut that fails. -/
def firstAlone? (form : Form) (text : List Char) (last : Nat) :
    List Match → Option (Option Match)
  | [] => some none
  | m :: ms =>
    if m.start < last then firstAlone? form text last ms
    else do
      let before ← Text.takeBytes? m.start text
      let after ← Text.dropBytes? m.stop text
      if !form.standalone || (isGap before.getLast? && isGap after.head?) then
        return some m
      else firstAlone? form text last ms

/-- The one of two matches that begins first, the one in braces if they begin together. -/
def leftmost : Option Match → Option Match → Option Match
  | some m, some m' => some (if m.start ≤ m'.start then m else m')
  | some m, none => some m
  | none, m => m

/-- **The next placeholder of a text from a place on**; nothing where the text cannot be
cut. Names in braces need not stand alone, so the first of them is taken as it is. -/
def nextPlaceholder (form : Form) (text : List Char) (last : Nat) : Option (Option Match) := do
  let braced := (form.braced.matchesFrom 0 0 text).find? fun m => last ≤ m.start
  let bare ← firstAlone? form text last (form.bare.matchesFrom 0 0 text)
  return leftmost braced bare

/-! ## What a search can find -/

section Bounds

variable {p : Pattern} {form : Form} {text s : List Char} {offset skip last : Nat} {m : Match}
  {ms : List Match}

/-- A match is not empty, and it is inside the text. -/
theorem Pattern.bounds_of_mem (h : m ∈ p.matchesFrom offset skip s) :
    m.start < m.stop ∧ m.stop ≤ offset + utf8Len s := by
  induction s generalizing offset skip with
  | nil => cases h
  | cons c s ih =>
    rw [utf8Len_cons, Nat.add_comm (utf8Len s), ← Nat.add_assoc]
    cases skip with
    | succ skip => exact ih h
    | zero =>
      rw [matchesFrom] at h
      split at h
      next written name found =>
        rcases List.mem_cons.mp h with rfl | h
        · obtain ⟨tail, rest, rfl, heq⟩ := p.front found
          have size := congrArg utf8Len heq
          rw [utf8Len_append, utf8Len_cons] at size
          have := p.sigil.utf8Size_pos
          constructor
          · show offset < offset + utf8Len (p.sigil :: tail)
            rw [utf8Len_cons]
            omega
          · show offset + utf8Len (p.sigil :: tail) ≤ _
            omega
        · exact ih h
      next => exact ih h

theorem mem_of_firstAlone? (h : firstAlone? form text last ms = some (some m)) :
    m ∈ ms ∧ last ≤ m.start := by
  induction ms with
  | nil => cases h
  | cons m' ms ih =>
    unfold firstAlone? at h
    split at h
    · exact (ih h).imp_left (List.mem_cons_of_mem _)
    next reached =>
      obtain ⟨before, -, h⟩ := Option.bind_eq_some_iff.mp h
      obtain ⟨after, -, h⟩ := Option.bind_eq_some_iff.mp h
      split at h
      · cases h
        exact ⟨List.mem_cons_self, Nat.not_lt.mp reached⟩
      · exact (ih h).imp_left (List.mem_cons_of_mem _)

/-- Of two matches the one further to the left is taken, so what is taken is one of the
two. -/
theorem leftmost_eq_some {m₁ m₂ : Option Match} (h : leftmost m₁ m₂ = some m) :
    m₁ = some m ∨ m₂ = some m := by
  cases m₁ with
  | none => exact .inr h
  | some m₁ =>
    cases m₂ with
    | none => exact .inl h
    | some m₂ =>
      rw [leftmost] at h
      split at h
      · exact .inl h
      · exact .inr h

/-- **A placeholder that is found** begins at the place from which it is searched for or
behind, is not empty, and ends in the text. This is what brings the searching to an end. -/
theorem bounds_of_nextPlaceholder (h : nextPlaceholder form text last = some (some m)) :
    last ≤ m.start ∧ m.start < m.stop ∧ m.stop ≤ utf8Len text := by
  obtain ⟨bare, hbare, h⟩ := Option.bind_eq_some_iff.mp h
  rcases leftmost_eq_some (Option.some.inj h) with found | rfl
  · have reached : last ≤ m.start := by simpa using List.find?_some found
    have inside := Pattern.bounds_of_mem (List.mem_of_find?_eq_some found)
    exact ⟨reached, by simpa using inside⟩
  · obtain ⟨found, reached⟩ := mem_of_firstAlone? hbare
    exact ⟨reached, by simpa using Pattern.bounds_of_mem found⟩

end Bounds

/-! ## Signs -/

/-- **The sign of a form is clear**: a placeholder of the form has none but the one it
begins with. Both signs are so, and it is all that has to be known of them. -/
structure Form.Clear (form : Form) : Prop where
  /-- It begins no bare name. -/
  start : Text.isNameStart form.sigil = false
  /-- It stands in no name. -/
  word : Text.isWordChar form.sigil = false
  /-- It is no brace. -/
  braces : form.sigil ≠ '{' ∧ form.sigil ≠ '}'

theorem clear_variableForm : variableForm.Clear := ⟨by decide, by decide, by decide⟩

theorem clear_relationForm : relationForm.Clear := ⟨by decide, by decide, by decide⟩

section Signs

variable {form : Form} {before : Option Char} {s written rest name : List Char} {n : String}

/-- A placeholder has its sign at its beginning and nowhere else. So two of them cannot
overlap. -/
theorem Begins.sigil_not_mem_tail (clear : form.Clear) (h : Begins form before written name rest) :
    form.sigil ∉ written.tail := by
  have apart {cs : List Char} (word : ∀ c ∈ cs, Text.isWordChar c = true) : form.sigil ∉ cs :=
    fun hmem => Bool.false_ne_true (clear.word.symm.trans (word _ hmem))
  cases h with
  | braced some word =>
    simp only [List.tail_cons, List.mem_cons, List.mem_append, List.not_mem_nil, or_false]
    rintro (open' | inside | close)
    · exact clear.braces.1 open'
    · exact apart word inside
    · exact clear.braces.2 close
  | bare start word =>
    rw [List.tail_cons, List.mem_cons]
    rintro (rfl | inside)
    · exact Bool.false_ne_true (clear.start.symm.trans start)
    · exact apart word inside

/-- **What a pattern matches has one sign** only. -/
def Pattern.Single (p : Pattern) : Prop :=
  ∀ {s written n}, p.at? s = some (written, n) → p.sigil ∉ written.tail

theorem Form.Clear.single_braced (clear : form.Clear) : form.braced.Single := by
  intro s written n h
  obtain ⟨name, rest, some, word, rfl, -, -⟩ := bracedAt?_eq_some_iff.mp h
  have h : Begins form none _ _ rest := .braced some word
  exact h.sigil_not_mem_tail clear

theorem Form.Clear.single_bare (clear : form.Clear) : form.bare.Single := by
  intro s written n h
  obtain ⟨c, cs, rest, start, word, longest, rfl, -, -⟩ := bareAt?_eq_some_iff.mp h
  have clear' : Form.Clear ⟨form.sigil, false⟩ := ⟨clear.start, clear.word, clear.braces⟩
  have h : Begins ⟨form.sigil, false⟩ none _ _ rest := .bare start word longest nofun
  have := h.sigil_not_mem_tail clear'
  exact this

end Signs

/-! ## Matches at all places -/

namespace Pattern

/-- The matches of a pattern at all places of a text behind so many bytes. -/
def occurrences (p : Pattern) : Nat → List Char → List Match
  | _, [] => []
  | offset, c :: s =>
    ((p.at? (c :: s)).map fun (written, name) =>
        (⟨offset, offset + utf8Len written, name⟩ : Match)).toList
      ++ p.occurrences (offset + c.utf8Size) s

variable {p : Pattern} {offset skip : Nat} {s front : List Char} {m : Match}

/-- **No match is missed** because it overlaps another, as a match has no sign inside. So
the matches of a pattern are those at all places, whatever has been matched in front. -/
theorem matchesFrom_eq (single : p.Single) (passed : p.sigil ∉ s.take skip) :
    p.matchesFrom offset skip s = p.occurrences offset s := by
  induction s generalizing offset skip with
  | nil => cases skip <;> rfl
  | cons c s ih =>
    cases skip with
    | succ skip =>
      rw [List.take_succ_cons, List.mem_cons, not_or] at passed
      have plain : p.at? (c :: s) = none := by
        cases found : p.at? (c :: s) with
        | none => rfl
        | some m =>
          obtain ⟨tail, rest, hwritten, heq⟩ := p.front found
          rw [hwritten] at heq
          exact absurd (List.cons.inj heq).1.symm passed.1
      rw [matchesFrom, occurrences, plain, ih passed.2]
      rfl
    | zero =>
      rw [matchesFrom, occurrences]
      cases found : p.at? (c :: s) with
      | none => exact ih List.not_mem_nil
      | some m =>
        obtain ⟨written, name⟩ := m
        obtain ⟨tail, rest, rfl, heq⟩ := p.front found
        have passed : p.sigil ∉ s.take tail.length := by
          obtain ⟨-, rfl⟩ : c = p.sigil ∧ s = tail ++ rest := List.cons.inj heq
          rw [List.take_left]
          exact single found
        exact congrArg (List.cons _) (ih passed)

/-- What occurs in a text with something in front is what occurs in it, further behind, and
what begins before. The number of bytes by which it is further behind is that of what
stands in front. -/
theorem occurrences_append (p : Pattern) (offset : Nat) (front s : List Char) :
    ∃ earlier, p.occurrences offset (front ++ s)
        = earlier ++ p.occurrences (offset + utf8Len front) s
      ∧ ∀ m ∈ earlier, m.start < offset + utf8Len front := by
  induction front generalizing offset with
  | nil => exact ⟨[], rfl, nofun⟩
  | cons c front ih =>
    obtain ⟨earlier, heq, before⟩ := ih (offset + c.utf8Size)
    have size : offset + utf8Len (c :: front) = offset + c.utf8Size + utf8Len front := by
      rw [utf8Len_cons]
      omega
    rw [List.cons_append, occurrences, heq, size, ← List.append_assoc]
    refine ⟨_, rfl, fun m hm => ?_⟩
    rcases List.mem_append.mp hm with here | hm
    · obtain ⟨_, _, rfl⟩ := Option.map_eq_some_iff.mp (Option.mem_toList.mp here)
      have := c.utf8Size_pos
      show offset < _
      omega
    · exact before m hm

theorem utf8Len_snoc (front : List Char) (c : Char) :
    utf8Len (front ++ [c]) = utf8Len front + c.utf8Size := by
  rw [utf8Len_append, utf8Len_cons, utf8Len_nil, Nat.zero_add]

theorem occurrences_cons (p : Pattern) (front : List Char) (c : Char) (s : List Char) :
    p.occurrences (utf8Len front) (c :: s)
      = ((p.at? (c :: s)).map fun (written, name) =>
          (⟨utf8Len front, utf8Len (front ++ written), name⟩ : Match)).toList
        ++ p.occurrences (utf8Len (front ++ [c])) s := by
  rw [utf8Len_snoc]
  simp only [occurrences, utf8Len_append]

/-- **A match stands between two parts of the text.** Its places are numbers of bytes, and
here it is said which characters these lie between; so no place is ever inside of a
character. -/
theorem exists_of_mem_occurrences (h : m ∈ p.occurrences (utf8Len front) s) :
    ∃ between written rest, s = between ++ (written ++ rest)
      ∧ m.start = utf8Len (front ++ between) ∧ m.stop = utf8Len (front ++ between ++ written) := by
  induction s generalizing front with
  | nil => cases h
  | cons c s ih =>
    rw [occurrences_cons] at h
    rcases List.mem_append.mp h with here | h
    · obtain ⟨⟨written, name⟩, found, rfl⟩ := Option.map_eq_some_iff.mp (Option.mem_toList.mp here)
      obtain ⟨tail, rest, -, heq⟩ := p.front found
      exact ⟨[], written, rest, heq, by simp, by simp⟩
    · obtain ⟨between, written, rest, rfl, hstart, hstop⟩ := ih h
      refine ⟨c :: between, written, rest, rfl, ?_, ?_⟩
      · simpa using hstart
      · simpa using hstop

end Pattern

/-! ## The search from a place between characters -/

section Places

variable {form : Form} {text front s : List Char} {last last' : Nat} {m : Match}
  {ms earlier : List Match}

/-- Matches that begin before the place do not count. -/
theorem firstAlone?_append (before : ∀ m ∈ earlier, m.start < last) :
    firstAlone? form text last (earlier ++ ms) = firstAlone? form text last ms := by
  induction earlier with
  | nil => rfl
  | cons m earlier ih =>
    obtain ⟨hm, before⟩ := List.forall_mem_cons.mp before
    rw [List.cons_append, firstAlone?, if_pos hm, ih before]

/-- Where all matches begin behind two places, it makes no difference from which one is
searched for. -/
theorem firstAlone?_congr (h : ∀ m ∈ ms, last ≤ m.start ∧ last' ≤ m.start) :
    firstAlone? form text last ms = firstAlone? form text last' ms := by
  induction ms with
  | nil => rfl
  | cons m ms ih =>
    obtain ⟨⟨hm, hm'⟩, h⟩ := List.forall_mem_cons.mp h
    rw [firstAlone?, firstAlone?, if_neg (Nat.not_lt.mpr hm), if_neg (Nat.not_lt.mpr hm'), ih h]

/-- A text can be cut where its matches are. -/
theorem exists_firstAlone? (form : Form) (p : Pattern) (front s : List Char) (last : Nat) :
    ∃ m?, firstAlone? form (front ++ s) last (p.occurrences (utf8Len front) s) = some m? := by
  have cut (m) (hm : m ∈ p.occurrences (utf8Len front) s) :
      ∃ before after, Text.takeBytes? m.start (front ++ s) = some before
        ∧ Text.dropBytes? m.stop (front ++ s) = some after := by
    obtain ⟨between, written, rest, rfl, hstart, hstop⟩ := Pattern.exists_of_mem_occurrences hm
    rw [hstart, hstop]
    refine ⟨front ++ between, rest, ?_, ?_⟩
    · rw [← List.append_assoc, Text.takeBytes?_append]
    · rw [← List.append_assoc, ← List.append_assoc, Text.dropBytes?_append]
  generalize p.occurrences (utf8Len front) s = ms at cut
  induction ms with
  | nil => exact ⟨none, rfl⟩
  | cons m ms ih =>
    obtain ⟨m?, hms⟩ := ih fun m hm => cut m (List.mem_cons_of_mem _ hm)
    obtain ⟨before, after, hbefore, hafter⟩ := cut m List.mem_cons_self
    rw [firstAlone?, hbefore, hafter, hms]
    dsimp only [Option.bind_eq_bind, Option.bind_some]
    split
    · exact ⟨_, rfl⟩
    · split
      · exact ⟨_, rfl⟩
      · exact ⟨_, rfl⟩

theorem le_start_of_mem_occurrences {p : Pattern} (h : m ∈ p.occurrences (utf8Len front) s) :
    utf8Len front ≤ m.start := by
  obtain ⟨between, written, rest, -, hstart, -⟩ := p.exists_of_mem_occurrences h
  rw [hstart, utf8Len_append]
  exact Nat.le_add_right _ _

/-- The first match that begins at a place or behind, if the others are known. -/
theorem find?_append (before : ∀ m ∈ earlier, m.start < last) (behind : ∀ m ∈ ms, last ≤ m.start) :
    ((earlier ++ ms).find? fun m => last ≤ m.start) = ms.head? := by
  have none : earlier.find? (fun m => last ≤ m.start) = none :=
    List.find?_eq_none.mpr fun m hm => by simpa using before m hm
  rw [List.find?_append, none, Option.none_or]
  cases ms with
  | nil => rfl
  | cons m ms => rw [List.find?_cons_of_pos (by simpa using behind m List.mem_cons_self)]; rfl

/-- **The search goes on from a place** as if there were nothing before it. The matches
that begin in front of the place are found as well, each time, and do not count. -/
theorem nextPlaceholder_eq (clear : form.Clear) (front s : List Char) :
    nextPlaceholder form (front ++ s) (utf8Len front) =
      (firstAlone? form (front ++ s) (utf8Len front)
          (form.bare.occurrences (utf8Len front) s)).map
        (leftmost (form.braced.occurrences (utf8Len front) s).head?) := by
  obtain ⟨bare, hbare, bare_before⟩ := form.bare.occurrences_append 0 front s
  obtain ⟨braced, hbraced, braced_before⟩ := form.braced.occurrences_append 0 front s
  rw [Nat.zero_add] at *
  rw [nextPlaceholder, Pattern.matchesFrom_eq clear.single_bare List.not_mem_nil,
    Pattern.matchesFrom_eq clear.single_braced List.not_mem_nil, hbare, hbraced,
    firstAlone?_append bare_before,
    find?_append braced_before fun m hm => le_start_of_mem_occurrences hm]
  exact Option.map_eq_bind.symm

/-- Behind the text there is no placeholder. -/
theorem nextPlaceholder_end (clear : form.Clear) (text : List Char) :
    nextPlaceholder form text (utf8Len text) = some none := by
  have := nextPlaceholder_eq clear text []
  rwa [List.append_nil] at this

/-- **A placeholder that begins at the place** is the next one. If it is in braces no bare
name begins there, and the other way round; and nothing that begins behind comes before it.
-/
theorem nextPlaceholder_of_begins (clear : form.Clear) {written name rest : List Char}
    (here : Begins form front.getLast? written name rest) :
    nextPlaceholder form (front ++ (written ++ rest)) (utf8Len front)
      = some (some ⟨utf8Len front, utf8Len (front ++ written), String.ofList name⟩) := by
  rw [nextPlaceholder_eq clear]
  cases here with
  | braced some word =>
    have found : form.braced.at? (form.sigil :: '{' :: (name ++ ['}']) ++ rest)
        = Option.some (form.sigil :: '{' :: (name ++ ['}']), String.ofList name) :=
      bracedAt?_eq_some_iff.mpr ⟨name, rest, some, word, rfl, rfl, rfl⟩
    obtain ⟨bare, hbare⟩ := exists_firstAlone? form form.bare front
      (form.sigil :: '{' :: (name ++ ['}']) ++ rest) (utf8Len front)
    rw [hbare, List.cons_append, Pattern.occurrences_cons, ← List.cons_append, found]
    cases bare with
    | none => rfl
    | some m => exact congrArg _ (congrArg _ (if_pos (mem_of_firstAlone? hbare).2))
  | @bare c cs _ start word longest alone =>
    have found : form.bare.at? (form.sigil :: c :: cs ++ rest)
        = Option.some (form.sigil :: c :: cs, String.ofList (c :: cs)) :=
      bareAt?_eq_some_iff.mpr ⟨c, cs, rest, start, word, longest, rfl, rfl, rfl⟩
    have unbraced : form.braced.at? (form.sigil :: c :: cs ++ rest) = none := by
      cases h : form.braced.at? (form.sigil :: c :: cs ++ rest) with
      | none => rfl
      | some m =>
        obtain ⟨name, after, -, -, hwritten, heq, -⟩ := bracedAt?_eq_some_iff.mp h
        rw [hwritten] at heq
        obtain rfl : c = '{' := (List.cons.inj (List.cons.inj heq).2).1
        cases start
    rw [List.cons_append, Pattern.occurrences_cons, Pattern.occurrences_cons, ← List.cons_append,
      found, unbraced]
    simp only [Option.map_some, Option.toList_some, Option.map_none, Option.toList_none,
      List.singleton_append, List.nil_append, firstAlone?]
    rw [if_neg (Nat.lt_irrefl _), Text.takeBytes?_append, ← List.append_assoc,
      Text.dropBytes?_append]
    dsimp only [Option.bind_eq_bind, Option.bind_some]
    rw [if_pos (alone_iff.mpr alone)]
    -- the first match in braces begins behind the sign
    cases hbraced : (form.braced.occurrences (utf8Len (front ++ [form.sigil]))
        (c :: cs ++ rest)).head? with
    | none => rfl
    | some m =>
      have behind := le_start_of_mem_occurrences (List.mem_of_mem_head? hbraced)
      rw [Pattern.utf8Len_snoc] at behind
      have := form.sigil.utf8Size_pos
      refine congrArg _ (congrArg _ (if_neg ?_))
      show ¬ m.start ≤ utf8Len front
      omega

/-- A bare name that does not stand alone is passed over. -/
theorem firstAlone?_of_plain {c : Char} {rest : List Char}
    (none : ∀ written name after, c :: rest = written ++ after →
      ¬ Begins form front.getLast? written name after) :
    firstAlone? form (front ++ c :: rest) (utf8Len front)
        (form.bare.occurrences (utf8Len front) (c :: rest))
      = firstAlone? form (front ++ c :: rest) (utf8Len (front ++ [c]))
        (form.bare.occurrences (utf8Len (front ++ [c])) rest) := by
  have further : firstAlone? form (front ++ c :: rest) (utf8Len front)
        (form.bare.occurrences (utf8Len (front ++ [c])) rest)
      = firstAlone? form (front ++ c :: rest) (utf8Len (front ++ [c]))
        (form.bare.occurrences (utf8Len (front ++ [c])) rest) :=
    firstAlone?_congr fun m hm => by
      have behind := le_start_of_mem_occurrences hm
      have := utf8Len_append front [c]
      omega
  rw [Pattern.occurrences_cons, ← further]
  cases found : form.bare.at? (c :: rest) with
  | none => rfl
  | some m =>
    obtain ⟨written, n⟩ := m
    change bareAt? form.sigil (c :: rest) = some (written, n) at found
    obtain ⟨d, cs, after, start, word, longest, rfl, heq, rfl⟩ := bareAt?_eq_some_iff.mp found
    have touching : ¬ (!form.standalone || (isGap front.getLast? && isGap after.head?)) = true :=
      fun alone => none _ _ _ heq (.bare start word longest (alone_iff.mp alone))
    rw [heq]
    simp only [Option.map_some, Option.toList_some, List.singleton_append, firstAlone?]
    rw [if_neg (Nat.lt_irrefl _), Text.takeBytes?_append, ← List.append_assoc,
      Text.dropBytes?_append]
    dsimp only [Option.bind_eq_bind, Option.bind_some]
    rw [if_neg touching]

/-- **Where no placeholder begins**, the next one is that from behind the character there.
A bare name may be matched at the place all the same; then it does not stand alone and is
passed over. -/
theorem nextPlaceholder_of_plain (clear : form.Clear) {c : Char} {rest : List Char}
    (none : ∀ written name after, c :: rest = written ++ after →
      ¬ Begins form front.getLast? written name after) :
    nextPlaceholder form (front ++ c :: rest) (utf8Len front)
      = nextPlaceholder form (front ++ c :: rest) (utf8Len (front ++ [c])) := by
  have unbraced : form.braced.at? (c :: rest) = Option.none := by
    cases h : form.braced.at? (c :: rest) with
    | none => rfl
    | some m =>
      obtain ⟨name, after, some, word, hwritten, heq, -⟩ := bracedAt?_eq_some_iff.mp h
      exact absurd (.braced some word) (none _ _ _ (hwritten ▸ heq))
  have shifted := nextPlaceholder_eq clear (front ++ [c]) rest
  rw [List.append_assoc, List.singleton_append] at shifted
  rw [shifted, nextPlaceholder_eq clear, firstAlone?_of_plain none, Pattern.occurrences_cons,
    unbraced]
  rfl

end Places

example : nextPlaceholder variableForm "é$a $uid ${b}".toList 0 = some (some ⟨5, 9, "uid"⟩) := by
  decide +kernel

end CaseRunner.Placeholder
