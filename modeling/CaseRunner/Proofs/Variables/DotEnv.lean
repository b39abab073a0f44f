import CaseRunner.Proofs.Document.Ascending
import CaseRunner.Proofs.Text.Lines
import CaseRunner.Proofs.Text.UpperCase
import CaseRunner.Variables.DotEnv

/-!
# What environment files keep

An environment is written with one line for each of its entries, and it is read with one
entry for each of its lines; but a line is not read by the rules it was written by. An
entry *lasts* (`Lasts`) if its line says it: the key stands in the line as it is and is not
taken for something else, the value is on the same line, and a value that is not put in
quotes is not in quotes by itself.

If all entries last, the environment is read as it was written (`read_write`), and
conversely, if each entry is found under its key, all of them last (`lasts_of_read_write`).
That nothing else would do comes in two steps: what is found was read from lines, so its
key and its value have no end of line (`OwnLine`); but then the lines are those that were
written, one for each entry, and each is read by itself.

The second direction cannot be had for an entry alone. A value with an end of line is
written over two lines, and the second of them may be read as another entry; and an entry
that does not last may be found all the same, if the lines of another one say it. Asked of
all entries at once the question has an answer, since as many lines are written as there
are entries.
-/

namespace CaseRunner.DotEnv

open Text

variable {entries : Entries} {entry : String × String}

/-! ## The line of an entry -/

/-- What stands behind the `=` in the line of an entry. -/
def quoted (value : String) : List Char :=
  if needsQuotes value then '"' :: (value.toList ++ ['"']) else value.toList

/-- The line of an entry without its end. It is put together from the key, the sign and the
value, in quotes or not, so that what is shown of these is shown of the line. -/
def lineOf (entry : String × String) : List Char :=
  entry.1.toList ++ '=' :: quoted entry.2

theorem toList_writeLine (entry : String × String) :
    (writeLine entry).toList = lineOf entry ++ ['\n'] := by
  unfold writeLine lineOf quoted
  dsimp only
  split <;> simp [String.toList_append]

theorem toList_write (entries : Entries) :
    (write entries).toList = (entries.map lineOf).flatMap (· ++ ['\n']) := by
  rw [write, String.toList_join, List.flatMap_map, List.flatMap_map]
  exact List.flatMap_congr fun e _ => toList_writeLine e

/-- **The entry has a line of its own**, in which the key is the text before the `=`. This
is what an entry that was read from a line has, and what it takes for the lines of a file
to be those of its entries. -/
structure OwnLine (entry : String × String) : Prop where
  /-- No line ends in the key. -/
  key_line : '\n' ∉ entry.1.toList
  /-- The key neither begins nor ends with a blank. -/
  key_trimmed : trim entry.1.toList = entry.1.toList
  /-- The key ends where the `=` stands. -/
  key_ends : '=' ∉ entry.1.toList
  /-- No line ends in the value. -/
  value_line : '\n' ∉ entry.2.toList

/-- **The entry lasts**: its line is read as the entry.

The conditions are about the entry and not about reading, so that one can tell from a key
and a value whether they can be kept. Values are put in quotes only for a blank or a `#` in
them. A value that is in quotes by itself, and has neither, is written as it is and read
without its quotes. -/
structure Lasts (entry : String × String) : Prop extends OwnLine entry where
  /-- The line is no comment. -/
  key_shown : entry.1.toList.head? ≠ some '#'
  /-- A value that is not put in quotes is not in quotes by itself. -/
  value_bare : needsQuotes entry.2 = false → unquote entry.2.toList = entry.2.toList

/-! ## Reading the line of an entry -/

/-- Behind the `=` nothing begins or ends with a blank. -/
theorem ends_quoted (value : String) :
    (∀ c ∈ (quoted value).head?, isBlank c = false)
      ∧ ∀ c ∈ (quoted value).getLast?, isBlank c = false := by
  unfold quoted
  split
  · refine ⟨fun c hc => ?_, fun c hc => ?_⟩
    · cases hc
      rfl
    · rw [← List.cons_append, List.getLast?_concat] at hc
      cases hc
      rfl
  · rename_i hplain
    have visible : ∀ c ∈ value.toList, isBlank c = false := fun c hc => by
      have := List.any_eq_false.mp (Bool.eq_false_iff.mpr hplain) c hc
      exact (Bool.or_eq_false_iff.mp (Bool.eq_false_iff.mpr this)).1
    exact ⟨fun c hc => visible c (List.mem_of_mem_head? hc),
      fun c hc => visible c (List.mem_of_getLast? hc)⟩

theorem trim_quoted (value : String) : trim (quoted value) = quoted value :=
  trim_eq_self (ends_quoted value).1 (ends_quoted value).2

theorem getLast?_lineOf {c : Char} (h : c ∈ (lineOf entry).getLast?) : isBlank c = false := by
  rw [lineOf, List.getLast?_append_of_ne_nil _ (List.cons_ne_nil _ _)] at h
  cases hquoted : (quoted entry.2).getLast? with
  | none =>
    rw [List.getLast?_eq_none_iff.mp hquoted] at h
    cases h
    rfl
  | some d =>
    rw [List.getLast?_cons, hquoted] at h
    cases h
    exact (ends_quoted entry.2).2 d hquoted

theorem not_mem_lineOf (h : OwnLine entry) : '\n' ∉ lineOf entry := by
  have behind : '\n' ∉ quoted entry.2 := by
    unfold quoted
    split <;> simp [h.value_line]
  simp [lineOf, h.key_line, behind]

/-- **An environment whose entries have their own lines has these lines.** Only an end of a
line within an entry can bring in a line of its own. -/
theorem lines_write (h : ∀ e ∈ entries, OwnLine e) :
    lines (write entries).toList = entries.map lineOf := by
  rw [toList_write]
  refine lines_flatMap fun l hl => ?_
  obtain ⟨e, he, rfl⟩ := List.mem_map.mp hl
  refine ⟨not_mem_lineOf (h e he), fun hlast => ?_⟩
  have := getLast?_lineOf hlast
  exact absurd this (by decide)

/-- A key in upper case has no small letter. -/
theorem small_not_mem {key : String} (h : toUpper key = key) : 'e' ∉ key.toList := by
  intro hmem
  rw [← h] at hmem
  have settled : upperChar 'e' = ['e'] := (mem_toUpper hmem).elim And.right Capital.settled
  exact absurd settled (by decide)

theorem unquote_quoted (value : String) :
    unquote (quoted value) =
      if needsQuotes value then value.toList else unquote value.toList := by
  unfold quoted
  split
  · simp [unquote, stripQuotes?, stripFront?, stripLast?]
  · rfl

/-- Nothing is trimmed off the line of an entry. -/
theorem trim_lineOf (h : OwnLine entry) : trim (lineOf entry) = lineOf entry := by
  refine trim_eq_self (fun c hc => ?_) fun c hc => getLast?_lineOf hc
  rw [lineOf, List.head?_append] at hc
  cases hkey : entry.1.toList.head? with
  | none =>
    rw [hkey] at hc
    cases hc
    rfl
  | some d =>
    rw [hkey] at hc
    cases hc
    exact (ends_trim entry.1.toList).1 c (h.key_trimmed.symm ▸ hkey)

/-- No line of an entry exports something. -/
theorem stripFront?_export (hupper : toUpper entry.1 = entry.1) :
    stripFront? "export ".toList (lineOf entry) = none := by
  refine if_neg fun hexport => ?_
  obtain ⟨rest, hrest⟩ := List.isPrefixOf_iff_prefix.mp hexport
  have small : 'e' ∉ entry.1.toList := small_not_mem hupper
  have letters : "export ".toList = ['e', 'x', 'p', 'o', 'r', 't', ' '] := by decide
  rw [lineOf, letters] at hrest
  cases hkey : entry.1.toList with
  | nil =>
    rw [hkey] at hrest
    cases hrest
  | cons c key =>
    rw [hkey] at hrest small
    have first : 'e' = c := List.head_eq_of_cons_eq hrest
    exact small (first ▸ List.mem_cons_self)

/-- **What the line of an entry says.** The key is found again as it is; it need not be put
into upper case once more, as it is in upper case. The value is what stands between the
quotes that are put around it, or else between those that it has. -/
theorem readLine?_lineOf (h : OwnLine entry) (hupper : toUpper entry.1 = entry.1) :
    readLine? (lineOf entry) =
      if entry.1.toList.head? = some '#' then none
      else some (entry.1, String.ofList (unquote (quoted entry.2))) := by
  have filled : (lineOf entry).isEmpty = false := by simp [lineOf]
  have comment : (lineOf entry).head? = some '#' ↔ entry.1.toList.head? = some '#' := by
    rw [lineOf, List.head?_append]
    cases entry.1.toList.head? with
    | none => exact ⟨fun h => absurd (Option.some.inj h : '=' = '#') (by decide), nofun⟩
    | some c => exact Iff.rfl
  have cut : splitOnce? '=' (lineOf entry) = some (entry.1.toList, quoted entry.2) :=
    splitOnce?_append_cons h.key_ends _
  rw [readLine?, trim_lineOf h, filled, stripFront?_export hupper]
  simp only [Bool.false_or, decide_eq_true_eq, comment, Option.getD_none, cut, Option.map_some,
    h.key_trimmed, String.ofList_toList, hupper, trim_quoted]

/-- **An entry with its own line lasts exactly if the line is read as the entry.** The
first of the two conditions that come on top is about the key, which must not make the line
a comment, and the second about the value. -/
theorem readLine?_lineOf_eq_iff (h : OwnLine entry) (hupper : toUpper entry.1 = entry.1) :
    readLine? (lineOf entry) = some entry ↔ Lasts entry := by
  have same : String.ofList (unquote (quoted entry.2)) = entry.2
      ↔ (needsQuotes entry.2 = false → unquote entry.2.toList = entry.2.toList) := by
    rw [← String.toList_inj, String.toList_ofList, unquote_quoted]
    cases needsQuotes entry.2 <;> simp
  rw [readLine?_lineOf h hupper]
  by_cases hcomment : entry.1.toList.head? = some '#'
  · rw [if_pos hcomment]
    exact ⟨nofun, fun hlasts => absurd hcomment hlasts.key_shown⟩
  · rw [if_neg hcomment, Option.some_inj, Prod.ext_iff]
    exact ⟨fun heq => ⟨h, hcomment, same.mp heq.2⟩, fun hlasts => ⟨rfl, same.mpr hlasts.value_bare⟩⟩

/-! ## What is read -/

theorem subset_of_stripQuotes? {quote : Char} {value inner : List Char}
    (h : stripQuotes? quote value = some inner) : inner ⊆ value := by
  obtain ⟨rest, hfront, hlast⟩ := Option.bind_eq_some_iff.mp h
  simp only [stripFront?, Option.ite_none_right_eq_some, Option.some.injEq] at hfront
  simp only [stripLast?, Option.ite_none_right_eq_some, Option.some.injEq] at hlast
  obtain ⟨-, rfl⟩ := hfront
  obtain ⟨-, rfl⟩ := hlast
  exact fun c hc => List.mem_of_mem_drop (List.dropLast_subset _ hc)

/-- To take off quotes leaves nothing that was not there. -/
theorem unquote_subset (value : List Char) : unquote value ⊆ value := by
  intro c hc
  rw [unquote] at hc
  cases hdouble : stripQuotes? '"' value with
  | some inner =>
    rw [hdouble] at hc
    exact subset_of_stripQuotes? hdouble hc
  | none =>
    rw [hdouble] at hc
    cases hsingle : stripQuotes? '\'' value with
    | some inner =>
      rw [hsingle] at hc
      exact subset_of_stripQuotes? hsingle hc
    | none =>
      rw [hsingle] at hc
      exact hc

/-- An assignment is read from what stands before and behind an `=` of the line. -/
theorem exists_of_readLine? {line : List Char} (h : readLine? line = some entry) :
    ∃ key value, key ⊆ line ∧ value ⊆ line ∧ '=' ∉ key
      ∧ entry = (toUpper (String.ofList (trim key)), String.ofList (unquote (trim value))) := by
  rw [readLine?] at h
  split at h
  · cases h
  · obtain ⟨⟨key, value⟩, hcut, rfl⟩ := Option.map_eq_some_iff.mp h
    obtain ⟨hkey, heq⟩ := exists_of_splitOnce? hcut
    have inside : key ++ '=' :: value ⊆ line := by
      rw [← heq, stripFront?]
      split
      · exact fun c hc => trim_subset line (List.mem_of_mem_drop hc)
      · exact trim_subset line
    exact ⟨key, value, fun c hc => inside (List.mem_append_left _ hc),
      fun c hc => inside (List.mem_append_right _ (List.mem_cons_of_mem _ hc)), hkey, rfl⟩

/-- **What is read from a line could be written on a line.** Keys and values are cut out of
the line, trimmed and put into upper case, and none of this brings an end of line or an `=`
into them. For the upper case this takes what is known about capitals. -/
theorem ownLine_of_readLine? {line : List Char} (hline : '\n' ∉ line)
    (h : readLine? line = some entry) : OwnLine entry := by
  obtain ⟨key, value, hkey, hvalue, hends, rfl⟩ := exists_of_readLine? h
  have ends := ends_trim key
  refine ⟨fun hmem => ?_, trim_eq_self (fun c hc => ?_) fun c hc => ?_, fun hmem => ?_,
    fun hmem => ?_⟩
  · rcases mem_toUpper hmem with ⟨hmem, -⟩ | capital
    · rw [String.toList_ofList] at hmem
      exact hline (hkey (trim_subset key hmem))
    · exact absurd capital.visible (by decide)
  · rcases mem_head?_toUpper hc with hc | capital
    · rw [String.toList_ofList] at hc
      exact ends.1 c hc
    · exact capital.visible
  · rcases mem_getLast?_toUpper hc with hc | capital
    · rw [String.toList_ofList] at hc
      exact ends.2 c hc
    · exact capital.visible
  · rcases mem_toUpper hmem with ⟨hmem, -⟩ | capital
    · rw [String.toList_ofList] at hmem
      exact hends (trim_subset key hmem)
    · exact absurd capital.letter (by decide)
  · rw [String.toList_ofList] at hmem
    exact hline (hvalue (trim_subset value (unquote_subset _ hmem)))

/-! ## Environments -/

/-- **An environment**: its entries ascend in the keys, which are upper case. Every
environment that is read, or comes of one by setting and removing, is of this kind, so this
is no condition on the user. -/
structure WellKept (entries : Entries) : Prop where
  /-- Each key is there once, in its place. -/
  ascending : Document.Ascending entries
  /-- The keys are upper case. -/
  upper : ∀ e ∈ entries, toUpper e.1 = e.1

theorem WellKept.nil : WellKept [] := ⟨Document.ascending_nil, nofun⟩

theorem WellKept.insertField (h : WellKept entries) (key value : String) :
    WellKept (Document.insertField (toUpper key) value entries) := by
  refine ⟨h.ascending.insertField _ _, fun e he => ?_⟩
  rcases Document.mem_of_mem_insertField he with rfl | he
  · exact toUpper_toUpper key
  · exact h.upper e he

theorem WellKept.eraseField (h : WellKept entries) (name : String) :
    WellKept (Document.eraseField name entries) :=
  ⟨h.ascending.eraseField name, fun e he => h.upper e (List.mem_filter.mp he).1⟩

/-- What is found in what was read stood on a line. -/
theorem exists_of_mem_read {content : String} (h : entry ∈ read content) :
    ∃ line ∈ lines content.toList, readLine? line = some entry := by
  have hfind := (Document.ascending_ofPairs _).field?_eq_some_iff.mpr h
  exact List.mem_filterMap.mp (Document.mem_of_field?_ofPairs hfind)

theorem wellKept_read (content : String) : WellKept (read content) := by
  refine ⟨Document.ascending_ofPairs _, fun e he => ?_⟩
  obtain ⟨line, -, hread⟩ := exists_of_mem_read he
  obtain ⟨key, value, -, -, -, rfl⟩ := exists_of_readLine? hread
  exact toUpper_toUpper _

/-- The environment is read with one entry for each line that was written. -/
theorem read_write_eq (h : ∀ e ∈ entries, OwnLine e) :
    read (write entries) = Document.ofPairs (entries.filterMap fun e => readLine? (lineOf e)) := by
  rw [read, lines_write h, List.filterMap_map]
  rfl

/-- **An environment whose entries last is read as it was written.** One entry is read from
each line, in the order of the entries, and putting entries in that ascend gives the list
of them. -/
theorem read_write (h : WellKept entries) (hlasts : ∀ e ∈ entries, Lasts e) :
    read (write entries) = entries := by
  have each : ∀ e ∈ entries, readLine? (lineOf e) = some e := fun e he =>
    (readLine?_lineOf_eq_iff (hlasts e he).toOwnLine (h.upper e he)).mpr (hlasts e he)
  rw [read_write_eq fun e he => (hlasts e he).toOwnLine, List.filterMap_congr each,
    List.filterMap_some, Document.ofPairs_of_ascending h.ascending]

/-- **If every entry is found under its key, all of them last.** An entry that is found was
read from some line, so it has a line of its own; since all have, the lines of the file are
those of the entries. The line that says the entry is then the line of an entry with its
key, which is the entry itself. -/
theorem lasts_of_read_write (h : WellKept entries)
    (hread : ∀ e ∈ entries, Document.field? e.1 (read (write entries)) = some e.2) :
    ∀ e ∈ entries, Lasts e := by
  have own : ∀ e ∈ entries, OwnLine e := by
    intro e he
    obtain ⟨line, hline, hentry⟩ := exists_of_mem_read (Document.mem_of_field? (hread e he))
    exact ownLine_of_readLine? (not_mem_of_mem_lines hline) hentry
  intro e he
  have hfind := hread e he
  rw [read_write_eq own] at hfind
  obtain ⟨other, hother, hentry⟩ := List.mem_filterMap.mp (Document.mem_of_field?_ofPairs hfind)
  -- the line is the one of an entry with the same key, and there is only one
  have key : other.1 = e.1 := by
    rw [readLine?_lineOf (own other hother) (h.upper other hother)] at hentry
    split at hentry
    · cases hentry
    · exact (Prod.mk.inj (Option.some.inj hentry)).1
  have value : other.2 = e.2 := Option.some.inj <|
    (h.ascending.field?_eq_some_iff.mpr hother).symm.trans
      (key ▸ h.ascending.field?_eq_some_iff.mpr he)
  obtain rfl : other = e := Prod.ext key value
  exact (readLine?_lineOf_eq_iff (own other he) (h.upper other he)).mp hentry

end CaseRunner.DotEnv
