import CaseRunner.Proofs.Placeholder.TextByText
import Mathlib.Data.List.Forall2

/-!
# How often variables are replaced

The values of variables may hold variables, so all variables of a text are replaced again
and again until none is left. Values may shrink, grow or come together with the text around
them to new placeholders, so there is nothing that gets less from round to round, and only
the number of rounds is limited.

How this goes can be told without the loop (`Placeholder.Ends`): a round is the replacement
of all variables at once (`Replaced`), and the text ends as the first one in which no
variable is left, or at the first name without a value, or nowhere, because the last round
that is allowed has left a variable. Exactly one of these is so, and it is what comes of
the text (`replaceVariables_in_rounds`). The limit is exact: of the chains of variables of
which each holds the next, those resolve that are no longer than the limit.

Where no value has a dollar one round is enough, and the number of variables in a text is
of no account (`replaceVariables_at_once`).

That a text does not resolve is a statement about all limits and not about the one that
there is. For a variable that holds itself it can be shown: a name in braces stays in the
text from round to round, whatever comes about around it.
-/

namespace CaseRunner

/-- The value of a variable is what it is looked up as. -/
theorem Store.value_eq_ok_iff {s : Store} {now : Moment} {name value : String} :
    s.value now name none = .ok value ↔ s.lookup now name none = some value := by
  unfold Store.value
  cases s.lookup now name none <;> simp

namespace Placeholder

/-! ## Rounds -/

/-- **A text holds a variable.** It is about how a variable is written, and not about
whether it has a value. -/
def Holds (s : List Char) : Prop := ∃ name, Refers variableForm s name

section Rounds

variable {values : String → Option String} {s t t' u : List Char} {m n : Nat}

/-- **So many rounds take a text to another**, each replacing all variables at once. There
is no limit here, and no test whether there is anything to be done; a round over a text
without variables leaves it as it is. -/
inductive Rounds (values : String → Option String) : Nat → List Char → List Char → Prop
  | zero {s : List Char} : Rounds values 0 s s
  | succ {n : Nat} {s u t : List Char} (first : Replaced variableForm values s u)
      (further : Rounds values n u t) : Rounds values (n + 1) s t

/-- From one text there is only one way on: a round has one result at most. -/
theorem Rounds.unique (h : Rounds values n s t) (h' : Rounds values n s t') : t = t' := by
  induction h generalizing t' with
  | zero =>
    cases h'
    rfl
  | succ first _ ih =>
    cases h' with
    | succ first' further =>
      obtain rfl := first.unique first'
      exact ih further

/-- Rounds one after the other are as many as both together. There is a text in between. -/
theorem rounds_add_iff :
    Rounds values (m + n) s t ↔ ∃ u, Rounds values m s u ∧ Rounds values n u t := by
  induction m generalizing s with
  | zero =>
    rw [Nat.zero_add]
    refine ⟨fun h => ⟨s, .zero, h⟩, ?_⟩
    rintro ⟨u, h, further⟩
    cases h
    exact further
  | succ m ih =>
    rw [Nat.succ_add]
    constructor
    · intro h
      cases h with
      | succ first further =>
        obtain ⟨u, h, rest⟩ := ih.mp further
        exact ⟨u, .succ first h, rest⟩
    · rintro ⟨u, h, rest⟩
      cases h with
      | succ first further => exact .succ first (ih.mpr ⟨u, further, rest⟩)

/-- Rounds over a text without variables leave it. -/
theorem Rounds.eq_of_not_holds (h : Rounds values n s t) (none : ¬ Holds s) : t = s := by
  induction h with
  | zero => rfl
  | succ first _ ih =>
    have stays : Replaced variableForm values _ _ :=
      replaced_of_not_refers fun name refers => none ⟨name, refers⟩
    obtain rfl := first.unique stays
    exact ih none

/-- **Each of the texts before holds a variable.** So all of the rounds are made, and not
one of them is left out. -/
def Busy (values : String → Option String) (n : Nat) (s : List Char) : Prop :=
  ∀ k < n, ∀ u, Rounds values k s u → Holds u

/-- Where a text that holds a variable is reached, those before hold one as well. -/
theorem Rounds.busy (h : Rounds values n s t) (held : Holds t) : Busy values n s := by
  intro k hk u hu
  by_contra none
  obtain ⟨j, rfl⟩ := Nat.exists_eq_add_of_le (Nat.le_of_lt hk)
  obtain ⟨v, hv, further⟩ := rounds_add_iff.mp h
  obtain rfl := hu.unique hv
  obtain rfl := further.eq_of_not_holds none
  exact none held

end Rounds

/-! ## How the rounds end -/

/-- **What becomes of a text** whose variables are replaced. There are three fates, and
each is a value, so that two fates can be compared. -/
inductive Fate where
  /-- A text in which no variable is left. -/
  | resolved (t : List Char)
  /-- A variable is left after the last round that is allowed. -/
  | expanding
  /-- A name has no value. -/
  | missing (name : String)
  deriving DecidableEq

/-- **How the rounds over a text end**, if so many are allowed. -/
inductive Ends (values : String → Option String) (limit : Nat) (s : List Char) : Fate → Prop
  /-- The first text in which no variable is left is reached. -/
  | resolved {n : Nat} {t : List Char} (le : n ≤ limit) (rounds : Rounds values n s t)
      (none : ¬ Holds t) (busy : Busy values n s) : Ends values limit s (.resolved t)
  /-- All rounds succeed, and none of the texts is without variables. -/
  | expanding (held : ∀ n ≤ limit, ∃ u, Rounds values n s u ∧ Holds u) :
      Ends values limit s .expanding
  /-- A round that is still allowed lacks a value. -/
  | missing {n : Nat} {u : List Char} {name : String} (lt : n < limit)
      (rounds : Rounds values n s u) (lacks : Lacks variableForm values u name) :
      Ends values limit s (.missing name)

/-- **The rounds over a text end** in one of these ways. By induction on the limit. -/
theorem exists_ends (values : String → Option String) (limit : Nat) (s : List Char) :
    ∃ fate, Ends values limit s fate := by
  induction limit with
  | zero =>
    by_cases held : Holds s
    · refine ⟨_, .expanding fun n hn => ⟨s, ?_, held⟩⟩
      rw [Nat.le_zero.mp hn]
      exact .zero
    · exact ⟨_, .resolved le_rfl .zero held fun k hk => absurd hk (Nat.not_lt_zero k)⟩
  | succ limit ih =>
    obtain ⟨fate, ends⟩ := ih
    cases ends with
    | resolved le rounds none busy => exact ⟨_, .resolved (Nat.le_succ_of_le le) rounds none busy⟩
    | missing lt rounds lacks => exact ⟨_, .missing (Nat.lt_succ_of_lt lt) rounds lacks⟩
    | expanding held =>
      -- one more round is allowed, and there is something to be done in it
      obtain ⟨u, rounds, hu⟩ := held limit le_rfl
      rcases exists_replaced_or_lacks variableForm values u with ⟨t, last⟩ | ⟨name, lacks⟩
      · have all : Rounds values (limit + 1) s t :=
          rounds_add_iff.mpr ⟨u, rounds, .succ last .zero⟩
        by_cases ht : Holds t
        · refine ⟨_, .expanding fun n hn => ?_⟩
          rcases Nat.le_succ_iff.mp hn with hn | rfl
          · exact held n hn
          · exact ⟨t, all, ht⟩
        · refine ⟨_, .resolved le_rfl all ht fun k hk v hv => ?_⟩
          obtain ⟨w, hw, hheld⟩ := held k (Nat.le_of_lt_succ hk)
          rwa [hv.unique hw]
      · exact ⟨_, .missing (Nat.lt_succ_self limit) rounds lacks⟩

/-! ## What comes of a text -/

section Loop

variable {values : String → Option String} {f : String → Except RunError String}
  {fault : String → RunError} {place : String} {s t : List Char} {m : Nat}

/-- **Names are looked up** as values, or there is a fault. What the faults are is a
parameter, as they tell of the place of a text. -/
structure LooksUp (f : String → Except RunError String) (values : String → Option String)
    (fault : String → RunError) : Prop where
  /-- What is found is the value. -/
  found : ∀ name value, f name = .ok value ↔ values name = some value
  /-- What is not found is the fault. -/
  missing : ∀ name, values name = none → f name = .error (fault name)

/-- The error of a text in which variables are left. -/
def keptExpanding (place : String) : RunError :=
  .variable (place ++ ": variables kept expanding after " ++ toString roundLimit ++ " rounds")

/-- **What comes of a text** at a place. The place is told in both errors, and so two texts
that fail in the same way fail with different errors. -/
def Fate.result (fault : String → RunError) (place : String) :
    Fate → Except RunError (List Char)
  | .resolved t => .ok t
  | .expanding => .error (keptExpanding place)
  | .missing name => .error (fault name)

section Unfolding

variable {n : Nat}

theorem substituteRounds_of_not_holds (none : ¬ Holds s) :
    substituteRounds f place n s = .ok s := by
  unfold substituteRounds
  rw [if_neg fun held => none (hasPlaceholder_iff.mp held)]

theorem substituteRounds_zero (held : Holds s) :
    substituteRounds f place 0 s = .error (keptExpanding place) := by
  unfold substituteRounds
  rw [if_pos (hasPlaceholder_iff.mpr held), keptExpanding]

theorem substituteRounds_succ (held : Holds s) : substituteRounds f place (n + 1) s
    = substitute variableForm f none 0 s >>= substituteRounds f place n := by
  rw [substituteRounds, if_pos (hasPlaceholder_iff.mpr held)]

end Unfolding

/-- Rounds that are allowed are made, while there is something to be done. -/
theorem substituteRounds_of_rounds (look : LooksUp f values fault) (h : Rounds values m s t)
    (busy : Busy values m s) (n : Nat) :
    substituteRounds f place (m + n) s = substituteRounds f place n t := by
  induction h with
  | zero => rw [Nat.zero_add]
  | @succ m s u t first _ ih =>
    have held : Holds s := busy 0 (Nat.succ_pos m) s .zero
    have rest := ih fun k hk v hv => busy (k + 1) (Nat.succ_lt_succ hk) v (.succ first hv)
    rw [Nat.succ_add, substituteRounds_succ held, (substitute_eq_ok_iff look.found).mpr first]
    exact rest

/-- **What comes of a text is how its rounds end.** On the left is the loop, which counts
rounds downwards and asks before each of them whether a variable is left, also before the
one that is not allowed any more. -/
theorem Ends.substituteRounds_eq (look : LooksUp f values fault) {limit : Nat} {fate : Fate}
    (h : Ends values limit s fate) :
    substituteRounds f place limit s = fate.result fault place := by
  cases h with
  | @resolved n t le rounds none busy =>
    obtain ⟨k, rfl⟩ := Nat.exists_eq_add_of_le le
    rw [substituteRounds_of_rounds look rounds busy, substituteRounds_of_not_holds none]
    rfl
  | expanding held =>
    obtain ⟨u, rounds, hu⟩ := held limit le_rfl
    have all : substituteRounds f place (limit + 0) s = substituteRounds f place 0 u :=
      substituteRounds_of_rounds look rounds (rounds.busy hu) 0
    rw [← Nat.add_zero limit, all, substituteRounds_zero hu]
    rfl
  | @missing n u name lt rounds lacks =>
    obtain ⟨k, rfl⟩ := Nat.exists_eq_add_of_lt lt
    have held : Holds u := ⟨name, lacks.refers⟩
    have failed := lacks.substitute_eq_error look.found (look.missing name lacks.absent)
    rw [Nat.add_assoc, substituteRounds_of_rounds look rounds (rounds.busy held),
      substituteRounds_succ held, failed]
    rfl

/-- **The rounds over a text end in one way**: what comes of it can be computed, and tells
the ways apart if the fault is of another kind than the error of what keeps expanding. -/
theorem Ends.unique {limit : Nat} {fate fate' : Fate} (h : Ends values limit s fate)
    (h' : Ends values limit s fate') : fate = fate' := by
  let find (name : String) : Except RunError String :=
    (values name).elim (.error (.function name)) .ok
  have look : LooksUp find values .function :=
    ⟨fun name value => by cases h : values name <;> simp [find, h],
      fun name absent => by simp [find, absent]⟩
  have same : fate.result .function "" = fate'.result .function "" :=
    (h.substituteRounds_eq look).symm.trans (h'.substituteRounds_eq look)
  cases fate <;> cases fate' <;> cases same <;> rfl

end Loop

/-! ## Chains -/

section Chains

variable {values : String → Option String} {s t name : List Char} {n limit : Nat}

/-- **A name in braces.** -/
def braced (name : List Char) : List Char := '$' :: '{' :: (name ++ ['}'])

/-- **A name that may stand in braces.** -/
structure Bracing (name : List Char) : Prop where
  /-- There is something in it. -/
  ne_nil : name ≠ []
  /-- It is made of word characters. -/
  word : ∀ c ∈ name, Text.isWordChar c = true

theorem Bracing.begins (h : Bracing name) (before : Option Char) (rest : List Char) :
    Begins variableForm before (braced name) name rest :=
  .braced h.ne_nil h.word

/-- A name in braces alone has one part. -/
theorem Bracing.hasParts (h : Bracing name) :
    HasParts variableForm none (braced name) [.mention (String.ofList name)] := by
  rw [← List.append_nil (braced name)]
  exact .mention (h.begins none []) .nil

/-- **A chain of variables**: the text is a name in braces, whose value is another one, and
so on; the last value is plain. Every link takes one round, as the next name comes about
only when the last one has been replaced. -/
inductive Chain (values : String → Option String) : Nat → List Char → List Char → Prop
  | plain {t : List Char} (none : ¬ Holds t) : Chain values 0 t t
  | link {n : Nat} {name t : List Char} {value : String} (hname : Bracing name)
      (found : values (String.ofList name) = some value)
      (next : Chain values n value.toList t) : Chain values (n + 1) (braced name) t

/-- A chain is followed link by link. -/
theorem Chain.follows (h : Chain values n s t) :
    Rounds values n s t ∧ ¬ Holds t ∧ Busy values n s := by
  induction h with
  | plain none => exact ⟨.zero, none, fun k hk => absurd hk (Nat.not_lt_zero k)⟩
  | @link n name t value hname found next ih =>
    obtain ⟨rounds, none, busy⟩ := ih
    have first : Replaced variableForm values (braced name) value.toList := by
      have fills : Fills values [.mention (String.ofList name)] (value.toList ++ []) :=
        .mention found .nil
      rw [List.append_nil] at fills
      exact ⟨_, hname.hasParts, fills⟩
    refine ⟨.succ first rounds, none, fun k hk u hu => ?_⟩
    cases hu with
    | zero => exact ⟨_, _, hname.hasParts, List.mem_singleton_self _⟩
    | succ first' further =>
      obtain rfl := first'.unique first
      exact busy _ (Nat.lt_of_succ_lt_succ hk) _ further

/-- **A chain resolves if there may be as many rounds as it has links.** If it is longer, a
variable is left after the last round. -/
theorem Chain.ends (h : Chain values n s t) (limit : Nat) :
    Ends values limit s (if n ≤ limit then .resolved t else .expanding) := by
  obtain ⟨rounds, none, busy⟩ := h.follows
  split
  next le => exact .resolved le rounds none busy
  next lt =>
    refine .expanding fun k hk => ?_
    obtain ⟨j, rfl⟩ := Nat.exists_eq_add_of_le (Nat.le_trans hk (Nat.le_of_not_le lt))
    obtain ⟨u, hu, -⟩ := rounds_add_iff.mp rounds
    exact ⟨u, hu, busy k (by omega) u hu⟩

end Chains

/-! ## Values that hold themselves -/

section Growing

variable {values : String → Option String} {form : Form} {before : Option Char}
  {s t written name rest : List Char} {parts : List Part}

/-- The sign of a variable stands in front of it and nowhere else. -/
theorem Begins.exists_tail (h : Begins variableForm before written name rest) :
    ∃ tail, written = '$' :: tail ∧ '$' ∉ tail := by
  have plain {cs : List Char} (word : ∀ c ∈ cs, Text.isWordChar c = true) : '$' ∉ cs :=
    fun hmem => absurd (word _ hmem) (by decide)
  cases h with
  | braced _ word => exact ⟨_, rfl, by simpa using plain word⟩
  | bare start word =>
    refine ⟨_, rfl, ?_⟩
    rintro (_ | ⟨_, hmem⟩)
    · cases start
    · exact plain word hmem

/-- **A name in braces is a part of the text wherever it stands**: no other variable can
reach over its sign. This is where bare names differ, which may be joined with what stands
behind them. -/
theorem Bracing.mem_parts (hname : Bracing name) (h : HasParts variableForm before s parts)
    (front behind : List Char) (hs : s = front ++ braced name ++ behind) :
    .mention (String.ofList name) ∈ parts := by
  induction h generalizing front with
  | nil => simp [braced] at hs
  | @mention before written other rest parts here _ ih =>
    cases front with
    | nil =>
      obtain ⟨-, rfl, -⟩ := here.unique (hname.begins before behind) hs
      exact List.mem_cons_self
    | cons c front =>
      obtain ⟨tail, rfl, plain⟩ := here.exists_tail
      rw [List.append_assoc] at hs
      rcases List.append_eq_append_iff.mp hs with ⟨part, hfront, hrest⟩ | ⟨part, htail, hbraced⟩
      · refine List.mem_cons_of_mem _ (ih part ?_)
        rw [hrest, List.append_assoc]
      · -- the sign of the name would be one of the other variable
        cases part with
        | nil => exact List.mem_cons_of_mem _ (ih [] (by simpa using hbraced.symm))
        | cons d part =>
          obtain ⟨rfl, -⟩ := List.cons.inj hbraced
          obtain ⟨-, rfl⟩ := List.cons.inj htail
          exact absurd (List.mem_append_right front List.mem_cons_self) plain
  | @plain before c rest parts none _ ih =>
    cases front with
    | nil => exact absurd (hname.begins before behind) (none _ _ _ hs)
    | cons d front =>
      cases hs
      exact List.mem_cons_of_mem _ (ih front rfl)

/-- **A value that holds its own name** brings it in again. -/
theorem Replaced.refers_again (h : Replaced variableForm values s t) (hname : Bracing name)
    {value : String} (found : values (String.ofList name) = some value)
    {front behind : List Char} (own : value.toList = front ++ braced name ++ behind)
    (refers : Refers variableForm s (String.ofList name)) :
    Refers variableForm t (String.ofList name) := by
  obtain ⟨parts, hparts, fills⟩ := h
  obtain ⟨parts', hparts', mem⟩ := refers
  obtain rfl := hparts.unique hparts'
  obtain ⟨a, b, rfl⟩ := fills.exists_of_mem mem found
  obtain ⟨new, hnew, -⟩ := existsUnique_hasParts variableForm none (a ++ value.toList ++ b)
  refine ⟨new, hnew, hname.mem_parts hnew (a ++ front) (behind ++ b) ?_⟩
  simp [own]

/-- **A text that refers to such a name does not resolve**, however many rounds there are.
It either keeps expanding or comes to a name without a value. -/
theorem Bracing.not_resolved (hname : Bracing name) {value : String}
    (found : values (String.ofList name) = some value) {front behind : List Char}
    (own : value.toList = front ++ braced name ++ behind)
    (refers : Refers variableForm s (String.ofList name)) (limit : Nat) :
    ¬ Ends values limit s (.resolved t) := by
  rintro (⟨-, rounds, none, -⟩)
  have stays {n : Nat} {s u : List Char} (rounds : Rounds values n s u)
      (refers : Refers variableForm s (String.ofList name)) :
      Refers variableForm u (String.ofList name) := by
    induction rounds with
    | zero => exact refers
    | succ first _ ih => exact ih (first.refers_again hname found own refers)
  exact none ⟨_, stays rounds refers⟩

end Growing

/-! ## Plain values -/

section Plainly

variable {values : String → Option String} {before : Option Char} {s t : List Char}
  {parts : List Part}

/-- **Every dollar of a text begins a variable** that has a value without dollars. Dollars
that begin nothing are excluded, for they could begin something together with a value. -/
def Plainly (values : String → Option String) (before : Option Char) (s : List Char) : Prop :=
  ∀ front rest, s = front ++ '$' :: rest → ∃ written name behind value,
    '$' :: rest = written ++ behind
      ∧ Begins variableForm (front.getLast?.or before) written name behind
      ∧ values (String.ofList name) = some value ∧ '$' ∉ value.toList

/-- A text is plain if its first character is no dollar, or one that begins a variable with
a plain value, and the rest is plain. So it can be checked along the text. -/
theorem plainly_cons_iff {c : Char} :
    Plainly values before (c :: s) ↔ (c = '$' → ∃ written name behind value,
      c :: s = written ++ behind ∧ Begins variableForm before written name behind
        ∧ values (String.ofList name) = some value ∧ '$' ∉ value.toList)
      ∧ Plainly values (some c) s := by
  refine ⟨fun h => ⟨?_, ?_⟩, fun ⟨here, further⟩ => ?_⟩
  · rintro rfl
    exact h [] s rfl
  · rintro front rest rfl
    obtain ⟨written, name, behind, value, hs, begins, found⟩ := h (c :: front) rest rfl
    rw [getLast?_cons_or] at begins
    exact ⟨written, name, behind, value, hs, begins, found⟩
  · rintro (_ | ⟨d, front⟩) rest hs
    · cases hs
      exact here rfl
    · cases hs
      rw [getLast?_cons_or]
      exact further front rest rfl

theorem Plainly.of_append {cs : List Char} (h : Plainly values before (cs ++ s)) :
    Plainly values (cs.getLast?.or before) s := by
  induction cs generalizing before with
  | nil => exact h
  | cons c cs ih =>
    rw [getLast?_cons_or]
    exact ih (plainly_cons_iff.mp h).2

/-- All of it can be replaced, and no dollar is left. -/
theorem Plainly.exists_fills (h : Plainly values before s)
    (hparts : HasParts variableForm before s parts) :
    ∃ out, Fills values parts out ∧ '$' ∉ out := by
  induction hparts with
  | nil => exact ⟨[], .nil, List.not_mem_nil⟩
  | @mention before written name rest parts here _ ih =>
    obtain ⟨tail, rfl, -⟩ := here.exists_tail
    obtain ⟨out, fills, plain⟩ := ih (by simpa [List.getLast?_cons] using h.of_append)
    obtain ⟨written', name', behind, value, hs, begins, found, hvalue⟩ := h [] (tail ++ rest) rfl
    obtain ⟨-, rfl, -⟩ := here.unique begins hs
    exact ⟨_, .mention found fills, by simp [hvalue, plain]⟩
  | @plain before c rest parts none _ ih =>
    obtain ⟨out, fills, plain⟩ := ih (plainly_cons_iff.mp h).2
    refine ⟨_, .plain fills, ?_⟩
    rintro (_ | ⟨_, hmem⟩)
    · obtain ⟨written, name, behind, -, hs, begins, -⟩ := h [] rest rfl
      exact none _ _ _ hs begins
    · exact plain hmem

theorem HasParts.dollar_mem (h : HasParts variableForm before s parts) {name : String}
    (mem : .mention name ∈ parts) : '$' ∈ s := by
  induction h with
  | nil => cases mem
  | mention here =>
    obtain ⟨tail, rfl, -⟩ := here.exists_tail
    exact List.mem_cons_self
  | plain _ _ ih => exact List.mem_cons_of_mem _ (ih ((List.mem_cons.mp mem).resolve_left nofun))

/-- Where there is no dollar, there is no variable. -/
theorem not_holds_of_not_mem (h : '$' ∉ s) : ¬ Holds s := by
  rintro ⟨name, parts, hparts, mem⟩
  exact h (hparts.dollar_mem mem)

/-- **One round is enough.** After it there is no dollar left, and without dollars there
are no variables. -/
theorem Plainly.exists_ends (h : Plainly values none s) {limit : Nat} (some : 0 < limit) :
    ∃ t, Replaced variableForm values s t ∧ Ends values limit s (.resolved t) := by
  obtain ⟨parts, hparts, -⟩ := existsUnique_hasParts variableForm none s
  obtain ⟨t, fills, plain⟩ := h.exists_fills hparts
  have replaced : Replaced variableForm values s t := ⟨parts, hparts, fills⟩
  refine ⟨t, replaced, ?_⟩
  by_cases held : Holds s
  · refine .resolved some (.succ replaced .zero) (not_holds_of_not_mem plain) fun k hk u hu => ?_
    obtain rfl := Nat.lt_one_iff.mp hk
    cases hu
    exact held
  · have stays : Replaced variableForm values s s :=
      replaced_of_not_refers fun name refers => held ⟨name, refers⟩
    obtain rfl := replaced.unique stays
    exact .resolved (Nat.zero_le limit) .zero held fun k hk => absurd hk (Nat.not_lt_zero k)

end Plainly

/-! ## Documents -/

section Documents

open Document

variable (store : Store) (now : Moment) (location : String)

/-- The error of a variable without a value. -/
def missingVariable (place name : String) : RunError :=
  .variable (place ++ ": variable '" ++ name ++ "' not found in cache, env or global scope")

/-- Variables are looked up in the store, and the errors tell the place of the text. -/
theorem looksUp_value (place : String) :
    LooksUp (fun name => (store.value now name none).mapError (variableError place))
      (fun name => store.lookup now name none) (missingVariable place) where
  found name value := mapError_eq_ok_iff.trans Store.value_eq_ok_iff
  missing name absent := by
    have text : ": variable '" = ": " ++ "variable '" := rfl
    have scopes : "' not found in cache, env or global scope"
        = "' not found in " ++ "cache, env or global scope" := rfl
    unfold Store.value missingVariable
    rw [absent, text, scopes]
    simp only [Except.mapError, variableError, String.append_assoc]

/-- What comes of a document that holds a text at a place and nothing else. -/
def Fate.answer (location : String) (place : Place) : Fate → Except RunError Document
  | .resolved t => .ok («at» place (.text (String.ofList t)))
  | .expanding => .error (keptExpanding (place.render location))
  | .missing name => .error (missingVariable (place.render location) name)

variable {store now location}

/-- **What comes of a text at a place is how its rounds end**, where the values are those
that the store gives at that moment. -/
theorem Ends.substituteVariables_eq {place s : String} {fate : Fate}
    (h : Ends (fun name => store.lookup now name none) roundLimit s.toList fate) :
    substituteVariables store now place s
      = (fate.result (missingVariable place) place).map String.ofList := by
  have rounds : substituteRounds _ place roundLimit s.toList = _ :=
    h.substituteRounds_eq (looksUp_value store now place)
  unfold substituteVariables
  dsimp only
  rw [rounds]
  cases fate <;> rfl

/-- A text alone at a place becomes what its rounds end with. -/
theorem Ends.replaceVariables_eq {place : Place} {s : String} {fate : Fate}
    (h : Ends (fun name => store.lookup now name none) roundLimit s.toList fate) :
    replaceVariables store now location («at» place (.text s)) = fate.answer location place := by
  rw [Placeholder.replaceVariables_eq]
  refine (alone_replaceTexts place s).trans ?_
  rw [h.substituteVariables_eq]
  cases fate <;> rfl

/-- What is at a place is known from the document that holds nothing else. -/
theorem at_injective (place : Place) : Function.Injective («at» place) := by
  intro d e h
  induction place generalizing d e with
  | nil => exact h
  | cons segment outer ih =>
    cases segment with
    | key name => simpa using ih h
    | index i => simpa using ih h

/-- **Different fates have different answers.** So from what comes of a text one can tell
how its rounds have ended. -/
theorem Fate.answer_injective (location : String) (place : Place) :
    Function.Injective (Fate.answer location place) := by
  have differ (name : String) :
      keptExpanding (place.render location) ≠ missingVariable (place.render location) name := by
    have kept : ": variables kept expanding after " = ": variable" ++ "s kept expanding after " :=
      rfl
    have missing : ": variable '" = ": variable" ++ " '" := rfl
    unfold keptExpanding missingVariable
    rw [kept, missing]
    intro h
    have h := congrArg String.toList (RunError.variable.inj h)
    simp at h
  intro fate fate' h
  cases fate <;> cases fate'
  case resolved.resolved t t' =>
    have h := at_injective place (Except.ok.inj h)
    rw [Document.text.injEq, String.ofList_inj] at h
    rw [h]
  case missing.missing name name' =>
    have h := RunError.variable.inj (Except.error.inj h)
    simp only [String.append_left_inj, String.append_right_inj] at h
    rw [h]
  case expanding.expanding => rfl
  case expanding.missing => exact absurd (Except.error.inj h) (differ _)
  case missing.expanding => exact absurd (Except.error.inj h).symm (differ _)
  all_goals cases h

/-- **What comes of a text alone is how its rounds end**, and nothing else. There is an
ending for every text, and only one. -/
theorem replaceVariables_eq_answer_iff {place : Place} {s : String} {fate : Fate} :
    replaceVariables store now location («at» place (.text s)) = fate.answer location place
      ↔ Ends (fun name => store.lookup now name none) roundLimit s.toList fate := by
  refine ⟨fun h => ?_, fun h => h.replaceVariables_eq⟩
  obtain ⟨fate', ends⟩ := exists_ends (fun name => store.lookup now name none) roundLimit s.toList
  rw [ends.replaceVariables_eq] at h
  exact Fate.answer_injective location place h ▸ ends

/-- A text at a place is replaced by another if its rounds end with this one. -/
theorem substituteVariables_eq_ok_iff {place s t : String} :
    substituteVariables store now place s = .ok t
      ↔ Ends (fun name => store.lookup now name none) roundLimit s.toList (.resolved t.toList) := by
  constructor
  · intro h
    obtain ⟨fate, ends⟩ := exists_ends (fun name => store.lookup now name none) roundLimit s.toList
    rw [ends.substituteVariables_eq] at h
    cases fate with
    | resolved u =>
      obtain rfl : String.ofList u = t := Except.ok.inj h
      rwa [String.toList_ofList]
    | expanding | missing name => cases h
  · intro h
    rw [h.substituteVariables_eq]
    exact congrArg Except.ok String.ofList_toList

/-- **A document becomes what the rounds of its texts end with**, text by text. -/
theorem replaceVariables_eq_ok_iff {d e : Document} :
    replaceVariables store now location d = .ok e ↔ SameShape d e ∧ List.Forall₂
      (fun v w => w.1 = v.1 ∧ Ends (fun name => store.lookup now name none) roundLimit
        v.2.toList (.resolved w.2.toList)) (texts [] d) (texts [] e) := by
  rw [replaceVariables_eq]
  refine (replaceTexts_eq_ok_iff_texts [] d e).trans (and_congr_right fun _ => ?_)
  unfold Becomes
  simp only [substituteVariables_eq_ok_iff]

/-- A document becomes something if each of its texts does. -/
theorem exists_replaceVariables_iff {d : Document} :
    (∃ e, replaceVariables store now location d = .ok e) ↔ ∀ v ∈ texts [] d,
      ∃ t, Ends (fun name => store.lookup now name none) roundLimit v.2.toList (.resolved t) := by
  simp only [replaceVariables_eq]
  refine (goes_replaceTexts [] d).isOk_iff.trans (forall₂_congr fun v _ => ⟨?_, ?_⟩)
  · rintro ⟨t, h⟩
    exact ⟨_, substituteVariables_eq_ok_iff.mp h⟩
  · rintro ⟨t, ends⟩
    refine ⟨String.ofList t, substituteVariables_eq_ok_iff.mpr ?_⟩
    rwa [String.toList_ofList]

end Documents

section Results

open Document

/-- **How variables are replaced, round by round.** The rounds over a text end in one way,
and what comes of the text, alone at its place, is that it resolves, that variables are
left after the last round, or that a name has no value, exactly as its rounds end. A
document becomes another exactly if each of its texts resolves to that of the other. A
chain resolves exactly if it is no longer than the limit. A text that refers to a variable
whose value holds its own name fails. -/
theorem replaceVariables_in_rounds (store : Store) (now : Moment) (location : String) :
    let values := fun name => store.lookup now name none
    let alone := fun (place : Place) (s : String) =>
      replaceVariables store now location («at» place (.text s))
    (∀ s : String, ∃! fate, Ends values roundLimit s.toList fate)
      ∧ (∀ place (s : String) fate,
        alone place s = fate.answer location place ↔ Ends values roundLimit s.toList fate)
      ∧ (∀ d e, replaceVariables store now location d = .ok e ↔ SameShape d e ∧ List.Forall₂
        (fun v w => w.1 = v.1 ∧ Ends values roundLimit v.2.toList (.resolved w.2.toList))
        (texts [] d) (texts [] e))
      ∧ (∀ place n (s t : String), Chain values n s.toList t.toList →
        (alone place s = .ok («at» place (.text t)) ↔ n ≤ roundLimit)
          ∧ ((∃ d, alone place s = .ok d) ↔ n ≤ roundLimit))
      ∧ ∀ place name value front behind (s : String), Bracing name →
        values (String.ofList name) = some value → value.toList = front ++ braced name ++ behind →
          Refers variableForm s.toList (String.ofList name) → ∃ e, alone place s = .error e := by
  intro values alone
  refine ⟨fun s => existsUnique_of_exists_of_unique (exists_ends values roundLimit s.toList)
      fun fate fate' => Ends.unique,
    fun place s fate => replaceVariables_eq_answer_iff,
    fun d e => replaceVariables_eq_ok_iff, fun place n s t chain => ?_,
    fun place name value front behind s hname found own refers => ?_⟩
  · have answer : alone place s = Fate.answer location place _ :=
      (chain.ends roundLimit).replaceVariables_eq
    split at answer
    next le =>
      have done : alone place s = .ok («at» place (.text t)) := by
        rwa [Fate.answer, String.ofList_toList] at answer
      exact ⟨iff_of_true done le, iff_of_true ⟨_, done⟩ le⟩
    next lt =>
      have failed : alone place s = .error (keptExpanding (place.render location)) := answer
      refine ⟨iff_of_false (fun h => ?_) lt, iff_of_false (fun ⟨d, h⟩ => ?_) lt⟩
      · rw [failed] at h
        cases h
      · rw [failed] at h
        cases h
  · obtain ⟨fate, ends⟩ := exists_ends values roundLimit s.toList
    have answer : alone place s = fate.answer location place := ends.replaceVariables_eq
    cases fate with
    | resolved t => exact absurd ends (hname.not_resolved found own refers roundLimit)
    | expanding => exact ⟨_, answer⟩
    | missing name => exact ⟨_, answer⟩

/-- A chain of two variables, and a variable that holds itself. -/
theorem replaceVariables_in_rounds_of_chain :
    let store : Store := { cache := ⟨[("a", ⟨"$\x7bb\x7d", none⟩), ("b", ⟨"1", none⟩),
      ("x", ⟨"-$\x7bx\x7d", none⟩)]⟩ }
    let values := fun name => store.lookup 0 name none
    Chain values 2 "$\x7ba\x7d".toList "1".toList
      ∧ replaceVariables store 0 "t" (.text "$\x7ba\x7d") = .ok (.text "1")
      ∧ Refers variableForm "$x".toList "x"
      ∧ ∃ e, replaceVariables store 0 "t" (.text "$x") = .error e := by
  intro store values
  have name {c : Char} (h : Text.isWordChar c = true) : Bracing [c] :=
    ⟨nofun, by simpa using h⟩
  have last : ¬ Holds "1".toList := not_holds_of_not_mem (by decide)
  have chain : Chain values 2 "$\x7ba\x7d".toList "1".toList :=
    .link (name (c := 'a') (by decide)) rfl (.link (name (c := 'b') (by decide)) rfl (.plain last))
  have begins : Begins variableForm none ['$', 'x'] ['x'] [] :=
    .bare (by decide) nofun nofun fun _ => by simp [Gap]
  have refers : Refers variableForm "$x".toList "x" :=
    ⟨_, .mention begins .nil, List.mem_singleton_self _⟩
  obtain ⟨-, -, -, resolves, fails⟩ := replaceVariables_in_rounds store 0 "t"
  exact ⟨chain, (resolves [] 2 _ "1" chain).1.mpr (by decide), refers,
    fails [] ['x'] "-$\x7bx\x7d" ['-'] [] "$x" (name (by decide)) rfl rfl refers⟩

/-- **Plain variables are replaced at once**, all that there are. If every dollar of a text
begins a variable with a value without dollars, then the text, alone at its place, becomes
the one with all of them replaced; and if this is so for all texts of a document, then it
becomes the document of the same shape with all of them replaced in every text.

How many variables there are does not count against the limit, however many stand side by
side. What is limited is how often the text is gone through. -/
theorem replaceVariables_at_once (store : Store) (now : Moment) (location : String) :
    let values := fun name => store.lookup now name none
    (∀ place (s : String), Plainly values none s.toList →
        ∃ t : String, Replaced variableForm values s.toList t.toList
          ∧ replaceVariables store now location («at» place (.text s))
            = .ok («at» place (.text t)))
      ∧ ∀ d, (∀ v ∈ texts [] d, Plainly values none v.2.toList) →
        ∃ e, replaceVariables store now location d = .ok e ∧ SameShape d e
          ∧ List.Forall₂ (fun v w => w.1 = v.1 ∧ Replaced variableForm values v.2.toList w.2.toList)
            (texts [] d) (texts [] e) := by
  intro values
  have once : 0 < roundLimit := by decide
  refine ⟨fun place s plainly => ?_, fun d plainly => ?_⟩
  · obtain ⟨t, replaced, ends⟩ := plainly.exists_ends once
    refine ⟨String.ofList t, by rwa [String.toList_ofList], ends.replaceVariables_eq⟩
  · obtain ⟨e, he⟩ : ∃ e, replaceVariables store now location d = .ok e := by
      refine exists_replaceVariables_iff.mpr fun v hv => ?_
      obtain ⟨t, -, ends⟩ := (plainly v hv).exists_ends once
      exact ⟨t, ends⟩
    obtain ⟨shape, all⟩ := replaceVariables_eq_ok_iff.mp he
    refine ⟨e, he, shape, ?_⟩
    have each := (List.forall₂_and_left _ _).mpr ⟨plainly, all⟩
    refine each.imp fun v w ⟨plain, same, resolves⟩ => ?_
    obtain ⟨t, replaced, ends⟩ := plain.exists_ends once
    cases resolves.unique ends
    exact ⟨same, replaced⟩

/-- A variable in braces and a bare one behind a blank. -/
theorem replaceVariables_at_once_of_two :
    let store : Store := { cache := ⟨[("a", ⟨"1", none⟩), ("b", ⟨"", none⟩)]⟩ }
    Plainly (fun name => store.lookup 0 name none) none "$\x7ba\x7d $b".toList
      ∧ replaceVariables store 0 "t" (.text "$\x7ba\x7d $b") = .ok (.text "1 ") := by
  intro store
  have plainly : Plainly (fun name => store.lookup 0 name none) none "$\x7ba\x7d $b".toList := by
    change Plainly _ none ['$', '{', 'a', '}', ' ', '$', 'b']
    have done : Plainly (fun name => store.lookup 0 name none) (some 'b') [] := by simp [Plainly]
    refine plainly_cons_iff.mpr ⟨fun _ => ⟨braced ['a'], ['a'], [' ', '$', 'b'], "1", rfl,
      .braced nofun (List.forall_mem_singleton.mpr (by decide)), rfl, by decide⟩, ?_⟩
    iterate 4 refine plainly_cons_iff.mpr ⟨fun h => absurd h (by decide), ?_⟩
    refine plainly_cons_iff.mpr ⟨fun _ => ⟨['$', 'b'], ['b'], [], "", rfl,
      .bare (by decide) nofun nofun fun _ => ?_, rfl, by decide⟩, ?_⟩
    · exact ⟨by simp [Gap, Text.isBlank], by simp [Gap]⟩
    · exact plainly_cons_iff.mpr ⟨fun h => absurd h (by decide), done⟩
  obtain ⟨t, replaced, done⟩ := (replaceVariables_at_once store 0 "t").1 [] _ plainly
  refine ⟨plainly, ?_⟩
  have once : Replaced variableForm (fun name => store.lookup 0 name none)
      "$\x7ba\x7d $b".toList "1 ".toList :=
    (substitute_eq_ok_iff (f := fun name => store.value 0 name none)
      fun _ _ => Store.value_eq_ok_iff).mp rfl
  rwa [String.toList_inj.mp (replaced.unique once)] at done

end Results

end Placeholder

end CaseRunner
