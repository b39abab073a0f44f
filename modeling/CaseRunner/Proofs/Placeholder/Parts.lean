import CaseRunner.Proofs.Computation
import CaseRunner.Proofs.Placeholder.Finding

/-!
# A text with all its placeholders replaced at once

Placeholders are replaced while a text is walked through character by character, with a
count of those that belong to a placeholder already replaced and the last character in
mind. What this comes to can be said without any walking, for each form of placeholders:
the text has parts, placeholders and characters between them (`Placeholder.HasParts`), in
exactly one way (`existsUnique_hasParts`), and what it becomes is put together from its
parts, the characters as they are and the others as values (`Fills`). If a name has no
value, the error is that of the first such name (`LacksFirst`).

The values put in are not looked at. So a text is related by `Replaced` to the one in which
all its placeholders, and only those, have been replaced at once.

All further statements about placeholders in texts go back to these relations. They have no
counts and no positions in them, and induction on the parts of a text goes from left to
right through both the old text and the new one.
-/

namespace CaseRunner.Placeholder

/-! ## Parts -/

/-- A part of a text. -/
inductive Part where
  /-- A character that belongs to no mention. -/
  | plain (c : Char)
  /-- A mention of a name. -/
  | mention (name : String)
  deriving DecidableEq, Repr

/-- **What becomes of the parts of a text** whose names have values: a plain
character stays, and a mention becomes the value. -/
inductive Fills (values : String → Option String) : List Part → List Char → Prop
  | nil : Fills values [] []
  | plain {c : Char} {parts : List Part} {out : List Char} (further : Fills values parts out) :
      Fills values (.plain c :: parts) (c :: out)
  | mention {name value : String} {parts : List Part} {out : List Char}
      (found : values name = some value) (further : Fills values parts out) :
      Fills values (.mention name :: parts) (value.toList ++ out)

/-- **A text has parts**, from left to right, behind a character or nothing.

A character is plain only if no placeholder begins there. Without this condition a text
would have parts in many ways, and a text with placeholders could be said to have none. -/
inductive HasParts (form : Form) : Option Char → List Char → List Part → Prop
  | nil {before : Option Char} : HasParts form before [] []
  | mention {before : Option Char} {written name rest : List Char} {parts : List Part}
      (here : Begins form before written name rest)
      (further : HasParts form written.getLast? rest parts) :
      HasParts form before (written ++ rest) (.mention (String.ofList name) :: parts)
  | plain {before : Option Char} {c : Char} {rest : List Char} {parts : List Part}
      (none : ∀ written name after, c :: rest = written ++ after →
        ¬ Begins form before written name after)
      (further : HasParts form (some c) rest parts) :
      HasParts form before (c :: rest) (.plain c :: parts)

section Unique

variable {form : Form} {before : Option Char} {s : List Char}

/-- **A text has its parts in one way.** By induction on how long the text is. What it
begins with decides on the first part, and behind this there is less text. -/
theorem existsUnique_hasParts (form : Form) (before : Option Char) (s : List Char) :
    ∃! parts, HasParts form before s parts := by
  induction h : s.length using Nat.strong_induction_on generalizing before s with
  | _ n ih =>
    subst h
    -- what the text begins with decides on the first part
    by_cases here : ∃ written name rest, s = written ++ rest ∧ Begins form before written name rest
    · obtain ⟨written, name, rest, rfl, here⟩ := here
      obtain ⟨tail, sigil⟩ := here.sigil
      have shorter : rest.length < (written ++ rest).length := by
        simp only [sigil, List.cons_append, List.length_cons, List.length_append]
        omega
      obtain ⟨parts, further, unique⟩ := ih _ shorter written.getLast? rest rfl
      refine ⟨_, .mention here further, fun parts' h' => ?_⟩
      generalize hs : written ++ rest = s at h'
      cases h' with
      | nil => simp [sigil] at hs
      | mention here' further' =>
        obtain ⟨rfl, rfl, rfl⟩ := here.unique here' hs
        rw [unique _ further']
      | plain none further' => exact absurd here (none _ _ _ hs.symm)
    · have none : ∀ written name rest, s = written ++ rest →
          ¬ Begins form before written name rest := fun written name rest hs h =>
        here ⟨written, name, rest, hs, h⟩
      cases s with
      | nil =>
        refine ⟨[], .nil, fun parts' h' => ?_⟩
        generalize hs : ([] : List Char) = s at h' none
        cases h' with
        | nil => rfl
        | mention here' => exact absurd here' (none _ _ _ rfl)
        | plain => cases hs
      | cons c rest =>
        obtain ⟨parts, further, unique⟩ := ih _ (Nat.lt_succ_self _) (some c) rest rfl
        refine ⟨_, .plain none further, fun parts' h' => ?_⟩
        generalize hs : c :: rest = s at h' none
        cases h' with
        | nil => cases hs
        | mention here' => exact absurd here' (none _ _ _ rfl)
        | plain none' further' =>
          cases hs
          rw [unique _ further']

theorem HasParts.unique {parts parts' : List Part} (h : HasParts form before s parts)
    (h' : HasParts form before s parts') : parts = parts' :=
  (existsUnique_hasParts form before s).unique h h'

end Unique

/-! ## Walking through a text -/

section Walking

variable {form : Form} {f : String → Except RunError String} {before : Option Char}
  {c : Char} {written name rest : List Char}

/-- The last character behind some is theirs, or the one before if there are none. -/
theorem getLast?_cons_or (c : Char) (cs : List Char) (before : Option Char) :
    (c :: cs).getLast?.or before = cs.getLast?.or (some c) := by
  rw [List.getLast?_cons]
  cases cs.getLast? <;> rfl

/-- The characters of a placeholder that has been replaced are passed over. -/
theorem substitute_skip (before : Option Char) (passed rest : List Char) :
    substitute form f before passed.length (passed ++ rest)
      = substitute form f (passed.getLast?.or before) 0 rest := by
  induction passed generalizing before with
  | nil => rfl
  | cons c passed ih =>
    rw [List.length_cons, List.cons_append, substitute, ih,
      getLast?_cons_or]

theorem names_skip (before : Option Char) (passed rest : List Char) :
    names form before passed.length (passed ++ rest)
      = names form (passed.getLast?.or before) 0 rest := by
  induction passed generalizing before with
  | nil => rfl
  | cons c passed ih =>
    rw [List.length_cons, List.cons_append, names, ih, getLast?_cons_or]

/-- **A placeholder is replaced where it begins**, and the text goes on behind it. What
follows is told the last character of what was written, and not of the value. -/
theorem substitute_begins (h : Begins form before written name rest) :
    substitute form f before 0 (written ++ rest) = do
      let value ← f (String.ofList name)
      return value.toList ++ (← substitute form f written.getLast? 0 rest) := by
  obtain ⟨tail, rfl⟩ := h.sigil
  have found := h.placeholderAt?
  rw [List.cons_append] at found ⊢
  rw [substitute, found]
  dsimp only
  rw [List.length_cons, Nat.add_sub_cancel, substitute_skip]
  cases tail <;> rfl

/-- In the same way its name is one of the names. -/
theorem names_begins (h : Begins form before written name rest) :
    names form before 0 (written ++ rest)
      = String.ofList name :: names form written.getLast? 0 rest := by
  obtain ⟨tail, rfl⟩ := h.sigil
  have found := h.placeholderAt?
  rw [List.cons_append] at found ⊢
  rw [names, found]
  dsimp only
  rw [List.length_cons, Nat.add_sub_cancel, names_skip]
  cases tail <;> rfl

variable (none : ∀ written name after, c :: rest = written ++ after →
  ¬ Begins form before written name after)

include none

theorem substitute_plain : substitute form f before 0 (c :: rest) = do
    return c :: (← substitute form f (some c) 0 rest) := by
  rw [substitute, placeholderAt?_eq_none_iff.mpr none]

theorem names_plain : names form before 0 (c :: rest) = names form (some c) 0 rest := by
  rw [names, placeholderAt?_eq_none_iff.mpr none]

end Walking

/-! ## What the walk comes to -/

/-- **The first name without a value** among the parts of a text. All names in front of it
have values, and this is what makes the error one that can be foretold. -/
inductive LacksFirst (values : String → Option String) : List Part → String → Prop
  | here {name : String} {parts : List Part} (absent : values name = none) :
      LacksFirst values (.mention name :: parts) name
  | plain {c : Char} {name : String} {parts : List Part}
      (further : LacksFirst values parts name) : LacksFirst values (.plain c :: parts) name
  | mention {other name value : String} {parts : List Part} (found : values other = some value)
      (further : LacksFirst values parts name) : LacksFirst values (.mention other :: parts) name

section Filling

variable {values : String → Option String} {parts : List Part} {name value : String}
  {out out' : List Char}

/-- There is one way only to fill parts with values. -/
theorem Fills.unique (h : Fills values parts out) (h' : Fills values parts out') :
    out = out' := by
  induction h generalizing out' with
  | nil =>
    cases h'
    rfl
  | plain _ ih =>
    cases h' with
    | plain further => rw [ih further]
  | mention found _ ih =>
    cases h' with
    | mention found' further =>
      rw [found, Option.some.injEq] at found'
      rw [found', ih further]

/-- All names have values, or there is a first one that has none. -/
theorem exists_fills_or_lacksFirst (values : String → Option String) (parts : List Part) :
    (∃ out, Fills values parts out) ∨ ∃ name, LacksFirst values parts name := by
  induction parts with
  | nil => exact .inl ⟨[], .nil⟩
  | cons part parts ih =>
    cases part with
    | plain c =>
      exact ih.imp (fun ⟨out, further⟩ => ⟨_, .plain further⟩)
        fun ⟨name, further⟩ => ⟨name, .plain further⟩
    | mention name =>
      cases found : values name with
      | none => exact .inr ⟨name, .here found⟩
      | some value =>
        exact ih.imp (fun ⟨out, further⟩ => ⟨_, .mention found further⟩)
          fun ⟨name, further⟩ => ⟨name, .mention found further⟩

theorem LacksFirst.mem (h : LacksFirst values parts name) : .mention name ∈ parts := by
  induction h with
  | here => exact List.mem_cons_self
  | plain _ ih | mention _ _ ih => exact List.mem_cons_of_mem _ ih

theorem LacksFirst.absent (h : LacksFirst values parts name) : values name = none := by
  induction h with
  | here absent => exact absent
  | plain _ ih | mention _ _ ih => exact ih

/-- The value of a name that is mentioned is in the text that comes about. -/
theorem Fills.exists_of_mem (h : Fills values parts out) (mem : .mention name ∈ parts)
    (found : values name = some value) :
    ∃ front behind, out = front ++ value.toList ++ behind := by
  induction h with
  | nil => cases mem
  | plain _ ih =>
    obtain ⟨front, behind, rfl⟩ := ih ((List.mem_cons.mp mem).resolve_left nofun)
    exact ⟨_ :: front, behind, rfl⟩
  | @mention other value' parts out found' _ ih =>
    rcases List.mem_cons.mp mem with heq | mem
    · cases heq
      rw [found', Option.some.injEq] at found
      exact ⟨[], out, by rw [found, List.nil_append]⟩
    · obtain ⟨front, behind, rfl⟩ := ih mem
      exact ⟨value'.toList ++ front, behind, by simp only [List.append_assoc]⟩

end Filling

section Results

variable {form : Form} {f : String → Except RunError String} {values : String → Option String}
  {before : Option Char} {s out : List Char} {parts : List Part}

/-- **The names of a text are those that its parts mention.** -/
theorem HasParts.mem_names_iff (h : HasParts form before s parts) {name : String} :
    name ∈ names form before 0 s ↔ .mention name ∈ parts := by
  induction h with
  | nil => simp [names]
  | mention here _ ih => simp [names_begins here, ih]
  | plain none _ ih => simp [names_plain none, ih]

/-- **A text becomes what its parts become.** The names are looked up by any function that
finds their values and nothing else, whatever its errors are. -/
theorem HasParts.substitute_eq_ok_iff (h : HasParts form before s parts)
    (hf : ∀ name value, f name = .ok value ↔ values name = some value) :
    substitute form f before 0 s = .ok out ↔ Fills values parts out := by
  induction h generalizing out with
  | nil =>
    constructor
    · intro h
      cases h
      exact .nil
    · intro h
      cases h
      rfl
  | mention here _ ih =>
    rw [substitute_begins here, bind_eq_ok_iff]
    constructor
    · rintro ⟨value, hvalue, h⟩
      obtain ⟨tail, htail, h⟩ := bind_eq_ok_iff.mp h
      cases h
      exact .mention ((hf _ _).mp hvalue) (ih.mp htail)
    · intro h
      cases h with
      | mention found further =>
        exact ⟨_, (hf _ _).mpr found, bind_eq_ok_iff.mpr ⟨_, ih.mpr further, rfl⟩⟩
  | plain none _ ih =>
    rw [substitute_plain none, bind_eq_ok_iff]
    constructor
    · rintro ⟨tail, htail, h⟩
      cases h
      exact .plain (ih.mp htail)
    · intro h
      cases h with
      | plain further => exact ⟨_, ih.mpr further, rfl⟩

/-- **A text with a name without a value** fails as the first such name does. The names
behind it are not looked up. -/
theorem HasParts.substitute_eq_error (h : HasParts form before s parts)
    (hf : ∀ name value, f name = .ok value ↔ values name = some value) {name : String}
    (lacks : LacksFirst values parts name) {e : RunError} (he : f name = .error e) :
    substitute form f before 0 s = .error e := by
  induction h with
  | nil => cases lacks
  | mention here _ ih =>
    rw [substitute_begins here, bind_eq_error_iff]
    cases lacks with
    | here => exact .inl he
    | mention found further =>
      exact .inr ⟨_, (hf _ _).mpr found, bind_eq_error_iff.mpr (.inl (ih further))⟩
  | plain none _ ih =>
    cases lacks with
    | plain further =>
      rw [substitute_plain none, bind_eq_error_iff]
      exact .inl (ih further)

/-- Without mentions the parts of a text become the text itself. -/
theorem HasParts.fills_self (h : HasParts form before s parts)
    (plain : ∀ name, .mention name ∉ parts) : Fills values parts s := by
  induction h with
  | nil => exact .nil
  | mention => exact absurd List.mem_cons_self (plain _)
  | plain _ _ ih => exact .plain (ih fun name mem => plain name (List.mem_cons_of_mem _ mem))

end Results

/-! ## Texts -/

/-- **A text with all its placeholders replaced at once** by their values. What comes in
with a value is not looked at again; a placeholder in it is left for the next round. -/
def Replaced (form : Form) (values : String → Option String) (s t : List Char) : Prop :=
  ∃ parts, HasParts form none s parts ∧ Fills values parts t

/-- **A text refers to a name**: a placeholder of it has this name. -/
def Refers (form : Form) (s : List Char) (name : String) : Prop :=
  ∃ parts, HasParts form none s parts ∧ .mention name ∈ parts

/-- **The first name without a value** to which a text refers. It is the one that is told
of, whatever other names have no value. -/
def Lacks (form : Form) (values : String → Option String) (s : List Char) (name : String) :
    Prop :=
  ∃ parts, HasParts form none s parts ∧ LacksFirst values parts name

section Texts

variable {form : Form} {values : String → Option String} {s t t' : List Char} {name : String}

theorem Replaced.unique (h : Replaced form values s t) (h' : Replaced form values s t') :
    t = t' := by
  obtain ⟨parts, hparts, fills⟩ := h
  obtain ⟨parts', hparts', fills'⟩ := h'
  obtain rfl := hparts.unique hparts'
  exact fills.unique fills'

/-- All placeholders of a text can be replaced, or there is a first one that cannot. -/
theorem exists_replaced_or_lacks (form : Form) (values : String → Option String)
    (s : List Char) : (∃ t, Replaced form values s t) ∨ ∃ name, Lacks form values s name := by
  obtain ⟨parts, hparts, -⟩ := existsUnique_hasParts form none s
  exact (exists_fills_or_lacksFirst values parts).imp
    (fun ⟨t, fills⟩ => ⟨t, parts, hparts, fills⟩)
    fun ⟨name, lacks⟩ => ⟨name, parts, hparts, lacks⟩

theorem Lacks.refers (h : Lacks form values s name) : Refers form s name := by
  obtain ⟨parts, hparts, lacks⟩ := h
  exact ⟨parts, hparts, lacks.mem⟩

theorem Lacks.absent (h : Lacks form values s name) : values name = none := by
  obtain ⟨parts, -, lacks⟩ := h
  exact lacks.absent

/-- A text without placeholders stays. -/
theorem replaced_of_not_refers (h : ∀ name, ¬ Refers form s name) : Replaced form values s s := by
  obtain ⟨parts, hparts, -⟩ := existsUnique_hasParts form none s
  have plain : ∀ name, .mention name ∉ parts := fun name mem => h name ⟨parts, hparts, mem⟩
  exact ⟨parts, hparts, hparts.fills_self plain⟩

/-- **A text holds a placeholder** if it refers to a name. On the left is the test by which
it is decided whether there is anything to be done. -/
theorem hasPlaceholder_iff : hasPlaceholder form s = true ↔ ∃ name, Refers form s name := by
  obtain ⟨parts, hparts, unique⟩ := existsUnique_hasParts form none s
  have named : hasPlaceholder form s = true ↔ ∃ name, name ∈ names form none 0 s := by
    unfold hasPlaceholder
    cases names form none 0 s <;> simp
  rw [named]
  refine exists_congr fun name => hparts.mem_names_iff.trans ⟨fun mem => ⟨_, hparts, mem⟩, ?_⟩
  rintro ⟨parts', hparts', mem⟩
  rwa [unique _ hparts'] at mem

variable {f : String → Except RunError String}

theorem substitute_eq_ok_iff (hf : ∀ name value, f name = .ok value ↔ values name = some value) :
    substitute form f none 0 s = .ok t ↔ Replaced form values s t := by
  obtain ⟨parts, hparts, unique⟩ := existsUnique_hasParts form none s
  rw [hparts.substitute_eq_ok_iff hf]
  refine ⟨fun fills => ⟨parts, hparts, fills⟩, ?_⟩
  rintro ⟨parts', hparts', fills⟩
  rwa [unique _ hparts'] at fills

theorem Lacks.substitute_eq_error (h : Lacks form values s name)
    (hf : ∀ name value, f name = .ok value ↔ values name = some value) {e : RunError}
    (he : f name = .error e) : substitute form f none 0 s = .error e := by
  obtain ⟨parts, hparts, lacks⟩ := h
  exact hparts.substitute_eq_error hf lacks he

end Texts

end CaseRunner.Placeholder
