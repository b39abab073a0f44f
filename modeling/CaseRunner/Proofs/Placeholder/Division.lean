import CaseRunner.Proofs.Placeholder.Parts

/-!
# How a text is divided by the names that it mentions

Relation variables are replaced while a text is walked through character by character, with
a count of those that belong to a placeholder already replaced. What this comes to can be
said without any walking: the text is divided into mentions of names, each as long as it
can be, and plain characters between them (`Divides`), in exactly one way
(`existsUnique_divides`); the names of the text are those that it mentions, and what it
becomes is put together from its parts, the plain ones as they are and the others as values
(`Fills`).

All this is so for placeholders of any form. Relation variables need not stand alone, so
that nothing has to be said of what stands before them (`divides_iff`). The general
relation has the character before as a parameter, which is of no use here; a division is
what is left of it without this.
-/

namespace CaseRunner.Placeholder

/-! ## Divisions -/

/-- **A mention of a name at the front of a text**, and what stands behind it. In
braces a name is made of word characters; a bare one begins with a letter and is
as long as it can be. -/
inductive Mention : List Char → List Char → List Char → Prop
  | braced {name rest : List Char} (some : name ≠ [])
      (word : ∀ c ∈ name, Text.isWordChar c = true) :
      Mention ('^' :: '{' :: (name ++ '}' :: rest)) name rest
  | bare {c : Char} {name rest : List Char} (start : Text.isNameStart c = true)
      (word : ∀ c ∈ name, Text.isWordChar c = true)
      (longest : ∀ c ∈ rest.head?, Text.isWordChar c = false) :
      Mention ('^' :: c :: (name ++ rest)) (c :: name) rest

/-- **The division of a text** into its parts, from left to right. -/
inductive Divides : List Char → List Part → Prop
  | nil : Divides [] []
  | mention {s name rest : List Char} {parts : List Part} (here : Mention s name rest)
      (further : Divides rest parts) : Divides s (.mention (String.ofList name) :: parts)
  | plain {c : Char} {rest : List Char} {parts : List Part}
      (none : ∀ name after, ¬ Mention (c :: rest) name after)
      (further : Divides rest parts) : Divides (c :: rest) (.plain c :: parts)

/-! ## Mentions and placeholders -/

/-- **A mention is a placeholder that need not stand alone.** -/
theorem mention_iff (before : Option Char) {s name rest : List Char} :
    Mention s name rest ↔
      ∃ written, s = written ++ rest ∧ Begins relationForm before written name rest := by
  constructor
  · intro h
    cases h with
    | braced some word => exact ⟨_, by simp [relationForm], .braced some word⟩
    | bare start word longest => exact ⟨_, rfl, .bare start word longest nofun⟩
  · rintro ⟨written, rfl, h⟩
    cases h with
    | braced some word =>
      have mention : Mention ('^' :: '{' :: (name ++ '}' :: rest)) name rest := .braced some word
      simpa [relationForm] using mention
    | bare start word longest => exact .bare start word longest

/-- **A division is the parts of the text**, whatever stands before it. So what is known of
parts is known of divisions. -/
theorem divides_iff (before : Option Char) {s : List Char} {parts : List Part} :
    Divides s parts ↔ HasParts relationForm before s parts := by
  constructor
  · intro h
    induction h generalizing before with
    | nil => exact .nil
    | mention here _ ih =>
      obtain ⟨written, rfl, begins⟩ := (mention_iff before).mp here
      exact .mention begins (ih _)
    | plain none _ ih =>
      refine .plain (fun written name after heq begins => ?_) (ih _)
      exact none name after ((mention_iff before).mpr ⟨written, heq, begins⟩)
  · intro h
    induction h with
    | nil => exact .nil
    | mention begins _ ih => exact .mention ((mention_iff _).mpr ⟨_, rfl, begins⟩) ih
    | plain none _ ih =>
      refine .plain (fun name after here => ?_) ih
      obtain ⟨written, heq, begins⟩ := (mention_iff _).mp here
      exact none written name after heq begins

/-- **A text is divided in one way.** -/
theorem existsUnique_divides (s : List Char) : ∃! parts, Divides s parts := by
  simpa only [divides_iff none] using existsUnique_hasParts relationForm none s

/-! ## What the walk comes to -/

section Parts

variable {f : String → Except RunError String} {values : String → Option String}
  {s out : List Char} {parts : List Part}

/-- **The names of a text are those that it mentions.** -/
theorem Divides.mem_names_iff (h : Divides s parts) {name : String} :
    name ∈ names relationForm none 0 s ↔ .mention name ∈ parts :=
  ((divides_iff none).mp h).mem_names_iff

/-- **A text becomes what its parts become.** -/
theorem Divides.substitute_eq_ok_iff (h : Divides s parts)
    (hf : ∀ name value, f name = .ok value ↔ values name = some value) :
    substitute relationForm f none 0 s = .ok out ↔ Fills values parts out :=
  ((divides_iff none).mp h).substitute_eq_ok_iff hf

/-- A text whose names cannot all be replaced mentions one that cannot. -/
theorem Divides.substitute_error (h : Divides s parts) {e : RunError}
    (he : substitute relationForm f none 0 s = .error e) :
    ∃ name, .mention name ∈ parts ∧ f name = .error e := by
  have found (name value : String) : f name = .ok value ↔ (f name).toOption = some value := by
    cases f name <;> simp [Except.toOption]
  have hparts := (divides_iff none).mp h
  rcases exists_fills_or_lacksFirst (fun name => (f name).toOption) parts with
    ⟨out, fills⟩ | ⟨name, lacks⟩
  · rw [(hparts.substitute_eq_ok_iff found).mpr fills] at he
    cases he
  · obtain ⟨e', hname⟩ : ∃ e', f name = .error e' := by
      have absent := lacks.absent
      cases hf : f name with
      | ok value => simp [hf, Except.toOption] at absent
      | error e' => exact ⟨e', rfl⟩
    rw [hparts.substitute_eq_error found lacks hname] at he
    cases he
    exact ⟨name, lacks.mem, hname⟩

end Parts

end CaseRunner.Placeholder
