import CaseRunner.Proofs.Placeholder.Parts
import CaseRunner.Proofs.Placeholder.Searching

/-!
# Placeholders replaced by searching anew

Instead of walking along a text, one can search for its placeholders one after the other:
from the beginning of the text, and then each time from where the last one ended
(`Placeholder.substituteAnew`). What stands between them is cut out of the text, and every
search looks at the whole text again. This replaces the same placeholders as walking along
the text once (`Placeholder.substituteAnew_eq`): each that stands in the text and none
twice. The text is only cut between characters, and the searching comes to an end because a
placeholder ends behind where it was searched for.

The two ways have nothing in common but the placeholders themselves. What both are compared
with is the division of the text into parts, and the induction is on these: a part is
either a placeholder, which both replace, or a character, which the one leaves and the
other passes over.
-/

namespace CaseRunner.Placeholder

open String (utf8Len utf8Len_nil utf8Len_cons utf8Len_append)

/-- **Replaces the placeholders of a text from a place on**, each search beginning where
the last one ended: what has been found, and the text with what has been made of it so far
in front. Nothing where the text cannot be cut.

What has been found is listed along with the outcome, for the sake of what is said about
it; the outcome does not depend on the list. -/
def substituteAnew (form : Form) (resolve : String → Except RunError String) (text : List Char)
    (last : Nat) (result : List Char) : Option (List Match × Except RunError (List Char)) :=
  match _h : nextPlaceholder form text last with
  | none => none
  | some none => (Text.dropBytes? last text).map fun behind => ([], .ok (result ++ behind))
  | some (some m) =>
    (Text.slice? last m.start text).bind fun between =>
      match resolve m.name with
      | .error e => some ([m], .error e)
      | .ok value =>
        (substituteAnew form resolve text m.stop (result ++ between ++ value.toList)).map
          fun (ms, outcome) => (m :: ms, outcome)
termination_by utf8Len text - last
decreasing_by
  have := bounds_of_nextPlaceholder _h
  omega

section Steps

variable {form : Form} {f : String → Except RunError String} {text front rest result : List Char}
  {last : Nat}

/-- One step of the search that begins anew, as an equation: the next placeholder is looked
for from the last place on, what stands before it is kept, its value is put behind that,
and the search goes on where the placeholder has ended. -/
theorem substituteAnew_eq_bind : substituteAnew form f text last result =
    (nextPlaceholder form text last).bind fun
      | none => (Text.dropBytes? last text).map fun behind => ([], .ok (result ++ behind))
      | some m => (Text.slice? last m.start text).bind fun between =>
        match f m.name with
        | .error e => some ([m], .error e)
        | .ok value => (substituteAnew form f text m.stop (result ++ between ++ value.toList)).map
            fun (ms, outcome) => (m :: ms, outcome) := by
  rw [substituteAnew]
  split
  next h => rw [h]; rfl
  next h => rw [h]; rfl
  next h => rw [h]; rfl

/-- Behind the text nothing is left to be done. -/
theorem substituteAnew_end (clear : form.Clear) :
    substituteAnew form f text (utf8Len text) result = some ([], .ok result) := by
  have behind := Text.dropBytes?_append text []
  rw [List.append_nil] at behind
  rw [substituteAnew_eq_bind, nextPlaceholder_end clear]
  simp only [Option.bind_some, behind, Option.map_some, List.append_nil]

/-- A placeholder that begins at the place is replaced, and the search goes on behind it. -/
theorem substituteAnew_begins (clear : form.Clear) {written name : List Char}
    (here : Begins form front.getLast? written name rest) :
    substituteAnew form f (front ++ (written ++ rest)) (utf8Len front) result =
      match f (String.ofList name) with
      | .error e => some ([⟨utf8Len front, utf8Len (front ++ written), String.ofList name⟩],
          .error e)
      | .ok value =>
        (substituteAnew form f (front ++ (written ++ rest)) (utf8Len (front ++ written))
            (result ++ value.toList)).map fun (ms, outcome) =>
          (⟨utf8Len front, utf8Len (front ++ written), String.ofList name⟩ :: ms, outcome) := by
  have nothing := Text.slice?_append front [] (written ++ rest)
  rw [List.append_nil, List.nil_append] at nothing
  rw [substituteAnew_eq_bind, nextPlaceholder_of_begins clear here]
  simp only [Option.bind_some, nothing, List.append_nil]

/-- Where no placeholder begins, a character is left as it is. -/
theorem substituteAnew_plain (clear : form.Clear) {c : Char}
    (none : ∀ written name after, c :: rest = written ++ after →
      ¬ Begins form front.getLast? written name after) :
    substituteAnew form f (front ++ c :: rest) (utf8Len front) result
      = substituteAnew form f (front ++ c :: rest) (utf8Len (front ++ [c])) (result ++ [c]) := by
  rw [substituteAnew_eq_bind, nextPlaceholder_of_plain clear none, substituteAnew_eq_bind]
  cases next : nextPlaceholder form (front ++ c :: rest) (utf8Len (front ++ [c])) with
  | none => rfl
  | some m? =>
    cases m? with
    | none =>
      have behind := Text.dropBytes?_append (front ++ [c]) rest
      rw [List.append_assoc, List.singleton_append] at behind
      simp only [Option.bind_some, Text.dropBytes?_append, behind, Option.map_some,
        List.append_assoc, List.singleton_append]
    | some m =>
      dsimp only [Option.bind_some]
      rw [Text.slice?_cons _ _ (bounds_of_nextPlaceholder next).1]
      cases Text.slice? (utf8Len (front ++ [c])) m.start (front ++ c :: rest) with
      | none => rfl
      | some between =>
        simp only [Option.map_some, Option.bind_some, List.append_assoc, List.singleton_append]

end Steps

/-! ## The placeholders of a text -/

/-- **A placeholder stands in a text** behind another part of it. This is said of any
placeholder at any place, found or not, so that one can ask whether all of them are found.
-/
def Stands (form : Form) (front s : List Char) (m : Match) : Prop :=
  ∃ between written name rest, s = between ++ (written ++ rest)
    ∧ Begins form (front ++ between).getLast? written name rest
    ∧ m = ⟨utf8Len (front ++ between), utf8Len (front ++ between ++ written),
        String.ofList name⟩

section Standing

variable {form : Form} {front s rest written name : List Char} {c : Char} {m : Match}

/-- It is not empty, and it is not in the part before. -/
theorem Stands.bounds (h : Stands form front s m) : utf8Len front ≤ m.start ∧ m.start < m.stop := by
  obtain ⟨between, written, name, rest, -, begins, rfl⟩ := h
  obtain ⟨tail, rfl⟩ := begins.sigil
  have := form.sigil.utf8Size_pos
  simp only [utf8Len_append, utf8Len_cons]
  omega

theorem not_stands_nil : ¬ Stands form front [] m := by
  rintro ⟨between, written, name, rest, heq, begins, -⟩
  obtain ⟨tail, rfl⟩ := begins.sigil
  simp at heq

/-- A character with which no placeholder begins belongs to what stands in front. -/
theorem stands_plain_iff (none : ∀ written name after, c :: rest = written ++ after →
      ¬ Begins form front.getLast? written name after) :
    Stands form front (c :: rest) m ↔ Stands form (front ++ [c]) rest m := by
  constructor
  · rintro ⟨between, written, name, after, heq, begins, rfl⟩
    cases between with
    | nil =>
      rw [List.append_nil] at begins
      exact absurd begins (none _ _ _ heq)
    | cons d between =>
      obtain ⟨rfl, rfl⟩ := List.cons.inj heq
      exact ⟨between, written, name, after, rfl, by simpa using begins, by simp⟩
  · rintro ⟨between, written, name, after, rfl, begins, rfl⟩
    exact ⟨c :: between, written, name, after, rfl, by simpa using begins, by simp⟩

/-- **Inside a placeholder none stands.** It would begin with a sign inside the other one,
which has only the one in front. -/
theorem stands_begins_iff (clear : form.Clear)
    (here : Begins form front.getLast? written name rest) :
    Stands form front (written ++ rest) m ↔
      m = ⟨utf8Len front, utf8Len (front ++ written), String.ofList name⟩
        ∨ Stands form (front ++ written) rest m := by
  constructor
  · rintro ⟨between, written', name', rest', heq, begins, rfl⟩
    rcases List.append_eq_append_iff.mp heq with ⟨gap, rfl, rfl⟩ | ⟨inside, rfl, hrest⟩
    · exact .inr ⟨gap, written', name', rest', rfl, by simpa using begins, by simp⟩
    cases between with
    | nil =>
      rw [List.append_nil] at begins ⊢
      obtain ⟨rfl, rfl, -⟩ := here.unique begins heq
      exact .inl rfl
    | cons d between =>
      cases inside with
      | nil =>
        refine .inr ⟨[], written', name', rest', hrest.symm, by simpa using begins, by simp⟩
      | cons e inside =>
        -- it would begin with a sign inside the placeholder
        obtain ⟨tail, rfl⟩ := begins.sigil
        obtain ⟨rfl, -⟩ := List.cons.inj hrest
        exact absurd (by simp) (here.sigil_not_mem_tail clear)
  · rintro (rfl | ⟨between, written', name', rest', rfl, begins, rfl⟩)
    · exact ⟨[], written, name, rest, rfl, by simpa using here, by simp⟩
    · exact ⟨written ++ between, written', name', rest', by simp, by simpa using begins, by simp⟩

end Standing

/-! ## Searching and walking -/

section Restarting

variable {form : Form} {f : String → Except RunError String} {before : Option Char}
  {front s result : List Char} {parts : List Part} {ms : List Match}

/-- **What searches have found**: placeholders of a text, one behind the other, and all of
them if the text has been done to its end. A search that ends with an error has not come to
the end, and has still found nothing that is not there. -/
structure Finds (form : Form) (front s : List Char) (ms : List Match) (done : Prop) : Prop where
  /-- Each begins where the one before has ended or behind. -/
  apart : ms.Pairwise fun m m' => m.stop ≤ m'.start
  /-- Each stands in the text. -/
  sound : ∀ m ∈ ms, Stands form front s m
  /-- None is missed. -/
  complete : done → ∀ m, Stands form front s m → m ∈ ms

namespace Finds

variable {done done' : Prop} {written name rest : List Char} {c : Char}

theorem nil : Finds form front [] [] done :=
  ⟨.nil, List.forall_mem_nil _, fun _ _ h => absurd h not_stands_nil⟩

/-- A placeholder is found, and what is found behind it. -/
theorem begins (clear : form.Clear) (here : Begins form front.getLast? written name rest)
    (further : Finds form (front ++ written) rest ms done) (hdone : done' → done) :
    Finds form front (written ++ rest)
      (⟨utf8Len front, utf8Len (front ++ written), String.ofList name⟩ :: ms) done' := by
  have stands_iff (m) := stands_begins_iff (m := m) clear here
  constructor
  · refine List.pairwise_cons.mpr ⟨fun m hm => ?_, further.apart⟩
    exact (further.sound m hm).bounds.1
  · refine List.forall_mem_cons.mpr ⟨(stands_iff _).mpr (.inl rfl), fun m hm => ?_⟩
    exact (stands_iff m).mpr (.inr (further.sound m hm))
  · intro h m hm
    rcases (stands_iff m).mp hm with rfl | hm
    · exact List.mem_cons_self
    · exact List.mem_cons_of_mem _ (further.complete (hdone h) m hm)

/-- A placeholder is found that is the last one to be looked at. -/
theorem last (clear : form.Clear) (here : Begins form front.getLast? written name rest)
    (undone : ¬ done) : Finds form front (written ++ rest)
      [⟨utf8Len front, utf8Len (front ++ written), String.ofList name⟩] done :=
  ⟨List.pairwise_singleton _ _,
    List.forall_mem_singleton.mpr ((stands_begins_iff clear here).mpr (.inl rfl)),
    fun h => absurd h undone⟩

/-- What is found from behind a character where no placeholder begins. -/
theorem plain (none : ∀ written name after, c :: rest = written ++ after →
      ¬ Begins form front.getLast? written name after)
    (further : Finds form (front ++ [c]) rest ms done) (hdone : done' → done) :
    Finds form front (c :: rest) ms done' :=
  ⟨further.apart, fun m hm => (stands_plain_iff none).mpr (further.sound m hm),
    fun h m hm => further.complete (hdone h) m ((stands_plain_iff none).mp hm)⟩

end Finds

/-- What is put in front twice is put in front at once. -/
theorem map_append_map (x : Except RunError (List Char)) (a b : List Char) :
    x.map (a ++ b ++ ·) = (x.map (b ++ ·)).map (a ++ ·) :=
  map_eq_map_map fun _ => List.append_assoc _ _ _

/-- **Searching from a place on does what walking does from there.** By induction on the
parts of the text behind the place, with any text in front of it and whatever has been made
of that. -/
theorem HasParts.exists_substituteAnew (clear : form.Clear) (h : HasParts form before s parts)
    (hbefore : front.getLast? = before) (result : List Char) :
    ∃ ms, substituteAnew form f (front ++ s) (utf8Len front) result
        = some (ms, (substitute form f before 0 s).map (result ++ ·))
      ∧ Finds form front s ms (∃ out, substitute form f before 0 s = .ok out) := by
  induction h generalizing front result with
  | nil =>
    rw [List.append_nil, substituteAnew_end clear]
    exact ⟨[], congrArg some (by simp [substitute, Except.map]), .nil⟩
  | @mention _ written name rest parts here further ih =>
    subst hbefore
    rw [substituteAnew_begins clear here, substitute_begins here]
    cases f (String.ofList name) with
    | error e =>
      refine ⟨_, rfl, .last clear here ?_⟩
      rintro ⟨_, h⟩
      cases h
    | ok value =>
      have hlast : (front ++ written).getLast? = written.getLast? := by
        obtain ⟨tail, rfl⟩ := here.sigil
        rw [List.getLast?_append, List.getLast?_cons]
        rfl
      obtain ⟨ms, hms, finds⟩ := ih hlast (result ++ value.toList)
      rw [List.append_assoc] at hms
      dsimp only
      rw [hms, map_append_map]
      refine ⟨_, rfl, finds.begins clear here ?_⟩
      rintro ⟨_, hout⟩
      obtain ⟨_, _, hout⟩ := bind_eq_ok_iff.mp hout
      obtain ⟨tail, htail, -⟩ := bind_eq_ok_iff.mp hout
      exact ⟨tail, htail⟩
  | @plain _ c rest parts none further ih =>
    subst hbefore
    obtain ⟨ms, hms, finds⟩ := ih (show (front ++ [c]).getLast? = some c by simp) (result ++ [c])
    rw [List.append_assoc, List.singleton_append] at hms
    rw [substituteAnew_plain clear none, hms, substitute_plain none, map_append_map]
    refine ⟨ms, rfl, finds.plain none ?_⟩
    rintro ⟨_, hout⟩
    obtain ⟨tail, htail, -⟩ := bind_eq_ok_iff.mp hout
    exact ⟨tail, htail⟩

/-- If all names have values, all placeholders of a text are replaced. -/
theorem exists_substitute (form : Form) {value : String → String}
    (values : ∀ name, f name = .ok (value name)) (s : List Char) :
    ∃ out, substitute form f none 0 s = .ok out
      ∧ Replaced form (fun name => some (value name)) s out := by
  have hf (name v) : f name = .ok v ↔ some (value name) = some v := by
    rw [values, Except.ok.injEq, Option.some.injEq]
  rcases exists_replaced_or_lacks form (fun name => some (value name)) s with
    ⟨out, replaced⟩ | ⟨name, lacks⟩
  · exact ⟨out, (substitute_eq_ok_iff hf).mpr replaced, replaced⟩
  · cases lacks.absent

/-- **Searching anew is walking along the text once**: the same placeholders are replaced,
with the same outcome. The text is never cut inside a character, and what the searches find
is apart, each in its place after the last. If all names have values, everything that
stands in the text is found, and all of it is replaced.

The theorem is about the two forms that there are. For a form whose sign could stand inside
a name it would not hold, as the two ways differ in what they pass over. -/
theorem substituteAnew_eq (known : form ∈ [variableForm, relationForm])
    (f : String → Except RunError String) (s : List Char) :
    ∃ ms, substituteAnew form f s 0 [] = some (ms, substitute form f none 0 s)
      ∧ ms.Pairwise (fun m m' => m.stop ≤ m'.start)
      ∧ (∀ m ∈ ms, m.start < m.stop ∧ Stands form [] s m)
      ∧ ∀ value : String → String, (∀ name, f name = .ok (value name)) →
          (∃ out, substitute form f none 0 s = .ok out
            ∧ Replaced form (fun name => some (value name)) s out)
          ∧ ∀ m, Stands form [] s m → m ∈ ms := by
  have clear : form.Clear := by
    rcases List.mem_pair.mp known with rfl | rfl
    · exact clear_variableForm
    · exact clear_relationForm
  obtain ⟨parts, hparts, -⟩ := existsUnique_hasParts form none s
  obtain ⟨ms, hms, finds⟩ :=
    hparts.exists_substituteAnew (f := f) clear (show [].getLast? = none from rfl) []
  refine ⟨ms, hms.trans (congrArg some (Prod.ext rfl ?_)), finds.apart,
    fun m hm => ⟨(finds.sound m hm).bounds.2, finds.sound m hm⟩, fun value values => ?_⟩
  · cases substitute form f none 0 s <;> rfl
  · obtain ⟨out, hout, replaced⟩ := exists_substitute form values s
    exact ⟨⟨out, hout, replaced⟩, finds.complete ⟨out, hout⟩⟩

/-- Two relation variables side by side, behind a character of two bytes. -/
theorem substituteAnew_eq_of_touching :
    relationForm ∈ [variableForm, relationForm]
      ∧ ∃ ms, substituteAnew relationForm (fun name => .ok ("<" ++ name ++ ">"))
            "é^uid^{b}".toList 0 [] = some (ms, .ok "é<uid><b>".toList)
          ∧ (⟨2, 6, "uid"⟩ : Match) ∈ ms ∧ (⟨6, 10, "b"⟩ : Match) ∈ ms := by
  have known : relationForm ∈ [variableForm, relationForm] := by decide
  obtain ⟨ms, hms, -, -, found⟩ := substituteAnew_eq known
    (fun name => .ok ("<" ++ name ++ ">")) "é^uid^{b}".toList
  obtain ⟨-, found⟩ := found (fun name => "<" ++ name ++ ">") fun _ => rfl
  have behind : ∀ c ∈ "^{b}".toList.head?, Text.isWordChar c = false := by
    rintro c hc
    cases hc
    decide
  refine ⟨known, ms, hms.trans (congrArg (fun out => some (ms, out)) rfl), found _ ?_, found _ ?_⟩
  · exact ⟨['é'], ['^', 'u', 'i', 'd'], ['u', 'i', 'd'], "^{b}".toList, rfl,
      .bare (by decide) (List.all_eq_true.mp (by decide)) behind nofun, rfl⟩
  · exact ⟨"é^uid".toList, ['^', '{', 'b', '}'], ['b'], [], rfl,
      @Begins.braced relationForm _ ['b'] [] (by decide) (List.all_eq_true.mp (by decide)), rfl⟩

end Restarting

end CaseRunner.Placeholder
