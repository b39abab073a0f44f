import CaseRunner.Case.Dependency
import CaseRunner.Placeholder.Substitution
import CaseRunner.Proofs.Document.Alike

/-!
# References without placeholders

Before a step is read its macros are expanded and its variables replaced. A text without
either stays what it is, and so do the references of a step whose ids are such texts: the
cases that its document names are the same before and after.

A variable in the id of a reference can make it name another case, which nobody has seen
when circles were looked for. Where the ids are plain texts this cannot be, and what was
found out from the document as it was loaded holds of the step that is run.
-/

namespace CaseRunner

namespace Placeholder

open Giving

/-- Does a text hold neither macros nor variables? It may hold other placeholders, which
are filled later, after the cases it refers to have been run. -/
def isPlain (s : String) : Bool :=
  !hasMacro s.toList && !hasPlaceholder variableForm s.toList

/-- **A text may take the place of another**: of a plain text, only itself. Nothing is said
of what may take the place of a text with placeholders, since this depends on functions and
on variables. -/
def Replaces (s t : String) : Prop := isPlain s = true → t = s

theorem Replaces.refl (s : String) : Replaces s s := fun _ => rfl

variable {r : Registry} {store : Store} {now : Moment} {location : String}

/-- To expand macros leaves a text without placeholders as it is. Nothing more is known of
the functions. -/
theorem replaces_of_expand {place s t : String} (h : Gives (expand r place s) t) :
    Replaces s t := by
  intro hs
  obtain ⟨hm, -⟩ := Bool.and_eq_true_iff.mp hs
  obtain ⟨cs, hcs, h⟩ := of_bind h
  obtain rfl := of_pure h
  unfold expandRounds at hcs
  rw [if_neg (by simpa using hm)] at hcs
  obtain rfl := of_pure hcs
  exact String.ofList_toList

/-- So does replacing variables. -/
theorem replaces_of_substituteVariables {place s t : String}
    (h : substituteVariables store now place s = .ok t) : Replaces s t := by
  intro hs
  obtain ⟨-, hv⟩ := Bool.and_eq_true_iff.mp hs
  obtain ⟨cs, hcs, h⟩ := bind_eq_ok_iff.mp h
  cases h
  unfold substituteRounds at hcs
  rw [if_neg (by simpa using hv)] at hcs
  cases hcs
  exact String.ofList_toList

/-- **Placeholders are replaced in two passes** over the document, each of which keeps its
shape and the texts without placeholders. There is a document between the two, and it is
not said to be alike to the last one in the sense of the first: what one pass leaves plain
the other one leaves as it is, but a text that was not plain may become so. -/
theorem alike_of_replacePlaceholders {d e : Document}
    (h : Gives (replacePlaceholders r store now location d) e) :
    ∃ d₁, Document.Alike Replaces d d₁ ∧ Document.Alike Replaces d₁ e := by
  obtain ⟨d₁, hf, h⟩ := of_bind h
  rw [replaceFunctions_eq] at hf
  obtain ⟨s, t, h⟩ : ∃ s t, Yields (ExceptT.mk
      (pure (replaceVariables store now location d₁)) : Calling Document) s (.ok e) t := h
  have hv : Gives (replaceVariables store now location d₁) e :=
    (yields_mk_pure_iff.mp h).1.symm
  rw [replaceVariables_eq] at hv
  refine ⟨d₁, ?_, ?_⟩
  · exact Document.alike_of_replaceTexts Replaces.refl
      (fun _ _ _ ht => replaces_of_expand ht) [] d hf
  · exact Document.alike_of_replaceTexts Replaces.refl
      (fun _ _ _ ht => replaces_of_substituteVariables ht) [] d₁ hv

end Placeholder

/-! ## References -/

section References

open Document Placeholder

mutual

/-- **References without placeholders stay**, whatever is replaced around them. By
recursion on the document, since a reference may stand anywhere among the actions of a
setup. -/
theorem referenceIds_of_alike : (d : Document) → {e : Document} → Alike Replaces d e →
    (∀ id ∈ referenceIds d, isPlain id = true) → referenceIds e = referenceIds d
  | .null, _, .null, _ => rfl
  | .bool b, _, .bool _, _ => rfl
  | .number n, _, .number _, _ => rfl
  | .text s, _, .text ht, hd => by
    rw [ht (hd s (by simp [referenceIds]))]
  | .list ds, _, .list hes, hd => by
    rw [referenceIds, referenceIds]
    exact referenceIdsOfItems_of_alike ds hes fun id hid => hd id (by rwa [referenceIds])
  | .mapping fs, .mapping gs, .mapping hgs, hd => by
    rw [referenceIds] at hd
    rw [referenceIds, referenceIds]
    rcases hgs.field? "case_id" with ⟨hf, hg⟩ | ⟨d, e, hf, hg, hde⟩
    · rw [hf, hg]
    · rw [hf] at hd
      rw [hf, hg]
      cases hde with
      | text ht => rw [ht (hd _ (by simp))]
      | null | bool | number | list | mapping => rfl

theorem referenceIdsOfItems_of_alike : (ds : List Document) → {es : List Document} →
    AlikeItems Replaces ds es → (∀ id ∈ referenceIdsOfItems ds, isPlain id = true) →
    referenceIdsOfItems es = referenceIdsOfItems ds
  | [], _, .nil, _ => rfl
  | d :: ds, _, .cons he hes, hd => by
    rw [referenceIdsOfItems] at hd
    obtain ⟨hhead, htail⟩ := List.forall_mem_append.mp hd
    rw [referenceIdsOfItems, referenceIdsOfItems, referenceIds_of_alike d he hhead,
      referenceIdsOfItems_of_alike ds hes htail]

end

/-- What the actions of a setup name stays. -/
theorem referenceIds_actions_of_alike {ds es : List Document}
    (h : AlikeItems Replaces ds es)
    (hd : ∀ id ∈ ds.flatMap fun a => ((a.get? "testcase").map referenceIds).getD [],
      isPlain id = true) :
    (es.flatMap fun a => ((a.get? "testcase").map referenceIds).getD [])
      = ds.flatMap fun a => ((a.get? "testcase").map referenceIds).getD [] := by
  induction ds generalizing es with
  | nil =>
    cases h with
    | nil => rfl
  | cons d ds ih =>
    cases h with
    | cons he hes =>
      rw [List.flatMap_cons] at hd
      obtain ⟨hhead, htail⟩ := List.forall_mem_append.mp hd
      rw [List.flatMap_cons, List.flatMap_cons, ih hes htail]
      rcases he.get? "testcase" with ⟨hx, hy⟩ | ⟨x, y, hx, hy, hxy⟩
      · rw [hx, hy]
      · rw [hx] at hhead
        rw [hx, hy]
        exact congrArg (· ++ _) (referenceIds_of_alike x hxy hhead)

/-- **The references of a step stay**, if their ids are plain. The ids stand at the same
places in both documents, because these have one shape. -/
theorem referencedIds_of_alike {d e : Document} (h : Alike Replaces d e)
    (hd : ∀ id ∈ referencedIds d, isPlain id = true) :
    referencedIds e = referencedIds d := by
  unfold referencedIds at hd ⊢
  rcases h.get? "setup" with ⟨hx, hy⟩ | ⟨x, y, hx, hy, hxy⟩
  · rw [hx, hy]
  · rw [hx] at hd
    rw [hx, hy]
    cases hxy with
    | list items => exact referenceIds_actions_of_alike items hd
    | null | bool | number | text | mapping => rfl

end References

end CaseRunner
