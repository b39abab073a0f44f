import CaseRunner.Proofs.Document.Alike
import CaseRunner.Proofs.Placeholder.Division
import CaseRunner.Proofs.Placeholder.Relations
import CaseRunner.Proofs.Session.Turn

/-!
# Relation variables are taken

A request takes the relation variables that it mentions: their values stand in the place of
their names, and they are gone from the store. Whether this is done does not depend on the
order in which texts are visited, and neither does what comes of it. The document that
comes about is the one whose texts are filled from the store as it was
(`Placeholder.Filled`), the store that is left is the one without the entries of the names
mentioned (`Store.without`), and where a name has no value nothing is taken at all
(`Placeholder.replaceRelations_takes`).

A value that has been taken is not there for a second request. So it matters that a request
which fails, because one of its names has no value, has not used up the others.
-/

namespace CaseRunner

/-! ## What is left -/

/-- **The store without the entries of certain keys** of the cache. Everything else of the
store is the same, the other tiers and the files included. -/
def Store.without (s : Store) (keys : String → Prop) [DecidablePred keys] : Store :=
  { s with cache := ⟨s.cache.entries.filter fun e => ¬ keys e.1⟩ }

/-- Relation variables removed one by one are removed together. -/
theorem Store.foldl_eraseRelation (s : Store) (names : List String) :
    names.foldl eraseRelation s
      = s.without fun key => ∃ name ∈ names, key = relationKey name := by
  induction names generalizing s with
  | nil =>
    unfold without
    rw [List.filter_eq_self.mpr fun e _ => by simp]
    rfl
  | cons name names ih =>
    rw [List.foldl_cons, ih]
    unfold without eraseRelation Cache.erase
    simp only [List.filter_filter, Store.mk.injEq, Cache.mk.injEq, and_true]
    refine List.filter_congr fun e _ => ?_
    by_cases h : e.1 = relationKey name
    · simp [h]
    · simp [h]

namespace Placeholder

section Texts

variable {store : Store} {now : Moment} {place s : String}

/-- **A text filled with values**: what stands between the names mentioned in it stays, and
the names become their values. The values are put in and not looked at, so that a value
which looks like a mention takes nothing. -/
def Filled (values : String → Option String) (s t : String) : Prop :=
  ∃ parts, Divides s.toList parts ∧ Fills values parts t.toList

/-- **What a text becomes** is what it is filled to: each placeholder has its value put in,
and all have one. -/
theorem substituteRelations_eq_ok_iff (store : Store) (now : Moment) (place s t : String) :
    substituteRelations store now place s = .ok t ↔ Filled (store.relation? now) s t := by
  obtain ⟨parts, divides, unique⟩ := existsUnique_divides s.toList
  -- the place of the text is in the errors only
  have found : ∀ name value,
      (store.relation now name).mapError (variableError place) = .ok value
        ↔ store.relation? now name = some value := by
    intro name value
    rw [mapError_eq_ok_iff, Store.relation_eq_ok_iff]
  unfold substituteRelations
  rw [bind_eq_ok_iff]
  constructor
  · rintro ⟨out, hout, ht⟩
    cases ht
    rw [divides.substitute_eq_ok_iff found] at hout
    exact ⟨parts, divides, by rwa [String.toList_ofList]⟩
  · rintro ⟨parts', divides', fills⟩
    obtain rfl := unique _ divides'
    exact ⟨t.toList, (divides.substitute_eq_ok_iff found).mpr fills,
      congrArg Except.ok String.ofList_toList⟩

/-- A text that cannot be filled mentions a name without a value, and the error
tells the place of the text. -/
theorem exists_of_substituteRelations_error {e : RunError}
    (h : substituteRelations store now place s = .error e) :
    ∃ name parts, Divides s.toList parts ∧ .mention name ∈ parts
      ∧ store.relation? now name = none ∧ ∃ text, e = .variable (place ++ ": " ++ text) := by
  obtain ⟨parts, divides, -⟩ := existsUnique_divides s.toList
  rcases bind_eq_error_iff.mp h with h | ⟨out, -, h⟩
  · obtain ⟨name, hname, hf⟩ := divides.substitute_error h
    obtain ⟨e₀, he₀, rfl⟩ := mapError_eq_error_iff.mp hf
    unfold Store.relation at he₀
    split at he₀
    next => cases he₀
    next absent =>
      cases he₀
      exact ⟨name, parts, divides, hname, absent, _, rfl⟩
  · cases h

end Texts

/-! ## Documents -/

/-- **A document mentions a name** if one of its texts does. All texts count, wherever in
the document they are. -/
def Mentions (d : Document) (name : String) : Prop :=
  ∃ s ∈ d.leaves, ∃ parts, Divides s.toList parts ∧ .mention name ∈ parts

/-- The names that are collected are those that a document mentions, wherever in it. -/
theorem mem_relationNames_iff {d : Document} {name : String} :
    name ∈ relationNames d ↔ Mentions d name := by
  unfold relationNames Mentions
  rw [List.mem_flatMap]
  refine exists_congr fun s => and_congr_right fun _ => ?_
  obtain ⟨parts, divides, unique⟩ := existsUnique_divides s.toList
  rw [divides.mem_names_iff]
  constructor
  · exact fun h => ⟨parts, divides, h⟩
  · rintro ⟨parts', divides', h⟩
    rwa [unique _ divides'] at h

/-- The keys of the entries that a document takes out of the cache. -/
def Takes (d : Document) (key : String) : Prop :=
  ∃ name, Mentions d name ∧ key = Store.relationKey name

theorem takes_iff {d : Document} {key : String} :
    (∃ name ∈ relationNames d, key = Store.relationKey name) ↔ Takes d key := by
  unfold Takes
  simp only [mem_relationNames_iff]

instance (d : Document) : DecidablePred (Takes d) := fun _ =>
  decidable_of_iff _ takes_iff

/-- The store that a document leaves is the one without what it takes. -/
theorem foldl_eraseRelation_relationNames (store : Store) (d : Document) :
    (relationNames d).foldl Store.eraseRelation store = store.without (Takes d) := by
  rw [Store.foldl_eraseRelation]
  unfold Store.without
  simp only [takes_iff]

/-- **The relation variables that a document mentions are taken all at once, or not at
all.** The document that comes about has each of its texts filled with the values from
before, which are not looked at again, and the store that is left is the one from before
without the entries of the names mentioned, and nothing else. It comes about unless a name
that the document mentions has no value; that is the error then, and the run in which it
happens is left as it was.

The first part is an equivalence, so that there is no other document and no other store
that could come about. The last part is about the step of a run in which this is done: it
writes down what was filled in, or nothing. -/
theorem replaceRelations_takes (store : Store) (now : Moment) (location : String)
    (d : Document) :
    (∀ filled left, replaceRelations store now location d = .ok (filled, left) ↔
        d.Alike (Filled (store.relation? now)) filled ∧ left = store.without (Takes d))
      ∧ (∀ e, replaceRelations store now location d = .error e →
        (∃ name, Mentions d name ∧ store.relation? now name = none)
          ∧ ∃ place text, e = .variable (Document.Place.render location place ++ ": " ++ text))
      ∧ ∀ (s : Session) (case : String),
        match replaceRelations s.store s.now (joinPath case "request") d with
        | .ok (filled, left) => Yields (fillRelations case d) s (.ok filled)
            ({ s with store := left }.noting (.filled (valuesFor s.store s.now d)))
        | .error e => Yields (fillRelations case d) s (.error (.error e)) s := by
  refine ⟨fun filled left => ?_, fun e h => ?_, fun s case => ?_⟩
  · have replaced := Document.replaceTexts_eq_ok_iff
      (fun place => substituteRelations_eq_ok_iff store now (place.render location)) [] d filled
    rw [replaceRelations_eq, map_eq_ok_iff, ← replaced, ← foldl_eraseRelation_relationNames]
    constructor
    · rintro ⟨e, he, h⟩
      cases h
      exact ⟨he, rfl⟩
    · rintro ⟨h, rfl⟩
      exact ⟨filled, h, rfl⟩
  · rcases bind_eq_error_iff.mp h with h | ⟨filled, -, h⟩
    · rw [Document.visitTexts_eq] at h
      obtain ⟨place, s, hs, h⟩ := Document.exists_of_replaceTexts_error [] d h
      obtain ⟨name, parts, divides, hname, absent, text, rfl⟩ :=
        exists_of_substituteRelations_error h
      exact ⟨⟨name, ⟨s, hs, parts, divides, hname⟩, absent⟩, place, text, rfl⟩
    · cases h
  · unfold fillRelations
    split
    next filled left h =>
      have found : Yields (Session.result _) s (.ok (filled, left)) s :=
        yields_mk_pure_iff.mpr ⟨(Stop.lift_eq_ok_iff.mpr h).symm, rfl⟩
      refine yields_get_bind_iff.mpr (yields_bind_iff.mpr (.inl ⟨_, s, found, ?_⟩))
      exact Session.yields_record_bind_iff.mpr (yields_modify_bind_iff.mpr rfl)
    next e h =>
      have missed : Yields (Session.result _) s (.error (.error e)) s :=
        yields_mk_pure_iff.mpr ⟨(Stop.lift_eq_error_error_iff.mpr h).symm, rfl⟩
      exact yields_get_bind_iff.mpr (yields_bind_iff.mpr (.inr ⟨_, missed, rfl⟩))

/-- A value that looks like a mention stays as it is, though it mentions a name that
is taken as well. -/
example :
    let store : Store := { cache := ⟨[("relation:a", ⟨"^b", none⟩), ("relation:b", ⟨"1", none⟩)]⟩ }
    (replaceRelations store 0 "here" (.text "x^a/^{b}")).map
        (fun (filled, left) => (filled, left.cache.entries)) = .ok (.text "x^b/1", []) :=
  rfl

end Placeholder

end CaseRunner
