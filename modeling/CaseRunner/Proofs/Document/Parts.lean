import CaseRunner.Proofs.Document.Ascending
import CaseRunner.Proofs.Document.Ordering
import Mathlib.Data.List.Forall2

/-!
# Equality of lists and mappings

Two numbers are compared by value, and whether something is an item of a list is asked by
the same equality. But lists and mappings are compared by form: their parts must be the
same (`equal_list_iff`, `equal_mapping_iff`). The two agree unless parts are numbers that
have the same value and another form, such as `1` and `1.0`, and then they do not
(`equal_by_parts_iff`): all items are equal, and the lists are not (`equal_not_by_parts`).

Only the outermost parts need be looked at. A list in a list is compared with another one
by form, whichever of the two equalities is used, so that numbers further down do not make
two parts equal by value only.
-/

namespace CaseRunner.Document

open List

variable {d e : Document} {name : String}

/-- **Two documents are equal by value only**: numbers of the same value that do not have
the same form. This is all that the two equalities differ in, and so the exception in all
that follows. -/
def OnlyByValue (d e : Document) : Prop :=
  ∃ a b, d = .number a ∧ e = .number b ∧ a.toBinary64.eq b.toBinary64 = true ∧ a.same b = false

/-- What is equal and not the same is equal by value only. -/
theorem onlyByValue_iff : OnlyByValue d e ↔ d.equal e = true ∧ d.same e = false := by
  constructor
  · rintro ⟨a, b, rfl, rfl, value, form⟩
    exact ⟨value, form⟩
  · rintro ⟨value, form⟩
    by_cases number : ∃ b, e = .number b
    · obtain ⟨b, rfl⟩ := number
      cases d with
      | number a => exact ⟨a, b, rfl, rfl, value, form⟩
      | _ => contradiction
    · rw [equal_eq_same d fun b hb => number ⟨b, hb⟩, form] at value
      contradiction

/-- The same is what is equal, and not by value only. -/
theorem same_iff : d.same e = true ↔ d.equal e = true ∧ ¬ OnlyByValue d e := by
  rw [onlyByValue_iff]
  constructor
  · exact fun same => ⟨equal_of_same same, fun ⟨_, form⟩ => by simp [same] at form⟩
  · rintro ⟨equal, h⟩
    exact Bool.not_eq_false _ ▸ fun form => h ⟨equal, form⟩

/-! ## Lists -/

theorem sameList_iff {xs ys : List Document} :
    sameList xs ys = true ↔ Forall₂ (fun x y => x.same y = true) xs ys := by
  induction xs generalizing ys with
  | nil => cases ys <;> simp [sameList]
  | cons x xs ih => cases ys <;> simp [sameList, ih]

/-- **Lists are equal if their items are the same**, position by position. -/
theorem equal_list_iff {xs ys : List Document} :
    (list xs).equal (list ys) = true ↔ Forall₂ (fun x y => x.same y = true) xs ys :=
  sameList_iff

/-- A needle is in a list if one of the items equals it. -/
theorem holds?_list_iff {items : List Document} :
    (list items).holds? d = some true ↔ ∃ item ∈ items, item.equal d = true := by
  rw [holds?, Option.some.injEq, List.any_eq_true]

/-! ## Mappings -/

section Mappings

variable {R : Document → Document → Prop} {fs gs : Fields}

/-- **Mappings correspond**: the same names have values, and these are in a relation. This
says nothing of the order in which the members stand, and is what one would say of mappings
without looking at how they are kept. -/
def Corresponds (R : Document → Document → Prop) (fs gs : Fields) : Prop :=
  ∀ name, Option.Rel R (field? name fs) (field? name gs)

/-- Mappings correspond if they have the same names, and the values under each name do. -/
theorem corresponds_iff : Corresponds R fs gs
    ↔ (∀ name, (field? name fs).isSome = (field? name gs).isSome)
      ∧ ∀ name x y, field? name fs = some x → field? name gs = some y → R x y := by
  unfold Corresponds
  rw [← forall_and]
  refine forall_congr' fun name => ?_
  cases field? name fs <;> cases field? name gs <;> simp

/-- Mappings correspond with the values that have the first name apart from the others. -/
theorem corresponds_cons {k : String} {x y : Document} (hfs : ∀ f ∈ fs, k < f.1)
    (hgs : ∀ g ∈ gs, k < g.1) :
    Corresponds R ((k, x) :: fs) ((k, y) :: gs) ↔ R x y ∧ Corresponds R fs gs := by
  have absent : ∀ {hs : Fields}, (∀ h ∈ hs, k < h.1) → field? k hs = none := fun hhs => by
    refine Option.eq_none_iff_forall_ne_some.mpr fun v hv => ?_
    exact String.lt_irrefl k (hhs _ (mem_of_field? hv))
  constructor
  · intro h
    have head := h k
    rw [field?_cons, field?_cons, if_pos rfl, if_pos rfl, Option.rel_some_some] at head
    refine ⟨head, fun name => ?_⟩
    by_cases hname : k = name
    · subst hname
      rw [absent hfs, absent hgs]
      exact .none
    · have tail := h name
      rwa [field?_cons, field?_cons, if_neg hname, if_neg hname] at tail
  · rintro ⟨head, tail⟩ name
    rw [field?_cons, field?_cons]
    split
    · exact .some head
    · exact tail name

/-- The first name of a mapping is not below that of one it corresponds to. -/
theorem Corresponds.not_lt {f g : String × Document} (h : Corresponds R (f :: fs) (g :: gs))
    (hgs : ∀ h ∈ gs, g.1 < h.1) : ¬ f.1 < g.1 := by
  intro lt
  have found := (corresponds_iff.mp h).1 f.1
  rw [field?_cons, if_pos rfl] at found
  obtain ⟨y, there⟩ := Option.isSome_iff_exists.mp found.symm
  rcases List.mem_cons.mp (mem_of_field? there) with rfl | later
  · exact String.lt_irrefl _ lt
  · exact String.lt_irrefl _ (String.lt_trans lt (hgs (f.1, y) later))

theorem Corresponds.symm (h : Corresponds R fs gs) : Corresponds (fun x y => R y x) gs fs := by
  obtain ⟨names, values⟩ := corresponds_iff.mp h
  exact corresponds_iff.mpr ⟨fun name => (names name).symm, fun name y x hy hx =>
    values name x y hx hy⟩

theorem not_corresponds_nil {f : String × Document} : ¬ Corresponds R (f :: fs) [] := by
  intro h
  have found := h f.1
  rw [field?_cons, if_pos rfl] at found
  cases found

/-- **Ascending lists correspond if their pairs do**, position by position. This is why
mappings may be compared as lists: in both of them the names ascend, so the same names
stand at the same positions. By induction on the two lists, of which neither can begin with
a name that is below all names of the other. -/
theorem forall₂_iff_corresponds (R : Document → Document → Prop) (hfs : Ascending fs)
    (hgs : Ascending gs) :
    Forall₂ (fun f g => f.1 = g.1 ∧ R f.2 g.2) fs gs ↔ Corresponds R fs gs := by
  induction fs generalizing gs with
  | nil =>
    cases gs with
    | nil => exact iff_of_true .nil fun _ => .none
    | cons g gs => exact iff_of_false nofun fun h => not_corresponds_nil h.symm
  | cons f fs ih =>
    cases gs with
    | nil => exact iff_of_false nofun not_corresponds_nil
    | cons g gs =>
      obtain ⟨k, x⟩ := f
      obtain ⟨l, y⟩ := g
      obtain ⟨afterk, restk⟩ := ascending_cons.mp hfs
      obtain ⟨afterl, restl⟩ := ascending_cons.mp hgs
      by_cases names : k = l
      · subst names
        rw [List.forall₂_cons, corresponds_cons afterk afterl, ih restk restl]
        exact and_congr_left' (and_iff_right rfl)
      · -- neither of the first names is in the other list
        refine iff_of_false (fun h => ?_) fun h => names ?_
        · cases h with
          | cons head _ => exact names head.1
        · exact String.le_antisymm (String.not_lt.mp (h.symm.not_lt afterk))
            (String.not_lt.mp (h.not_lt afterl))

theorem sameFields_iff :
    sameFields fs gs = true ↔ Forall₂ (fun f g => f.1 = g.1 ∧ f.2.same g.2 = true) fs gs := by
  induction fs generalizing gs with
  | nil => cases gs <;> simp [sameFields]
  | cons f fs ih => cases gs <;> simp [sameFields, ih]

/-- **Mappings are equal if they have the same names and the members are the same.** -/
theorem equal_mapping_iff (hfs : Ascending fs) (hgs : Ascending gs) :
    (mapping fs).equal (mapping gs) = true
      ↔ Corresponds (fun x y => x.same y = true) fs gs :=
  sameFields_iff.trans (forall₂_iff_corresponds (fun x y => x.same y = true) hfs hgs)

end Mappings

/-! ## Parts that are equal by value only -/

/-- **All items are equal**: the lists are of one length, and the items at each position are
equal. -/
def ItemsEqual (xs ys : List Document) : Prop := Forall₂ (fun x y => x.equal y = true) xs ys

/-- **All members are equal**: the same names have values, and these are equal. -/
def MembersEqual (fs gs : Fields) : Prop := Corresponds (fun x y => x.equal y = true) fs gs

/-- Lists are equal if all items are, none of them by value only. -/
theorem equal_list_iff_itemsEqual {xs ys : List Document} : (list xs).equal (list ys) = true
    ↔ ItemsEqual xs ys ∧ ¬ ∃ p ∈ xs.zip ys, OnlyByValue p.1 p.2 := by
  rw [equal_list_iff, ItemsEqual, forall₂_iff_zip, forall₂_iff_zip, and_assoc]
  refine and_congr_right fun _ => ?_
  simp only [same_iff, not_exists, not_and, Prod.forall]
  exact ⟨fun h => ⟨fun hp => (h hp).1, fun x y hp => (h hp).2⟩,
    fun h _ _ hp => ⟨h.1 hp, h.2 _ _ hp⟩⟩

/-- Mappings are equal if all members are, none of them by value only. -/
theorem equal_mapping_iff_membersEqual {fs gs : Fields} (hfs : Ascending fs)
    (hgs : Ascending gs) : (mapping fs).equal (mapping gs) = true ↔ MembersEqual fs gs
      ∧ ¬ ∃ name x y, field? name fs = some x ∧ field? name gs = some y ∧ OnlyByValue x y := by
  rw [equal_mapping_iff hfs hgs, MembersEqual, corresponds_iff, corresponds_iff, and_assoc]
  refine and_congr_right fun _ => ?_
  simp only [same_iff, not_exists, not_and]
  exact ⟨fun h => ⟨fun name x y hx hy => (h name x y hx hy).1,
      fun name x y hx hy => (h name x y hx hy).2⟩,
    fun h name x y hx hy => ⟨h.1 name x y hx hy, h.2 name x y hx hy⟩⟩

/-- **Equality of lists and mappings is that of their parts exactly if no parts are equal
by value only.** So lists of one item are equal whenever the item of the one is in the
other, with the same exception.

Each of the three parts says of an equivalence when it holds. Where there are parts that
are equal by value only, but others that are not equal at all, the equivalence holds as
well, as both of its sides are false; therefore the exception asks for both. -/
theorem equal_by_parts_iff (xs ys : List Document) {fs gs : Fields} (hfs : Ascending fs)
    (hgs : Ascending gs) (x y : Document) :
    (((list xs).equal (list ys) = true ↔ ItemsEqual xs ys)
        ↔ ¬ (ItemsEqual xs ys ∧ ∃ p ∈ xs.zip ys, OnlyByValue p.1 p.2))
      ∧ (((mapping fs).equal (mapping gs) = true ↔ MembersEqual fs gs)
        ↔ ¬ (MembersEqual fs gs ∧ ∃ name x y, field? name fs = some x
          ∧ field? name gs = some y ∧ OnlyByValue x y))
      ∧ (((list [x]).equal (list [y]) = true ↔ (list [x]).holds? y = some true)
        ↔ ¬ OnlyByValue x y) := by
  -- what has the exception is not what has not exactly where it applies
  have exception : ∀ {parts except : Prop}, (parts ∧ ¬ except ↔ parts) ↔ ¬ (parts ∧ except) :=
    by tauto
  refine ⟨?_, ?_, ?_⟩
  · rw [equal_list_iff_itemsEqual, exception]
  · rw [equal_mapping_iff_membersEqual hfs hgs, exception]
  · rw [equal_list_iff, forall₂_cons, and_iff_left Forall₂.nil, same_iff, holds?_list_iff]
    simp only [List.mem_singleton, exists_eq_left]
    rw [exception, onlyByValue_iff]
    tauto

/-- Two mappings of two members, and the second members are equal by value only. -/
theorem equal_by_parts_iff_of_mapping :
    let fs : Fields := [("id", .int 7), ("price", .int 1)]
    let gs : Fields := [("id", .int 7), ("price", .number (.float (.ofInt 1)))]
    Ascending fs ∧ Ascending gs ∧ ¬ ((mapping fs).equal (mapping gs) = true ↔ MembersEqual fs gs)
      := by
  intro fs gs
  have hfs : Ascending fs := ascending_cons.mpr ⟨by decide, List.pairwise_singleton _ _⟩
  have hgs : Ascending gs := ascending_cons.mpr ⟨by decide, List.pairwise_singleton _ _⟩
  have members : MembersEqual fs gs := by
    refine (forall₂_iff_corresponds _ hfs hgs).mp (.cons ⟨rfl, ?_⟩ (.cons ⟨rfl, ?_⟩ .nil)) <;>
      decide +kernel
  have only : OnlyByValue (.int 1) (.number (.float (.ofInt 1))) :=
    ⟨_, _, rfl, rfl, by decide +kernel, rfl⟩
  obtain ⟨-, mappings, -⟩ := equal_by_parts_iff [] [] hfs hgs .null .null
  refine ⟨hfs, hgs, ?_⟩
  rw [mappings, not_not]
  exact ⟨members, "price", _, _, rfl, rfl, only⟩

/-- **Lists and mappings with equal parts that are not equal**: `1` is `1.0` and is in the
list of `1.0`, but the lists of them are different, and so are mappings. -/
theorem equal_not_by_parts :
    let whole : Document := .int 1
    let point : Document := .number (.float (.ofInt 1))
    whole.equal point = true
      ∧ ItemsEqual [whole] [point] ∧ (list [whole]).equal (list [point]) = false
      ∧ (list [whole]).holds? point = some true
      ∧ MembersEqual [("a", whole)] [("a", point)]
      ∧ (mapping [("a", whole)]).equal (mapping [("a", point)]) = false := by
  intro whole point
  have equal : whole.equal point = true := by decide +kernel
  have items : ItemsEqual [whole] [point] := .cons equal .nil
  have members : MembersEqual [("a", whole)] [("a", point)] :=
    (forall₂_iff_corresponds _ (List.pairwise_singleton _ _) (List.pairwise_singleton _ _)).mp
      (.cons ⟨rfl, equal⟩ .nil)
  exact ⟨equal, items, rfl, by decide +kernel, members, rfl⟩

end CaseRunner.Document
