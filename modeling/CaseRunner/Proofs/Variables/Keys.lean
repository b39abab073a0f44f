import CaseRunner.Variables.Store
import Mathlib.Data.List.Nodup

/-!
# Keys of the cache

Variables of the cache and relation variables are entries of one cache. What is done under
one key does not show under another (`Cache.get?_set_of_ne`), although setting a key drops
whatever has expired by then: it had expired for the other keys as well. So a variable of
the cache and a relation variable have to do with each other only if they have one key.
Relation variables are to be kept apart by what their keys begin with, but a variable of
the cache may have a key that begins so. It is apart from all relation variables exactly if
its key does not (`Store.apart_iff`), and otherwise it is one of them
(`Store.relation_overwritten`).

What is found is asked for from a moment on, and not only at the moment of the change. An
entry that is there now and gone a second later, because another key was set in between,
would be no entry to rely on.
-/

namespace CaseRunner

/-- What is looked up among the pairs that pass a test, where no key is there twice. -/
theorem lookup_filter_of_nodup {β : Type} {l : List (String × β)}
    (h : (l.map Prod.fst).Nodup) (p : String × β → Bool) (key : String) :
    (l.filter p).lookup key = (l.lookup key).filter fun value => p (key, value) := by
  induction l with
  | nil => rfl
  | cons e rest ih =>
    obtain ⟨other, value⟩ := e
    obtain ⟨hnotin, hrest⟩ := List.nodup_cons.mp h
    have ih := ih hrest
    by_cases hkey : key = other
    · subst hkey
      -- there is no other pair of the key to be found when this one is gone
      have gone : rest.lookup key = none := List.lookup_eq_none_iff.mpr fun e he => by
        have : e.1 ≠ key := fun heq => hnotin (List.mem_map.mpr ⟨e, he, heq⟩)
        simpa using Ne.symm this
      by_cases hp : p (key, value) = true
      · simp [hp, Option.filter]
      · simp [hp, ih, gone, Option.filter]
    · have hne : (key == other) = false := beq_false_of_ne hkey
      by_cases hp : p (other, value) = true
      · simp [hp, List.lookup_cons, hne, ih]
      · simp [hp, List.lookup_cons, hne, ih]

namespace Cache

variable {c : Cache} {key other value : String} {expiry : Option Moment} {now later : Moment}

/-- **No key has two entries.** Removing a key removes all its entries, and setting one
puts a single entry in front of what is left; so this holds of every cache that has come
about. Without it an entry that has expired could hide another one that has not, until the
first is dropped. -/
def Sound (c : Cache) : Prop := (c.entries.map Prod.fst).Nodup

theorem sound_empty : Sound empty := List.nodup_nil

theorem Sound.filter (h : c.Sound) (p : String × CacheEntry → Bool) :
    Sound ⟨c.entries.filter p⟩ :=
  h.sublist (List.filter_sublist.map Prod.fst)

theorem Sound.erase (h : c.Sound) (key : String) : (c.erase key).Sound := h.filter _

theorem Sound.set (h : c.Sound) (key value : String) (expiry : Option Moment) (now : Moment) :
    (c.set key value expiry now).Sound := by
  refine List.nodup_cons.mpr ⟨fun hmem => ?_, (h.filter _).filter _⟩
  obtain ⟨e, he, hkey⟩ := List.mem_map.mp hmem
  have far := (List.mem_filter.mp he).2
  simp [hkey] at far

/-- What is expired stays expired. -/
theorem isExpired_mono {e : CacheEntry} (h : e.isExpired now = true) (hle : now ≤ later) :
    e.isExpired later = true := by
  unfold CacheEntry.isExpired at h ⊢
  cases hexpiry : e.expiry with
  | none =>
    rw [hexpiry] at h
    exact h
  | some t =>
    rw [hexpiry] at h
    exact decide_eq_true (Int.le_trans (of_decide_eq_true h) hle)

/-- **Setting a key leaves the others as they are**, from then on. What is dropped on the
way had expired at that moment. Later it would be found no more than it is now. -/
theorem get?_set_of_ne (h : c.Sound) (hkey : other ≠ key) (hle : now ≤ later) :
    (c.set key value expiry now).get? other later = c.get? other later := by
  have kept : (c.set key value expiry now).entries.lookup other
      = (c.entries.lookup other).filter fun e => !e.isExpired now := by
    rw [set, List.lookup_cons, beq_false_of_ne hkey]
    exact (lookup_filter_of_ne hkey _).trans (lookup_filter_of_nodup h _ other)
  unfold get?
  rw [kept, Option.filter_filter]
  congr 2
  funext e
  -- what is dropped now has expired later
  cases hnow : e.isExpired now with
  | false => simp
  | true => simp [isExpired_mono hnow hle]

end Cache

namespace Store

/-! ## Variables of the cache and relation variables -/

/-- **A variable of the cache and a relation variable are apart**: whatever a store holds,
setting or removing the one does not change what is found under the other from then on.

All four directions are asked for, of every store and every value. So a single store in
which one of the calls shows is enough to say that the two are not apart, and the theorem
that they are says something about every use of them. -/
structure Apart (key name : String) : Prop where
  /-- Setting the variable leaves the relation variable. -/
  put (s : Store) (fs : FileSystem) (value : String) (expiry : Option Moment) {now later : Moment} :
    s.cache.Sound → now ≤ later →
      ((put now key value .cache expiry).run (s, fs)).2.1.relation later name
        = s.relation later name
  /-- Removing the variable leaves the relation variable. -/
  delete (s : Store) (fs : FileSystem) (now : Moment) :
    ((delete key .cache).run (s, fs)).2.1.relation now name = s.relation now name
  /-- Setting the relation variable leaves the variable. -/
  setRelation (s : Store) (value : String) {now later : Moment} :
    s.cache.Sound → now ≤ later →
      (s.setRelation now name value).lookup later key (some .cache)
        = s.lookup later key (some .cache)
  /-- Removing the relation variable leaves the variable. -/
  eraseRelation (s : Store) (now : Moment) :
    (s.eraseRelation name).lookup now key (some .cache) = s.lookup now key (some .cache)

variable {key name : String}

/-- What is found under a relation variable hangs on the reading of its key. -/
theorem relation_congr {s t : Store} {now : Moment}
    (h : t.cache.get? (relationKey name) now = s.cache.get? (relationKey name) now) :
    t.relation now name = s.relation now name := by
  unfold relation relation?
  rw [h]

theorem apart_of_ne (h : key ≠ relationKey name) : Apart key name where
  put _ _ _ _ _ _ sound hle := relation_congr (Cache.get?_set_of_ne sound h.symm hle)
  delete s _ now := relation_congr (Cache.get?_erase_of_ne s.cache h.symm now)
  setRelation _ _ _ _ sound hle := Cache.get?_set_of_ne sound h hle
  eraseRelation s now := Cache.get?_erase_of_ne s.cache h now

/-- Setting the key of a relation variable sets the variable. -/
theorem relation_put_relationKey (s : Store) (fs : FileSystem) (name value : String)
    (now later : Moment) :
    ((put now (relationKey name) value .cache none).run (s, fs)).2.1.relation later name
      = .ok value := by
  have found : ((put now (relationKey name) value .cache none).run (s, fs)).2.1.relation? later
      name = some value := Cache.get?_set_self s.cache (relationKey name) value now later
  rw [relation, found]

/-- So it is not apart from the variable: in a store without entries the variable is not
found before. -/
theorem not_apart_relationKey (name : String) : ¬ Apart (relationKey name) name := by
  intro h
  have same := h.put {} .empty "" none Cache.sound_empty (Int.le_refl 0)
  rw [relation_put_relationKey] at same
  exact nomatch same

/-- The keys of relation variables are those that begin with their tag. -/
theorem exists_relationKey_iff :
    (∃ name, key = relationKey name) ↔ "relation:".toList <+: key.toList := by
  constructor
  · rintro ⟨name, rfl⟩
    exact ⟨name.toList, (String.toList_append ..).symm⟩
  · rintro ⟨rest, hrest⟩
    refine ⟨String.ofList rest, String.toList_inj.mp ?_⟩
    rw [← hrest, relationKey, String.toList_append, String.toList_ofList (l := rest)]

/-- **Which variables of the cache are apart from which relation variables**: all but those
that have the very key of the relation variable. So a variable is apart from all of them
exactly if its key does not begin as theirs do.

That the key begins so is a condition on the key alone, and it can be asked when the key
comes in. Nothing asks it. -/
theorem apart_iff (key : String) :
    (∀ name, Apart key name ↔ key ≠ relationKey name)
      ∧ ((∀ name, Apart key name) ↔ ¬ "relation:".toList <+: key.toList) := by
  have each : ∀ name, Apart key name ↔ key ≠ relationKey name := fun name =>
    ⟨fun apart heq => not_apart_relationKey name (heq ▸ apart), apart_of_ne⟩
  refine ⟨each, ?_⟩
  rw [← exists_relationKey_iff, not_exists]
  exact forall_congr' each

/-- **A variable of the cache takes the place of a relation variable** if its key is the
key of the relation variable. The variable is set without any mention of relations, and the
value that a case has stored for another one is gone. -/
theorem relation_overwritten :
    let s : Store := Store.setRelation {} 0 "uid" "related"
    s.cache.Sound ∧ s.relation 0 "uid" = .ok "related"
      ∧ ((Store.put 0 "relation:uid" "plain" .cache none).run
          (s, FileSystem.empty)).2.1.relation 0 "uid" = .ok "plain"
      ∧ ¬ Apart "relation:uid" "uid" :=
  ⟨Cache.sound_empty.set _ _ _ _, rfl, rfl, not_apart_relationKey "uid"⟩

end Store

end CaseRunner
