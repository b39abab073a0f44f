import CaseRunner.Proofs.Document.Ascending
import CaseRunner.Proofs.Variables.Keys
import CaseRunner.Proofs.Variables.Stored

/-!
# Calls that change a variable

To set or remove a variable should change this variable and no other
(`VariableCall.ChangesOnly`). In memory it does (`VariableCall.changesOnly_edit`). But a
tier that a file keeps is read anew from the file before it is changed (`Store.anew`), and
this drops whatever the store holds and the file does not (`Store.Performed`). So a call
changes only its variable exactly if reading the tier anew changes nothing that is found
under the other keys (`Store.Performed.only_iff`).

What a call does is told apart from what comes of reading the file. The first is the same
for all stores and is said by functions (`VariableCall.edit`); the second depends on the
file. There are three scopes and two kinds of calls, and the functions on the tiers are
what the six have in common.
-/

namespace CaseRunner

open Text

/-- The name under which a scope keeps a key: the environment keeps it in upper case. -/
def Scope.nameOf : Scope → String → String
  | .env, key => toUpper key
  | .cache, key | .global, key => key

namespace Store

variable {s s' s'' : Store} {scope : Scope}

/-- **Two stores have the same tier of a scope**, kept in the same file. The file belongs
to the tier, as it decides what the tier will be when it is read anew. -/
def SameTier (s s' : Store) : Scope → Prop
  | .cache => s'.cache = s.cache
  | .env => s'.env = s.env ∧ s'.envFile = s.envFile
  | .global => s'.global = s.global ∧ s'.globalFile = s.globalFile

theorem SameTier.refl (s : Store) (scope : Scope) : SameTier s s scope := by
  cases scope with
  | cache => exact rfl
  | env | global => exact ⟨rfl, rfl⟩

theorem SameTier.trans (h : SameTier s s' scope) (h' : SameTier s' s'' scope) :
    SameTier s s'' scope := by
  cases scope with
  | cache => exact Eq.trans h' h
  | env | global => exact ⟨h'.1.trans h.1, h'.2.trans h.2⟩

/-- What is found in a scope hangs on its tier. -/
theorem SameTier.lookup (h : SameTier s s' scope) (t : Moment) (key : String) :
    s'.lookup t key (some scope) = s.lookup t key (some scope) := by
  cases scope with
  | cache => exact congrArg (Cache.get? · key t) h
  | env => exact congrArg (Document.field? (toUpper key)) h.1
  | global => exact congrArg (Document.field? key) h.1

end Store

/-! ## Calls -/

/-- What is done to a variable. -/
inductive VariableCall.Act where
  /-- It is set at a moment; only the cache minds until when, if it is told. -/
  | set (now : Moment) (value : String) (expiry : Option Moment)
  /-- It is removed. -/
  | delete

/-- A call that changes a variable. -/
structure VariableCall where
  /-- The scope of the variable. -/
  scope : Scope
  /-- The key of the variable. -/
  key : String
  /-- What is done to it. -/
  act : VariableCall.Act

namespace VariableCall

/-- The call as a store does it. -/
def perform (c : VariableCall) : Storing Unit :=
  match c.act with
  | .set now value expiry => Store.put now c.key value c.scope expiry
  | .delete => do let _ ← Store.delete c.key c.scope

/-- By the moment the call has been made. A removal has no moment of its own. -/
def Made (c : VariableCall) (later : Moment) : Prop :=
  match c.act with
  | .set now .. => now ≤ later
  | .delete => True

theorem exists_made (c : VariableCall) : ∃ later, c.Made later := by
  unfold Made
  cases c.act with
  | set now => exact ⟨now, Int.le_refl now⟩
  | delete => exact ⟨0, trivial⟩

/-- The value that is found at a later moment of a variable with which this was done. -/
def Act.value? (scope : Scope) (later : Moment) : Act → Option String
  | .set _ value (some expiry) => if scope = .cache ∧ expiry ≤ later then none else some value
  | .set _ value none => some value
  | .delete => none

/-- **What is looked up is the variable of the call.** -/
def Concerns (c : VariableCall) (key : String) (scope : Scope) : Prop :=
  scope = c.scope ∧ c.scope.nameOf key = c.scope.nameOf c.key

instance (c : VariableCall) (key : String) (scope : Scope) : Decidable (c.Concerns key scope) :=
  inferInstanceAs (Decidable (_ ∧ _))

/-- **The call changes its variable and no other**: from then on every key in every scope
has the value that it would have without the call, but the key of the call has the value
that the call gives it.

Keys are compared by the name under which they are kept, so that in the environment two
spellings of a key are one variable. And the value that the call gives is that of a later
moment: a variable of the cache may have expired by then. -/
def ChangesOnly (c : VariableCall) (s s' : Store) : Prop :=
  ∀ later, c.Made later → ∀ key scope,
    s'.lookup later key (some scope) =
      if c.Concerns key scope then c.act.value? scope later else s.lookup later key (some scope)

/-! ## What a call does in memory -/

/-- What the call makes of the cache. -/
def Act.onCache (key : String) : Act → Cache → Cache
  | .set now value expiry, m => m.set key value expiry now
  | .delete, m => m.erase key

/-- What the call makes of a tier. -/
def Act.onFields (name : String) : Act → List (String × String) → List (String × String)
  | .set _ value _, m => Document.insertField name value m
  | .delete, m => Document.eraseField name m

/-- The store with the variable changed, as if there were no files. The tier of the call is
the only one that is touched. -/
def edit (c : VariableCall) (s : Store) : Store :=
  match c.scope with
  | .cache => { s with cache := c.act.onCache c.key s.cache }
  | .env => { s with env := c.act.onFields (toUpper c.key) s.env }
  | .global => { s with global := c.act.onFields c.key s.global }

variable {c : VariableCall} {s s' r : Store} {later : Moment}

/-- **What is found in the cache after a call**: under its key what the call has made of
it, and under any other key what was found before. -/
theorem get?_onCache {m : Cache} (sound : m.Sound) (hmade : c.Made later) (key : String) :
    (c.act.onCache c.key m).get? key later =
      if key = c.key then c.act.value? .cache later else m.get? key later := by
  obtain ⟨scope, own, act⟩ := c
  cases act with
  | set now value expiry =>
    split
    · rename_i heq
      subst heq
      cases expiry with
      | none => exact Cache.get?_set_self m _ value now later
      | some expiry =>
        refine (Cache.get?_set_self_of_expiry m _ value expiry now later).trans ?_
        simp [Act.value?]
    · rename_i hne
      exact Cache.get?_set_of_ne sound hne hmade
  | delete =>
    split
    · rename_i heq
      subst heq
      exact Cache.get?_erase_self m _ later
    · rename_i hne
      exact Cache.get?_erase_of_ne m hne later

/-- The same for the scopes that are kept in files. -/
theorem field?_onFields (scope : Scope) (hscope : scope ≠ .cache) (act : Act)
    (own name : String) (m : List (String × String)) :
    Document.field? name (act.onFields own m) =
      if name = own then act.value? scope later else Document.field? name m := by
  cases act with
  | set now value expiry =>
    have given : Act.value? scope later (.set now value expiry) = some value := by
      cases expiry with
      | none => rfl
      | some expiry => exact if_neg fun h => hscope h.1
    rw [given]
    exact Document.field?_insertField name own value m
  | delete => exact Document.field?_eraseField own name m

/-- What the call does leaves the other tiers alone. -/
theorem sameTier_edit {scope : Scope} (h : scope ≠ c.scope) :
    Store.SameTier s (c.edit s) scope := by
  obtain ⟨own, ownKey, act⟩ := c
  cases own <;> cases scope <;>
    first | exact absurd rfl h | exact rfl | exact ⟨rfl, rfl⟩

/-- **In memory the call changes its variable and no other.** For the cache this takes that
it is sound: setting a key drops entries that have expired, and these must not have hidden
others. -/
theorem changesOnly_edit (c : VariableCall) (sound : s.cache.Sound) :
    c.ChangesOnly s (c.edit s) := by
  intro later hmade key scope
  by_cases hscope : scope = c.scope
  · subst hscope
    have concerns : c.Concerns key c.scope ↔ c.scope.nameOf key = c.scope.nameOf c.key :=
      and_iff_right rfl
    simp only [concerns]
    cases hown : c.scope with
    | cache =>
      simp only [edit, hown, Store.lookup, Store.lookupIn, Scope.nameOf]
      exact get?_onCache sound hmade key
    | env =>
      simp only [edit, hown, Store.lookup, Store.lookupIn, Scope.nameOf]
      exact field?_onFields .env nofun c.act _ _ s.env
    | global =>
      simp only [edit, hown, Store.lookup, Store.lookupIn, Scope.nameOf]
      exact field?_onFields .global nofun c.act _ _ s.global
  · rw [if_neg fun h => hscope h.1]
    exact (sameTier_edit hscope).lookup later key

/-- What the call does leaves the tiers in their files. -/
theorem files_edit (c : VariableCall) (s : Store) :
    (c.edit s).envFile = s.envFile ∧ (c.edit s).globalFile = s.globalFile := by
  obtain ⟨own, ownKey, act⟩ := c
  cases own <;> exact ⟨rfl, rfl⟩

/-- What the call does to the cache keeps it sound. -/
theorem sound_edit (c : VariableCall) (sound : s.cache.Sound) : (c.edit s).cache.Sound := by
  unfold edit
  cases c.scope with
  | cache =>
    cases c.act with
    | set now value expiry => exact sound.set _ _ _ _
    | delete => exact sound.erase _
  | env | global => exact sound

end VariableCall

/-! ## Reading and writing the tier of a scope -/

namespace Store

variable {c : VariableCall} {s s' r : Store} {fs fs' : FileSystem} {scope : Scope}

/-- **The store when the tier of a scope is read anew**, if a file keeps it. Nothing of the
tier that was held is kept, whether it is in the file or not. -/
def anew (s : Store) (fs : FileSystem) : Scope → Except RunError Store
  | .cache => .ok s
  | .env =>
    match s.envFile with
    | none => .ok s
    | some path => (readEnv fs path).map fun env => { s with env }
  | .global =>
    match s.globalFile with
    | none => .ok s
    | some path => (readGlobal fs path).map fun global => { s with global }

/-- The files when the tier of a scope is written, if a file keeps it. -/
def saved (s : Store) (fs : FileSystem) : Scope → Except RunError FileSystem
  | .cache => .ok fs
  | .env =>
    match s.envFile with
    | none => .ok fs
    | some path => writeFile fs path (DotEnv.write s.env)
  | .global =>
    match s.globalFile with
    | none => .ok fs
    | some path => writeFile fs path (Yaml.writeTexts s.global)

/-- What reading the environment anew makes of a store. -/
theorem anew_env_eq_ok_iff :
    s.anew fs .env = .ok r ↔
      (s.envFile = none ∧ r = s)
        ∨ ∃ path env, s.envFile = some path ∧ readEnv fs path = .ok env ∧ r = { s with env } := by
  dsimp only [anew]
  split
  · rename_i hfile
    simp [hfile, eq_comm]
  · rename_i path hfile
    rw [map_eq_ok_iff]
    simp [hfile, eq_comm]

/-- What reading the global tier anew makes of a store. -/
theorem anew_global_eq_ok_iff :
    s.anew fs .global = .ok r ↔
      (s.globalFile = none ∧ r = s)
        ∨ ∃ path global, s.globalFile = some path ∧ readGlobal fs path = .ok global
          ∧ r = { s with global } := by
  dsimp only [anew]
  split
  · rename_i hfile
    simp [hfile, eq_comm]
  · rename_i path hfile
    rw [map_eq_ok_iff]
    simp [hfile, eq_comm]

/-- Without a file there is nothing to read or to write. -/
theorem yields_noFile_iff {α : Type} {t : Store × FileSystem} (path? : Store → Option String)
    (answer : Store → FileSystem → String → Except RunError α)
    (update : Store → FileSystem → α → Store × FileSystem) (hfile : path? s = none) :
    Yields (ε := RunError) (do
      let (s, fs) ← get
      if let some path := path? s then
        let a ← ExceptT.mk (pure (answer s fs path))
        set (update s fs a)) (s, fs) (.ok ()) t ↔ t = (s, fs) := by
  rw [yields_get_bind_iff]
  dsimp only
  rw [hfile]
  exact yields_pure_iff.trans (and_iff_right rfl)

/-- **The tier of a scope is read anew and written** by two computations. The environment
and the global tier are each read and written by computations of their own, which do the
same with different files; what is shown of calls further on uses no more of them than
this. -/
structure Rewrites (scope : Scope) (reread save : Storing Unit) : Prop where
  /-- The one reads the tier anew. -/
  read {s : Store} {fs : FileSystem} {t : Store × FileSystem} :
    Yields reread (s, fs) (.ok ()) t → ∃ r, s.anew fs scope = .ok r ∧ t = (r, fs)
  /-- The other one writes it. -/
  write {s : Store} {fs : FileSystem} {t : Store × FileSystem} :
    Yields save (s, fs) (.ok ()) t → ∃ fs', s.saved fs scope = .ok fs' ∧ t = (s, fs')

theorem rewrites_env : Rewrites .env rereadEnv saveEnv where
  read {s _ _} h := by
    cases hfile : s.envFile with
    | none =>
      exact ⟨s, anew_env_eq_ok_iff.mpr (.inl ⟨hfile, rfl⟩),
        (yields_noFile_iff (·.envFile) (fun _ fs path => readEnv fs path)
          (fun s fs env => ({ s with env }, fs)) hfile).mp h⟩
    | some path =>
      obtain ⟨env, henv, rfl⟩ := (yields_rereadEnv_iff hfile).mp h
      exact ⟨_, anew_env_eq_ok_iff.mpr (.inr ⟨path, env, hfile, henv, rfl⟩), rfl⟩
  write {s fs _} h := by
    dsimp only [saved]
    cases hfile : s.envFile with
    | none =>
      exact ⟨fs, rfl, (yields_noFile_iff (·.envFile)
        (fun s fs path => writeFile fs path (DotEnv.write s.env))
        (fun s _ fs => (s, fs)) hfile).mp h⟩
    | some path => exact (yields_saveEnv_iff hfile).mp h

theorem rewrites_global : Rewrites .global rereadGlobal saveGlobal where
  read {s _ _} h := by
    cases hfile : s.globalFile with
    | none =>
      exact ⟨s, anew_global_eq_ok_iff.mpr (.inl ⟨hfile, rfl⟩),
        (yields_noFile_iff (·.globalFile) (fun _ fs path => readGlobal fs path)
          (fun s fs global => ({ s with global }, fs)) hfile).mp h⟩
    | some path =>
      obtain ⟨global, hglobal, rfl⟩ := (yields_rereadGlobal_iff hfile).mp h
      exact ⟨_, anew_global_eq_ok_iff.mpr (.inr ⟨path, global, hfile, hglobal, rfl⟩), rfl⟩
  write {s fs _} h := by
    dsimp only [saved]
    cases hfile : s.globalFile with
    | none =>
      exact ⟨fs, rfl, (yields_noFile_iff (·.globalFile)
        (fun s fs path => writeFile fs path (Yaml.writeTexts s.global))
        (fun s _ fs => (s, fs)) hfile).mp h⟩
    | some path => exact (yields_saveGlobal_iff hfile).mp h

/-! ## What a call does -/

/-- **What a call does**: the tier of its scope is read anew, then the variable is changed
in it, and what results is written; but a removal that finds nothing writes nothing.

The store in the middle, `r`, is where a call can go wrong without failing. Between `s` and
`r` the tier may lose what the file does not hold, and between `r` and `s'` nothing changes
but the variable. -/
structure Performed (c : VariableCall) (s : Store) (fs : FileSystem) (r s' : Store)
    (fs' : FileSystem) : Prop where
  /-- The tier is read anew. -/
  read : s.anew fs c.scope = .ok r
  /-- The variable is changed. -/
  edited : s' = c.edit r
  /-- The tier is written, unless it is as it was read. -/
  written : s'.saved fs c.scope = .ok fs' ∨ s' = r ∧ fs' = fs

section Rewriting

variable {reread save : Storing Unit}

/-- A tier is read anew, changed and written. -/
theorem exists_of_rewrite (h : Rewrites scope reread save) {f : Store → Store}
    (hdo : Yields (do reread; change f; save) (s, fs) (.ok ()) (s', fs')) :
    ∃ r, s.anew fs scope = .ok r ∧ s' = f r ∧ s'.saved fs scope = .ok fs' := by
  obtain ⟨⟨⟩, u, hread, hdo⟩ := yields_bind_ok_iff.mp hdo
  obtain ⟨r, hanew, rfl⟩ := h.read hread
  rw [change, yields_modify_bind_iff] at hdo
  obtain ⟨written, hsaved, ht⟩ := h.write hdo
  obtain ⟨rfl, rfl⟩ := Prod.mk.inj ht
  exact ⟨r, hanew, rfl, hsaved⟩

/-- A tier is read anew, and it is changed and written if there is something to change. -/
theorem exists_of_rewrite_if (h : Rewrites scope reread save) (there : Store → Bool)
    (f : Store → Store) (idle : ∀ r, there r = false → f r = r) {answer : Bool}
    (hdo : Yields (do
      reread
      let (s, _) ← get
      if there s then
        change f
        save
        return true
      else return false) (s, fs) (.ok answer) (s', fs')) :
    ∃ r, s.anew fs scope = .ok r ∧ s' = f r
      ∧ (s'.saved fs scope = .ok fs' ∨ s' = r ∧ fs' = fs) := by
  obtain ⟨⟨⟩, u, hread, hdo⟩ := yields_bind_ok_iff.mp hdo
  obtain ⟨r, hanew, rfl⟩ := h.read hread
  rw [yields_get_bind_iff] at hdo
  dsimp only at hdo
  split at hdo
  · rw [change, yields_modify_bind_iff] at hdo
    obtain ⟨⟨⟩, u, hwrite, hdo⟩ := yields_bind_ok_iff.mp hdo
    obtain ⟨written, hsaved, rfl⟩ := h.write hwrite
    obtain ⟨rfl, rfl⟩ := Prod.mk.inj (yields_pure_iff.mp hdo).2
    exact ⟨r, hanew, rfl, .inl hsaved⟩
  · rename_i hnot
    obtain ⟨rfl, rfl⟩ := Prod.mk.inj (yields_pure_iff.mp hdo).2
    exact ⟨_, hanew, (idle _ (Bool.eq_false_iff.mpr hnot)).symm, .inr ⟨rfl, rfl⟩⟩

end Rewriting

/-- To take out what is not there changes nothing. -/
theorem eraseField_of_isSome_eq_false {name : String} {m : List (String × String)}
    (h : (Document.field? name m).isSome = false) : Document.eraseField name m = m :=
  Document.eraseField_of_field? (Option.not_isSome_iff_eq_none.mp (Bool.eq_false_iff.mp h))

/-- **A call that succeeds does this**, whatever it is. The cases are the scope and the
kind of the call, and each of them is one of the two lemmas on rewriting, or a change in
memory. -/
theorem exists_of_perform (h : Yields c.perform (s, fs) (.ok ()) (s', fs')) :
    ∃ r, Performed c s fs r s' fs' := by
  obtain ⟨own, key, act⟩ := c
  cases act with
  | set now value expiry =>
    cases own with
    | cache =>
      obtain ⟨rfl, rfl⟩ := Prod.mk.inj (yields_modify_iff.mp h).2
      exact ⟨s, rfl, rfl, .inl rfl⟩
    | env =>
      obtain ⟨r, hread, hedit, hwrite⟩ := exists_of_rewrite rewrites_env h
      exact ⟨r, hread, hedit, .inl hwrite⟩
    | global =>
      obtain ⟨r, hread, hedit, hwrite⟩ := exists_of_rewrite rewrites_global h
      exact ⟨r, hread, hedit, .inl hwrite⟩
  | delete =>
    obtain ⟨answer, t, h, hpure⟩ := yields_bind_ok_iff.mp h
    obtain rfl := (yields_pure_iff.mp hpure).2
    cases own with
    | cache =>
      obtain ⟨rfl, rfl⟩ := Prod.mk.inj (yields_pure_iff.mp h).2
      exact ⟨s, rfl, rfl, .inl rfl⟩
    | env =>
      obtain ⟨r, hread, hedit, hwrite⟩ := exists_of_rewrite_if rewrites_env
        (fun s => (Document.field? (toUpper key) s.env).isSome)
        (fun s => { s with env := Document.eraseField (toUpper key) s.env })
        (fun r hnot => by rw [eraseField_of_isSome_eq_false hnot]) h
      exact ⟨r, hread, hedit, hwrite⟩
    | global =>
      obtain ⟨r, hread, hedit, hwrite⟩ := exists_of_rewrite_if rewrites_global
        (fun s => (Document.field? key s.global).isSome)
        (fun s => { s with global := Document.eraseField key s.global })
        (fun r hnot => by rw [eraseField_of_isSome_eq_false hnot]) h
      exact ⟨r, hread, hedit, hwrite⟩

/-- Reading a tier anew leaves the other tiers alone. -/
theorem sameTier_of_anew {own : Scope} (h : s.anew fs own = .ok r) (hne : scope ≠ own) :
    SameTier s r scope := by
  cases own with
  | cache =>
    cases h
    exact .refl s scope
  | env =>
    rcases anew_env_eq_ok_iff.mp h with ⟨-, rfl⟩ | ⟨path, env, -, -, rfl⟩
    · exact .refl _ scope
    · cases scope with
      | cache => exact rfl
      | env => exact absurd rfl hne
      | global => exact ⟨rfl, rfl⟩
  | global =>
    rcases anew_global_eq_ok_iff.mp h with ⟨-, rfl⟩ | ⟨path, global, -, -, rfl⟩
    · exact .refl _ scope
    · cases scope with
      | cache => exact rfl
      | env => exact ⟨rfl, rfl⟩
      | global => exact absurd rfl hne

/-- What reading a tier anew makes of it hangs on the tier. So it does not matter what was
done to the other tiers before. -/
theorem SameTier.exists_anew (h : SameTier s s' scope) {r' : Store}
    (hr' : s'.anew fs scope = .ok r') : ∃ r, s.anew fs scope = .ok r ∧ SameTier r r' scope := by
  cases scope with
  | cache =>
    cases hr'
    exact ⟨s, rfl, h⟩
  | env =>
    rcases anew_env_eq_ok_iff.mp hr' with ⟨hfile, rfl⟩ | ⟨path, env, hfile, henv, rfl⟩
    · exact ⟨s, anew_env_eq_ok_iff.mpr (.inl ⟨h.2 ▸ hfile, rfl⟩), h⟩
    · exact ⟨_, anew_env_eq_ok_iff.mpr (.inr ⟨path, env, h.2 ▸ hfile, henv, rfl⟩), rfl, h.2⟩
  | global =>
    rcases anew_global_eq_ok_iff.mp hr' with ⟨hfile, rfl⟩ | ⟨path, global, hfile, hglobal, rfl⟩
    · exact ⟨s, anew_global_eq_ok_iff.mpr (.inl ⟨h.2 ▸ hfile, rfl⟩), h⟩
    · exact ⟨_, anew_global_eq_ok_iff.mpr (.inr ⟨path, global, h.2 ▸ hfile, hglobal, rfl⟩),
        rfl, h.2⟩

/-- Reading a tier anew leaves the cache as it is. -/
theorem cache_of_anew (h : s.anew fs scope = .ok r) : r.cache = s.cache := by
  cases scope with
  | cache => cases h; rfl
  | env =>
    rcases anew_env_eq_ok_iff.mp h with ⟨-, rfl⟩ | ⟨path, env, -, -, rfl⟩ <;> rfl
  | global =>
    rcases anew_global_eq_ok_iff.mp h with ⟨-, rfl⟩ | ⟨path, global, -, -, rfl⟩ <;> rfl

/-- Reading a tier anew leaves it in its file. -/
theorem files_of_anew (h : s.anew fs scope = .ok r) :
    r.envFile = s.envFile ∧ r.globalFile = s.globalFile := by
  cases scope with
  | cache => cases h; exact ⟨rfl, rfl⟩
  | env =>
    rcases anew_env_eq_ok_iff.mp h with ⟨-, rfl⟩ | ⟨path, env, -, -, rfl⟩ <;> exact ⟨rfl, rfl⟩
  | global =>
    rcases anew_global_eq_ok_iff.mp h with ⟨-, rfl⟩ | ⟨path, global, -, -, rfl⟩ <;>
      exact ⟨rfl, rfl⟩

/-- Reading a tier anew once more makes no difference. -/
theorem anew_of_anew (h : s.anew fs scope = .ok r) : r.anew fs scope = .ok r := by
  cases scope with
  | cache => rfl
  | env =>
    rcases anew_env_eq_ok_iff.mp h with ⟨hfile, rfl⟩ | ⟨path, env, hfile, henv, rfl⟩
    · exact h
    · exact anew_env_eq_ok_iff.mpr (.inr ⟨path, env, hfile, henv, rfl⟩)
  | global =>
    rcases anew_global_eq_ok_iff.mp h with ⟨hfile, rfl⟩ | ⟨path, global, hfile, hglobal, rfl⟩
    · exact h
    · exact anew_global_eq_ok_iff.mpr (.inr ⟨path, global, hfile, hglobal, rfl⟩)

/-- Only in the cache it matters when a variable is looked up. -/
theorem lookup_at_any_time (h : scope ≠ .cache) (t t' : Moment) {key : String} :
    s.lookup t key (some scope) = s.lookup t' key (some scope) := by
  cases scope with
  | cache => exact absurd rfl h
  | env | global => rfl

namespace Performed

variable (h : Performed c s fs r s' fs')

include h

theorem sameTier (hne : scope ≠ c.scope) : SameTier s s' scope :=
  (sameTier_of_anew h.read hne).trans (h.edited ▸ VariableCall.sameTier_edit hne)

theorem files : s'.envFile = s.envFile ∧ s'.globalFile = s.globalFile := by
  have read := files_of_anew h.read
  have edited := c.files_edit r
  rw [h.edited]
  exact ⟨edited.1.trans read.1, edited.2.trans read.2⟩

theorem sound (sound : s.cache.Sound) : s'.cache.Sound :=
  h.edited ▸ VariableCall.sound_edit c (cache_of_anew h.read ▸ sound)

/-- **When a call changes only its variable**: when reading the tier anew changes nothing
that is found under the other keys. It is not asked what the file holds under the key of
the call, since that is changed afterwards in any case. -/
theorem only_iff (sound : s.cache.Sound) :
    c.ChangesOnly s s' ↔ ∀ t key, ¬ c.Concerns key c.scope →
      r.lookup t key (some c.scope) = s.lookup t key (some c.scope) := by
  have inMemory := c.changesOnly_edit (s := r) (cache_of_anew h.read ▸ sound)
  rw [← h.edited] at inMemory
  constructor
  · intro only t key hnot
    by_cases hscope : c.scope = .cache
    · -- the cache is kept in no file
      have read := h.read
      rw [hscope] at read
      rw [Except.ok.inj read]
    · -- what is found in the other tiers does not hang on the moment
      obtain ⟨later, hmade⟩ := c.exists_made
      have after := (inMemory later hmade key c.scope).symm.trans (only later hmade key c.scope)
      rw [if_neg hnot, if_neg hnot] at after
      rwa [lookup_at_any_time hscope t later, lookup_at_any_time hscope t later]
  · intro same later hmade key scope
    rw [inMemory later hmade key scope]
    by_cases hscope : scope = c.scope
    · subst hscope
      split
      · rfl
      · rename_i hnot
        exact same later key hnot
    · rw [if_neg fun hc => hscope hc.1, if_neg fun hc => hscope hc.1]
      exact (sameTier_of_anew h.read hscope).lookup later key

end Performed

end Store

end CaseRunner
