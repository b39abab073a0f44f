import CaseRunner.Proofs.Variables.Changing

/-!
# Calls that fail

To set or remove a variable of a tier that a file keeps fails if the file cannot be read
anew, or if what results cannot be written (`Store.Failed`). In the first case the store is
as it was. In the second one the tier has been read and the variable has been changed, and
the store keeps both, although no file has them. So a call that fails changes nothing
exactly if the file could not be read, or if what could not be written is what was found
before (`Store.unchanged_iff`).

A call that succeeds goes through the same steps, and what is known of them from there is
used here. All that is new is where each of them may stop. A step that fails leaves the
store as it finds it (`Store.Refuses`), so it is only the steps before it that have changed
anything.
-/

namespace CaseRunner

variable {c : VariableCall} {s s' r : Store} {fs fs' : FileSystem} {scope : Scope} {e : RunError}
  {t : Store × FileSystem}

/-- What is found in a tier that a file may keep, when the variable has been changed. -/
theorem VariableCall.lookup_edit (hscope : c.scope ≠ .cache) (later : Moment) (key : String) :
    (c.edit r).lookup later key (some c.scope) =
      if c.Concerns key c.scope then c.act.value? c.scope later
      else r.lookup later key (some c.scope) := by
  have concerns : c.Concerns key c.scope ↔ c.scope.nameOf key = c.scope.nameOf c.key :=
    and_iff_right rfl
  simp only [concerns]
  cases hown : c.scope with
  | cache => exact absurd hown hscope
  | env =>
    simp only [edit, hown, Store.lookup, Store.lookupIn, Scope.nameOf]
    exact field?_onFields .env (by decide) c.act _ _ r.env
  | global =>
    simp only [edit, hown, Store.lookup, Store.lookupIn, Scope.nameOf]
    exact field?_onFields .global (by decide) c.act _ _ r.global

namespace Store

open Text

/-! ## Where a call fails -/

/-- Reading the file that a tier is kept in, or writing it, fails if the file says so, and then
nothing is changed. -/
theorem yields_atFile_error {α : Type} (path? : Store → Option String)
    (answer : Store → FileSystem → String → Except RunError α)
    (update : Store → FileSystem → α → Store × FileSystem)
    (h : Yields (ε := RunError) (do
      let (s, fs) ← get
      if let some path := path? s then
        let a ← ExceptT.mk (pure (answer s fs path))
        set (update s fs a)) (s, fs) (.error e) t) :
    ∃ path, path? s = some path ∧ answer s fs path = .error e ∧ t = (s, fs) := by
  rw [yields_get_bind_iff] at h
  dsimp only at h
  split at h
  next path hfile =>
    rcases yields_bind_iff.mp h with ⟨a, u, -, hset⟩ | ⟨e', hask, he⟩
    · cases (yields_set_iff.mp hset).1
    · obtain ⟨hanswer, ht⟩ := yields_mk_pure_iff.mp hask
      cases he
      exact ⟨path, hfile, hanswer.symm, ht⟩
  next => cases (yields_pure_iff.mp h).1

/-- **Reading a tier anew and writing it** leave the store as it is when they fail. -/
structure Refuses (scope : Scope) (reread save : Storing Unit) : Prop where
  /-- The tier cannot be read. -/
  read {s : Store} {fs : FileSystem} {e : RunError} {t : Store × FileSystem} :
    Yields reread (s, fs) (.error e) t → s.anew fs scope = .error e ∧ t = (s, fs)
  /-- The tier cannot be written. -/
  write {s : Store} {fs : FileSystem} {e : RunError} {t : Store × FileSystem} :
    Yields save (s, fs) (.error e) t → s.saved fs scope = .error e ∧ t = (s, fs)

theorem refuses_env : Refuses .env rereadEnv saveEnv where
  read {s fs _ _} h := by
    obtain ⟨path, hfile, henv, ht⟩ := yields_atFile_error (·.envFile)
      (fun _ fs path => readEnv fs path) (fun s fs env => ({ s with env }, fs)) h
    refine ⟨?_, ht⟩
    dsimp only [anew]
    rw [hfile]
    dsimp only
    rw [henv]
    rfl
  write {s fs _ _} h := by
    obtain ⟨path, hfile, hwrite, ht⟩ := yields_atFile_error (·.envFile)
      (fun s fs path => writeFile fs path (DotEnv.write s.env)) (fun s _ fs => (s, fs)) h
    refine ⟨?_, ht⟩
    dsimp only [saved]
    rw [hfile]
    exact hwrite

theorem refuses_global : Refuses .global rereadGlobal saveGlobal where
  read {s fs _ _} h := by
    obtain ⟨path, hfile, hglobal, ht⟩ := yields_atFile_error (·.globalFile)
      (fun _ fs path => readGlobal fs path) (fun s fs global => ({ s with global }, fs)) h
    refine ⟨?_, ht⟩
    dsimp only [anew]
    rw [hfile]
    dsimp only
    rw [hglobal]
    rfl
  write {s fs _ _} h := by
    obtain ⟨path, hfile, hwrite, ht⟩ := yields_atFile_error (·.globalFile)
      (fun s fs path => writeFile fs path (Yaml.writeTexts s.global)) (fun s _ fs => (s, fs)) h
    refine ⟨?_, ht⟩
    dsimp only [saved]
    rw [hfile]
    exact hwrite

/-- **What a call does that fails.** There are two ways, by the step at which it stops, and
in the second one the store that is left is the one that a successful call would have left.
Nothing in the store tells the two calls apart. -/
inductive Failed (c : VariableCall) (s : Store) (fs : FileSystem) (e : RunError) : Store → Prop
  /-- The tier of its scope cannot be read anew, and the store stays as it is. -/
  | unread (read : s.anew fs c.scope = .error e) : Failed c s fs e s
  /-- The tier is read anew and the variable is changed in it, but what results cannot be
  written. It stays in the store. -/
  | unwritten {r : Store} (read : s.anew fs c.scope = .ok r)
      (written : (c.edit r).saved fs c.scope = .error e) : Failed c s fs e (c.edit r)

section Rewriting

variable {reread save : Storing Unit} {f : Store → Store}

/-- A tier that was read anew cannot be written when it is changed. -/
theorem failed_of_save (refuses : Refuses c.scope reread save) (hf : f = c.edit)
    (read : s.anew fs c.scope = .ok r)
    (h : Yields (do change f; save) (r, fs) (.error e) t) : Failed c s fs e t.1 := by
  subst hf
  rw [change, yields_modify_bind_iff] at h
  obtain ⟨written, rfl⟩ := refuses.write h
  exact .unwritten read written

/-- A tier cannot be read anew, or what comes after that fails. -/
theorem failed_of_bind (rewrites : Rewrites c.scope reread save)
    (refuses : Refuses c.scope reread save) {α : Type} {rest : Unit → Storing α}
    (hrest : ∀ r, s.anew fs c.scope = .ok r → Yields (rest ()) (r, fs) (.error e) t →
      Failed c s fs e t.1)
    (h : Yields (reread >>= rest) (s, fs) (.error e) t) : Failed c s fs e t.1 := by
  rcases yields_bind_iff.mp h with ⟨⟨⟩, u, hread, h⟩ | ⟨e', hread, he⟩
  · obtain ⟨r, read, rfl⟩ := rewrites.read hread
    exact hrest r read h
  · cases he
    obtain ⟨read, rfl⟩ := refuses.read hread
    exact .unread read

/-- A tier is read anew, and it is changed and written if there is something to change. -/
theorem failed_of_rewrite_if (rewrites : Rewrites c.scope reread save)
    (refuses : Refuses c.scope reread save) (there : Store → Bool) (hf : f = c.edit)
    (h : Yields (do
      reread
      let (s, _) ← get
      if there s then
        change f
        save
        return true
      else return false) (s, fs) (.error e) t) : Failed c s fs e t.1 := by
  refine failed_of_bind rewrites refuses (fun r read h => ?_) h
  rw [yields_get_bind_iff] at h
  dsimp only at h
  split at h
  · refine failed_of_save refuses hf read ?_
    rw [change, yields_modify_bind_iff] at h ⊢
    rcases yields_bind_iff.mp h with ⟨⟨⟩, u, -, hpure⟩ | ⟨e', hsave, he⟩
    · cases (yields_pure_iff.mp hpure).1
    · cases he
      exact hsave
  · cases (yields_pure_iff.mp h).1

end Rewriting

/-- **A call that fails does this**, whatever it is, and it is not about the cache. The
cache is kept in no file, and to change it cannot fail. -/
theorem failed_of_perform (h : Yields c.perform (s, fs) (.error e) t) :
    c.scope ≠ .cache ∧ Failed c s fs e t.1 := by
  obtain ⟨own, key, act⟩ := c
  cases act with
  | set now value expiry =>
    cases own with
    | cache => cases (yields_modify_iff.mp h).1
    | env =>
      exact ⟨nofun, failed_of_bind rewrites_env refuses_env
        (fun _ => failed_of_save refuses_env rfl) h⟩
    | global =>
      exact ⟨nofun, failed_of_bind rewrites_global refuses_global
        (fun _ => failed_of_save refuses_global rfl) h⟩
  | delete =>
    rcases yields_bind_iff.mp h with ⟨answer, u, -, hpure⟩ | ⟨e', h, he⟩
    · cases (yields_pure_iff.mp hpure).1
    · cases he
      cases own with
      | cache => cases (yields_pure_iff.mp h).1
      | env =>
        exact ⟨nofun, failed_of_rewrite_if rewrites_env refuses_env
          (fun s => (Document.field? (toUpper key) s.env).isSome) rfl h⟩
      | global =>
        exact ⟨nofun, failed_of_rewrite_if rewrites_global refuses_global
          (fun s => (Document.field? key s.global).isSome) rfl h⟩

/-! ## What a call changes that fails -/

/-- **Two stores are alike**: whatever is looked up is the same in both, in one scope or in the
first that has it. -/
def Alike (s s' : Store) : Prop :=
  ∀ t key scope?, s'.lookup t key scope? = s.lookup t key scope?

theorem alike_iff : s.Alike s' ↔
    ∀ t key scope, s'.lookup t key (some scope) = s.lookup t key (some scope) := by
  refine ⟨fun h t key scope => h t key (some scope), fun h t key scope? => ?_⟩
  cases scope? with
  | some scope => exact h t key scope
  | none =>
    have each (scope : Scope) : s'.lookupIn t key scope = s.lookupIn t key scope := h t key scope
    simp only [lookup, each]

/-- **When a call that fails changes nothing**: when the tier of its scope cannot be read
anew, for then the store is as it was; or when reading it and changing the variable makes
no difference to what is found. The other scopes are never changed. So in a tier that is
settled the variable, and no other, is found with the value that could not be written.

The first part is exact, and its second alternative is the rare one: it takes that the
value which is set was there before. The last part is what is met in practice, as a tier is
settled whenever it was opened and not seeded. -/
theorem unchanged_iff (h : Yields c.perform (s, fs) (.error e) (s', fs')) :
    (s.Alike s' ↔ s.anew fs c.scope = .error e ∨ ∃ r, s.anew fs c.scope = .ok r
        ∧ ∀ t key, s.lookup t key (some c.scope) =
          if c.Concerns key c.scope then c.act.value? c.scope t
          else r.lookup t key (some c.scope))
      ∧ (∀ scope ≠ c.scope, ∀ t key,
          s'.lookup t key (some scope) = s.lookup t key (some scope))
      ∧ (s.anew fs c.scope = .error e → s' = s)
      ∧ ((∃ r, s.anew fs c.scope = .ok r) → s.Settled fs c.scope → ∀ t key,
          s'.lookup t key (some c.scope) =
            if c.Concerns key c.scope then c.act.value? c.scope t
            else s.lookup t key (some c.scope)) := by
  obtain ⟨hscope, failed⟩ := failed_of_perform h
  dsimp only at failed
  cases failed with
  | unread read =>
    refine ⟨iff_of_true (fun _ _ _ => rfl) (.inl read), fun _ _ _ _ => rfl, fun _ => rfl, ?_⟩
    rintro ⟨r, hr⟩
    cases read.symm.trans hr
  | @unwritten r read written =>
    have others : ∀ scope ≠ c.scope, ∀ t key,
        (c.edit r).lookup t key (some scope) = s.lookup t key (some scope) :=
      fun scope hne t key =>
        ((sameTier_of_anew read hne).trans (VariableCall.sameTier_edit hne)).lookup t key
    refine ⟨?_, others, fun hread => ?_, fun _ settled t key => ?_⟩
    · rw [alike_iff]
      constructor
      · intro same
        refine .inr ⟨r, read, fun t key => ?_⟩
        rw [← same t key c.scope, VariableCall.lookup_edit hscope]
      · rintro (hread | ⟨r', hr', same⟩) t key scope
        · cases read.symm.trans hread
        · obtain rfl := Except.ok.inj (read.symm.trans hr')
          by_cases hown : scope = c.scope
          · rw [hown, VariableCall.lookup_edit hscope, same t key]
          · exact others scope hown t key
    · cases read.symm.trans hread
    · rw [VariableCall.lookup_edit hscope, settled r read]

/-- A file that has become unreadable leaves a seeded variable in the store, and a file in the
place of a directory leaves the variable there that it keeps from being written. -/
theorem unchanged_of_bytes :
    let setToken : VariableCall := ⟨.env, "token", .set 0 "2" none⟩
    let seeded : Store := homeStore.withEnv [("token", "1")]
    let bytes : FileSystem := ⟨[(["dev.env"], .file (.bytes [0xff]))]⟩
    let blocked : Store := { envFile := some "d/dev.env", globalFile := some "g.yaml" }
    let blocking : FileSystem := ⟨[(["d"], .file (.text ""))]⟩
    (∃ e, Yields setToken.perform (seeded, bytes) (.error e) (seeded, bytes)
        ∧ seeded.Alike seeded ∧ seeded.lookup 0 "token" none = some "1")
      ∧ «open» blocking "d/dev.env" "g.yaml" = .ok blocked
      ∧ ∃ e s', Yields setToken.perform (blocked, blocking) (.error e) (s', blocking)
        ∧ s'.lookup 0 "TOKEN" (some .env) = some "2" ∧ s'.lookup 0 "host" (some .env) = none := by
  intro setToken seeded bytes blocked blocking
  have unread : Yields setToken.perform (seeded, bytes)
      (.error (.io "stream did not contain valid UTF-8")) (seeded, bytes) := by decide +kernel
  have opened : «open» blocking "d/dev.env" "g.yaml" = .ok blocked := by decide +kernel
  have unwritten : Yields setToken.perform (blocked, blocking)
      (.error (.io "File exists (os error 17)"))
      ({ blocked with env := [("TOKEN", "2")] }, blocking) := by decide +kernel
  have read : blocked.anew blocking .env = .ok blocked := by decide +kernel
  have found := (unchanged_iff unwritten).2.2.2 ⟨blocked, read⟩ (settled_of_open opened .env)
  refine ⟨⟨_, unread, (unchanged_iff unread).1.mpr (.inl (by decide +kernel)), by decide +kernel⟩,
    opened, _, _, unwritten, ?_, ?_⟩
  · exact (found 0 "TOKEN").trans (by decide +kernel)
  · exact (found 0 "host").trans (by decide +kernel)

/-- **A variable that could not be written is found afterwards.** The call says that it has
failed, and whoever asks for the variable is told the value all the same, until the tier is
read anew. -/
theorem finds_unwritten :
    let blocking : FileSystem := ⟨[(["d"], .file (.text ""))]⟩
    ∃ s s' e, «open» blocking "d/dev.env" "g.yaml" = .ok s
      ∧ Yields (put 0 "token" "1" .env none) (s, blocking) (.error e) (s', blocking)
      ∧ s.lookup 0 "token" (some .env) = none ∧ s'.lookup 0 "token" (some .env) = some "1"
      ∧ ¬ s.Alike s' := by
  intro blocking
  let before : Store := { envFile := some "d/dev.env", globalFile := some "g.yaml" }
  let after : Store := { before with env := [("TOKEN", "1")] }
  have absent : before.lookup 0 "token" (some .env) = none := by decide +kernel
  have found : after.lookup 0 "token" (some .env) = some "1" := by decide +kernel
  refine ⟨before, after, .io "File exists (os error 17)", by decide +kernel, by decide +kernel,
    absent, found, fun alike => ?_⟩
  exact nomatch (found.symm.trans (alike 0 "token" (some .env))).trans absent

end Store

end CaseRunner
