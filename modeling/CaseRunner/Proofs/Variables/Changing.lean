import CaseRunner.Proofs.Variables.Calls
import CaseRunner.Proofs.Variables.EnvFile
import CaseRunner.Proofs.Variables.GlobalFile

/-!
# One variable at a time

When does a call that sets or removes a variable change only this variable? When no file
keeps the tier, or when the tier is *settled* (`Store.Settled`): reading it anew from its
file changes nothing that is found there. A tier is settled when it was opened
(`Store.settled_of_open`), and again after each call that changes it, if what is written is
read as it was written (`Store.Lasting`); seeding it is what unsettles it. This carries
through calls in turn, as long as nobody else writes the files (`Store.Course.settled`).

With that, `Store.changesOnly_iff` says of every call, whatever calls were made before,
when it changes one variable only.

The exact condition is about the moment of the call: what would be read from the file, and
what is held. It says what has to be so, but not how to see to it. The two conditions that
follow can be seen to: they are about how the store was begun and about what was written.
-/

namespace CaseRunner.Store

open Text

variable {c : VariableCall} {calls : List VariableCall} {s s' r s₀ : Store}
  {fs fs' fs₀ : FileSystem} {scope : Scope}

/-! ## Settled tiers -/

/-- **The tier of a scope is settled**: reading it anew changes nothing that is found
there. It may change the tier itself, as long as this does not show. And if the tier cannot
be read at all there is nothing to ask, since then no call goes through. -/
def Settled (s : Store) (fs : FileSystem) (scope : Scope) : Prop :=
  ∀ r, s.anew fs scope = .ok r → ∀ t key,
    r.lookup t key (some scope) = s.lookup t key (some scope)

/-- **The tier of a scope lasts**: if a file keeps it, what is written for it is read as it
was written. For the environment there is an exact condition on each of its entries. For
the global tier it is assumed of the whole map that writing and parsing it gives the map.
-/
def Lasting (s : Store) : Scope → Prop
  | .cache => True
  | .env => s.envFile = none ∨ ∀ e ∈ s.env, DotEnv.Lasts e
  | .global => s.globalFile = none ∨ Globals.Parses s.global

theorem settled_of_anew (h : s.anew fs scope = .ok s) : s.Settled fs scope := by
  intro r hr t key
  rw [Except.ok.inj (hr.symm.trans h)]

/-- A store that was opened is settled. -/
theorem settled_of_open {envFile globalFile : String}
    (h : «open» fs envFile globalFile = .ok s) (scope : Scope) : s.Settled fs scope := by
  obtain ⟨env, global, henv, hglobal, rfl⟩ := exists_of_open h
  refine settled_of_anew ?_
  cases scope with
  | cache => rfl
  | env => exact anew_env_eq_ok_iff.mpr (.inr ⟨envFile, env, rfl, henv, rfl⟩)
  | global => exact anew_global_eq_ok_iff.mpr (.inr ⟨globalFile, global, rfl, hglobal, rfl⟩)

/-- A store that lives in memory is settled, with whatever it was seeded. So seeding does
harm only where there are files, in which the seeds are not. -/
theorem settled_of_memory (henv : s.envFile = none) (hglobal : s.globalFile = none)
    (fs : FileSystem) (scope : Scope) : s.Settled fs scope := by
  refine settled_of_anew ?_
  cases scope with
  | cache => rfl
  | env => exact anew_env_eq_ok_iff.mpr (.inl ⟨henv, rfl⟩)
  | global => exact anew_global_eq_ok_iff.mpr (.inl ⟨hglobal, rfl⟩)

/-- A tier that is the same, and whose file is read as before, is settled as before. -/
theorem SameTier.settled (h : SameTier s s' scope) (hfs : s.anew fs' scope = s.anew fs scope)
    (settled : s.Settled fs scope) : s'.Settled fs' scope := by
  intro r' hr' t key
  obtain ⟨r, hr, same⟩ := h.exists_anew hr'
  calc r'.lookup t key (some scope)
      = r.lookup t key (some scope) := same.lookup t key
    _ = s.lookup t key (some scope) := settled r (hfs ▸ hr) t key
    _ = s'.lookup t key (some scope) := (h.lookup t key).symm

/-- A tier that is the same lasts as well. -/
theorem SameTier.lasting (h : SameTier s s' scope) (lasting : s'.Lasting scope) :
    s.Lasting scope := by
  cases scope with
  | cache => trivial
  | env =>
    obtain ⟨tier, file⟩ := h
    exact lasting.imp file.symm.trans (tier ▸ ·)
  | global =>
    obtain ⟨tier, file⟩ := h
    exact lasting.imp file.symm.trans (tier ▸ ·)

/-- What was written for an environment is read as the environment. -/
theorem anew_of_saved_env (h : s.saved fs .env = .ok fs')
    (kept : s.envFile ≠ none → DotEnv.WellKept s.env) (lasting : s.Lasting .env) :
    s.anew fs' .env = .ok s := by
  cases hfile : s.envFile with
  | none => exact anew_env_eq_ok_iff.mpr (.inl ⟨hfile, rfl⟩)
  | some path =>
    have there : s.envFile ≠ none := hfile ▸ nofun
    dsimp only [saved] at h
    rw [hfile] at h
    have read := readEnv_of_writeFile h
    rw [DotEnv.read_write (kept there) (lasting.resolve_left there)] at read
    exact anew_env_eq_ok_iff.mpr (.inr ⟨path, s.env, hfile, read, rfl⟩)

/-- What was written for a global tier is read as the tier. -/
theorem anew_of_saved_global (h : s.saved fs .global = .ok fs') (lasting : s.Lasting .global) :
    s.anew fs' .global = .ok s := by
  cases hfile : s.globalFile with
  | none => exact anew_global_eq_ok_iff.mpr (.inl ⟨hfile, rfl⟩)
  | some path =>
    dsimp only [saved] at h
    rw [hfile] at h
    have read := readGlobal_of_writeFile (lasting.resolve_left (hfile ▸ nofun)) h
    exact anew_global_eq_ok_iff.mpr (.inr ⟨path, s.global, hfile, read, rfl⟩)

/-- What a call makes of a well-kept environment is well kept. -/
theorem wellKept_onFields {m : DotEnv.Entries} (kept : DotEnv.WellKept m)
    (act : VariableCall.Act) (key : String) : DotEnv.WellKept (act.onFields (toUpper key) m) := by
  cases act with
  | set now value expiry => exact kept.insertField key value
  | delete => exact kept.eraseField (toUpper key)

/-- An environment that a call leaves in a file is well kept. -/
theorem Performed.wellKept (h : Performed c s fs r s' fs') (hscope : c.scope = .env)
    (hfile : s'.envFile ≠ none) : DotEnv.WellKept s'.env := by
  have read := h.read
  have edited := h.edited
  rw [hscope] at read
  rw [VariableCall.edit, hscope] at edited
  subst edited
  rcases anew_env_eq_ok_iff.mp read with ⟨hnone, rfl⟩ | ⟨path, env, -, henv, rfl⟩
  · exact absurd hnone hfile
  · exact wellKept_onFields (wellKept_of_readEnv henv) c.act c.key

/-- **A call settles the tier that it changes**, if the tier lasts. Whatever the tier was
before, it is now what was written, and reading it anew gives it back. This holds even of a
removal that found nothing: it wrote nothing, but has read the tier anew. -/
theorem Performed.settled (h : Performed c s fs r s' fs') (lasting : s'.Lasting c.scope) :
    s'.Settled fs' c.scope := by
  refine settled_of_anew ?_
  rcases h.written with saved | ⟨rfl, rfl⟩
  · cases hscope : c.scope with
    | cache => rfl
    | env =>
      rw [hscope] at saved lasting
      exact anew_of_saved_env saved (h.wellKept hscope) lasting
    | global =>
      rw [hscope] at saved lasting
      exact anew_of_saved_global saved lasting
  · exact anew_of_anew h.read

/-! ## Calls in turn -/

/-- **Calls in turn, while nobody else writes the files of the store**, and what they make
of a store and the files.

Files may change otherwise in any way, also in between. All that is asked is that the files
of the store are read as before, which leaves it open how they are kept and what else is in
them. The same is asked of a call for the files of the other scopes: were the environment
and the global tier kept in one file, each call would destroy what the last one has
written. -/
inductive Course (s₀ : Store) (fs₀ : FileSystem) : List VariableCall → Store → FileSystem → Prop
  | nil : Course s₀ fs₀ [] s₀ fs₀
  /-- A call; the files of the other scopes are read as before. -/
  | call {calls : List VariableCall} {c : VariableCall} {s s' : Store} {fs fs' : FileSystem}
      (before : Course s₀ fs₀ calls s fs) (does : Yields c.perform (s, fs) (.ok ()) (s', fs'))
      (others : ∀ scope ≠ c.scope, s.anew fs' scope = s.anew fs scope) :
      Course s₀ fs₀ (calls ++ [c]) s' fs'
  /-- Whatever else happens to the files; those of the store are read as before. -/
  | aside {calls : List VariableCall} {s : Store} {fs fs' : FileSystem}
      (before : Course s₀ fs₀ calls s fs)
      (files : ∀ scope, s.anew fs' scope = s.anew fs scope) : Course s₀ fs₀ calls s fs'

namespace Course

variable (course : Course s₀ fs₀ calls s fs)

include course

theorem sound (sound : s₀.cache.Sound) : s.cache.Sound := by
  induction course with
  | nil => exact sound
  | call _ does _ ih =>
    obtain ⟨r, performed⟩ := exists_of_perform does
    exact performed.sound ih
  | aside _ _ ih => exact ih

/-- The tiers stay in their files. -/
theorem files : s.envFile = s₀.envFile ∧ s.globalFile = s₀.globalFile := by
  induction course with
  | nil => exact ⟨rfl, rfl⟩
  | call _ does _ ih =>
    obtain ⟨r, performed⟩ := exists_of_perform does
    exact ⟨performed.files.1.trans ih.1, performed.files.2.trans ih.2⟩
  | aside _ _ ih => exact ih

/-- **Where a tier is settled**: if it was so at first, or if some call has changed it
since and it lasts. By induction on the course: a call in the scope settles the tier, and a
call in another one leaves it as it is. It suffices that the tier lasts now, as what was in
it at earlier moments has been read and written again since. -/
theorem settled (first : scope ∉ calls.map (·.scope) → s₀.Settled fs₀ scope)
    (since : scope ∈ calls.map (·.scope) → s.Lasting scope) : s.Settled fs scope := by
  induction course with
  | nil => exact first List.not_mem_nil
  | @call calls c s s' fs fs' _ does others ih =>
    obtain ⟨r, performed⟩ := exists_of_perform does
    by_cases hscope : scope = c.scope
    · subst hscope
      exact performed.settled (since (by simp))
    · have iff : scope ∈ (calls ++ [c]).map (·.scope) ↔ scope ∈ calls.map (·.scope) := by
        simp [hscope]
      rw [iff] at first since
      have same := performed.sameTier hscope
      exact same.settled (others scope hscope) (ih first fun h => same.lasting (since h))
  | @aside calls s fs fs' _ files ih =>
    exact (SameTier.refl s scope).settled (files scope) (ih first since)

end Course

/-- **When a call changes one variable only.** A store that begins anyhow makes calls in
turn while nobody else writes its files, and one more call that succeeds. Then the tier of
the scope of the call can be read anew, and the call changes its variable and no other
exactly if this changes nothing that is found under the other keys. It is always so in
memory; and on files it is so if the tier was settled at first, in case no call has changed
it since, and if it lasts, in case some call has.

Where it fails, two things can be the reason. The tier was seeded and the seeds are in no
file: then the first call in its scope loses them. Or something was written that is not
read as it was written: then the next call loses it, or changes it. -/
theorem changesOnly_iff (sound : s₀.cache.Sound) (course : Course s₀ fs₀ calls s fs)
    (h : Yields c.perform (s, fs) (.ok ()) (s', fs')) :
    (∃ r, s.anew fs c.scope = .ok r
        ∧ (c.ChangesOnly s s' ↔ ∀ t key, ¬ c.Concerns key c.scope →
          r.lookup t key (some c.scope) = s.lookup t key (some c.scope)))
      ∧ (s₀.envFile = none → s₀.globalFile = none → c.ChangesOnly s s')
      ∧ ((c.scope ∉ calls.map (·.scope) → s₀.Settled fs₀ c.scope) →
          (c.scope ∈ calls.map (·.scope) → s.Lasting c.scope) → c.ChangesOnly s s') := by
  obtain ⟨r, performed⟩ := exists_of_perform h
  have only := performed.only_iff (course.sound sound)
  have of_settled (settled : s.Settled fs c.scope) : c.ChangesOnly s s' :=
    only.mpr fun t key _ => settled r performed.read t key
  refine ⟨⟨r, performed.read, only⟩, fun henv hglobal => ?_, fun first since => ?_⟩
  · obtain ⟨env, global⟩ := course.files
    exact of_settled (settled_of_memory (env.trans henv) (global.trans hglobal) fs c.scope)
  · exact of_settled (course.settled first since)

/-- A token is set in a store on files whose global tier was seeded; then the host is
removed. The token stays, and so does what the global tier was seeded with. -/
theorem changesOnly_of_home :
    let setToken : VariableCall := ⟨.env, "token", .set 0 "a b" none⟩
    let deleteHost : VariableCall := ⟨.env, "host", .delete⟩
    «open» homeFiles "dev.env" "g.yaml" = .ok homeStore
      ∧ ∃ s fs s' fs', Course (homeStore.withGlobal [("region", "eu")]) homeFiles [setToken] s fs
        ∧ Yields deleteHost.perform (s, fs) (.ok ()) (s', fs') ∧ deleteHost.ChangesOnly s s'
        ∧ s'.lookup 0 "host" (some .env) = none ∧ s'.lookup 0 "token" (some .env) = some "a b"
        ∧ s'.lookup 0 "region" (some .global) = some "eu" := by
  intro setToken deleteHost
  let before : Store := homeStore.withGlobal [("region", "eu")]
  let between : Store := { before with env := [("HOST", "h"), ("TOKEN", "a b")] }
  let files : FileSystem := ⟨[(["dev.env"], .file (.text "HOST=h\nTOKEN=\"a b\"\n"))]⟩
  let after : Store := { before with env := [("TOKEN", "a b")] }
  let files' : FileSystem := ⟨[(["dev.env"], .file (.text "TOKEN=\"a b\"\n"))]⟩
  have set : Yields setToken.perform (before, homeFiles) (.ok ()) (between, files) := by
    decide +kernel
  have removed : Yields deleteHost.perform (between, files) (.ok ()) (after, files') := by
    decide +kernel
  have others : ∀ scope ≠ setToken.scope,
      before.anew files scope = before.anew homeFiles scope := by
    intro scope hscope
    cases scope with
    | cache => rfl
    | env => exact absurd rfl hscope
    | global => decide +kernel
  have course : Course before homeFiles [setToken] between files := .call .nil set others
  have lasting : between.Lasting .env := by
    refine .inr fun e he => ?_
    rcases List.mem_pair.mp he with rfl | rfl
    · exact ⟨⟨by decide, by decide, by decide, by decide⟩, by decide, by decide⟩
    · exact ⟨⟨by decide, by decide, by decide, by decide⟩, by decide, by decide⟩
  refine ⟨by decide +kernel, between, files, after, files', course, removed, ?_, by decide +kernel⟩
  exact (changesOnly_iff Cache.sound_empty course removed).2.2
    (fun h => absurd List.mem_cons_self h) fun _ => lasting

/-- **A seeded variable is lost when another one is set**, for the file does not have it,
and a value in quotes loses them when yet another one is set, for it is not written as it
is read. -/
theorem not_changesOnly_of_seeded :
    let setToken : VariableCall := ⟨.env, "token", .set 0 "\"a\"" none⟩
    let setOther : VariableCall := ⟨.env, "other", .set 0 "1" none⟩
    ∃ opened s fs s' fs', «open» .empty "dev.env" "g.yaml" = .ok opened
      ∧ Yields setToken.perform (opened.withEnv [("host", "http://h")], .empty) (.ok ()) (s, fs)
      ∧ ¬ setToken.ChangesOnly (opened.withEnv [("host", "http://h")]) s
      ∧ Yields setOther.perform (s, fs) (.ok ()) (s', fs') ∧ ¬ setOther.ChangesOnly s s' := by
  intro setToken setOther
  let opened : Store := { envFile := some "dev.env", globalFile := some "g.yaml" }
  let one : Store := { opened with env := [("TOKEN", "\"a\"")] }
  let two : Store := { opened with env := [("OTHER", "1"), ("TOKEN", "a")] }
  refine ⟨opened, one, ⟨[(["dev.env"], .file (.text "TOKEN=\"a\"\n"))]⟩, two,
    ⟨[(["dev.env"], .file (.text "OTHER=1\nTOKEN=a\n"))]⟩, by decide +kernel, by decide +kernel,
    fun only => ?_, by decide +kernel, fun only => ?_⟩
  · exact absurd (only 0 (Int.le_refl 0) "host" .env) (by decide +kernel)
  · exact absurd (only 0 (Int.le_refl 0) "token" .env) (by decide +kernel)

end CaseRunner.Store
