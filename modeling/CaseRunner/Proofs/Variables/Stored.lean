import CaseRunner.Proofs.FileSystem
import CaseRunner.Variables.Store

/-!
# Changing variables that files keep

What it takes to set or remove a variable of a tier that a file keeps, and what comes of
it: the file is read again, the entry is put into what was read or taken out of it, and the
tier that results is written, unless there was nothing to take out. What is written into a
file is what the file is read as.

So what the store held in memory plays no part in what is written. Two stores on one file
see each other's changes for this reason, and for the same reason a store can lose what it
held.
-/

namespace CaseRunner.Store

deriving instance DecidableEq for CacheEntry, Cache, Store, FileSystem

variable {s : Store} {fs fs' : FileSystem} {t : Store × FileSystem} {path : String}

/-- **What is written into a file can be read there.** A file that is written is there, so
the case in which it is missing, and holds nothing, cannot come up. -/
theorem readIfThere_of_writeFile {content : String} (h : writeFile fs path content = .ok fs') :
    readIfThere fs' path = .ok (some content) := by
  rw [writeFile, mapError_eq_ok_iff] at h
  obtain ⟨made, hwrite⟩ : ∃ made, FileSystem.write made path content = .ok fs' := by
    split at h
    · exact ⟨fs, h⟩
    · exact ⟨fs, h⟩
    · obtain ⟨made, -, h⟩ := bind_eq_ok_iff.mp h
      exact ⟨made, h⟩
  have found := FileSystem.find_of_write hwrite
  rw [readIfThere, if_pos (FileSystem.exists_of_find found), FileSystem.readText_of_find found]
  rfl

/-- What a store holds that is opened on two files. -/
theorem exists_of_open {envFile globalFile : String}
    (h : «open» fs envFile globalFile = .ok s) :
    ∃ env global, readEnv fs envFile = .ok env ∧ readGlobal fs globalFile = .ok global
      ∧ s = { env, envFile, global, globalFile } := by
  obtain ⟨env, henv, h⟩ := bind_eq_ok_iff.mp h
  obtain ⟨global, hglobal, h⟩ := bind_eq_ok_iff.mp h
  exact ⟨env, global, henv, hglobal, (Except.ok.inj h).symm⟩

/-! ## Reading and writing a tier -/

/-- **Reading the file that a tier is kept in, or writing it**, succeeds if the file says
so. The four computations that do so differ in the tier, in what they ask of the file and
in what they do with the answer, and are here one computation with these three as
parameters. -/
theorem yields_atFile_iff {α : Type} (path? : Store → Option String)
    (answer : Store → FileSystem → String → Except RunError α)
    (update : Store → FileSystem → α → Store × FileSystem) (hfile : path? s = some path) :
    Yields (ε := RunError) (do
      let (s, fs) ← get
      if let some path := path? s then
        let a ← ExceptT.mk (pure (answer s fs path))
        set (update s fs a)) (s, fs) (.ok ()) t ↔
      ∃ a, answer s fs path = .ok a ∧ t = update s fs a := by
  rw [yields_get_bind_iff]
  dsimp only
  rw [hfile]
  dsimp only
  rw [yields_bind_ok_iff]
  constructor
  · rintro ⟨a, u, hask, hset⟩
    obtain ⟨hanswer, rfl⟩ := yields_mk_pure_iff.mp hask
    exact ⟨a, hanswer.symm, (yields_set_iff.mp hset).2⟩
  · rintro ⟨a, hanswer, rfl⟩
    exact ⟨a, (s, fs), yields_mk_pure_iff.mpr ⟨hanswer.symm, rfl⟩,
      yields_set_iff.mpr ⟨rfl, rfl⟩⟩

theorem yields_rereadEnv_iff (hfile : s.envFile = some path) :
    Yields rereadEnv (s, fs) (.ok ()) t ↔
      ∃ env, readEnv fs path = .ok env ∧ t = ({ s with env }, fs) :=
  yields_atFile_iff (·.envFile) (fun _ fs path => readEnv fs path)
    (fun s fs env => ({ s with env }, fs)) hfile

theorem yields_rereadGlobal_iff (hfile : s.globalFile = some path) :
    Yields rereadGlobal (s, fs) (.ok ()) t ↔
      ∃ global, readGlobal fs path = .ok global ∧ t = ({ s with global }, fs) :=
  yields_atFile_iff (·.globalFile) (fun _ fs path => readGlobal fs path)
    (fun s fs global => ({ s with global }, fs)) hfile

theorem yields_saveEnv_iff (hfile : s.envFile = some path) :
    Yields saveEnv (s, fs) (.ok ()) t ↔
      ∃ fs', writeFile fs path (DotEnv.write s.env) = .ok fs' ∧ t = (s, fs') :=
  yields_atFile_iff (·.envFile) (fun s fs path => writeFile fs path (DotEnv.write s.env))
    (fun s _ fs => (s, fs)) hfile

theorem yields_saveGlobal_iff (hfile : s.globalFile = some path) :
    Yields saveGlobal (s, fs) (.ok ()) t ↔
      ∃ fs', writeFile fs path (Yaml.writeTexts s.global) = .ok fs' ∧ t = (s, fs') :=
  yields_atFile_iff (·.globalFile)
    (fun s fs path => writeFile fs path (Yaml.writeTexts s.global))
    (fun s _ fs => (s, fs)) hfile

/-! ## Setting and removing a variable -/

/-- **Setting a variable of the environment**: it is put into what the file holds. It is
put there in upper case, and whatever the store held under another key is replaced by what
the file holds. -/
theorem exists_of_put_env {now : Moment} {key value : String} {expiry : Option Moment}
    (hfile : s.envFile = some path)
    (h : Yields (put now key value .env expiry) (s, fs) (.ok ()) t) :
    ∃ env fs', readEnv fs path = .ok env
      ∧ writeFile fs path (DotEnv.write (Document.insertField (Text.toUpper key) value env))
          = .ok fs'
      ∧ t = ({ s with env := Document.insertField (Text.toUpper key) value env }, fs') := by
  obtain ⟨⟨⟩, u, hreread, h⟩ := yields_bind_ok_iff.mp h
  obtain ⟨env, henv, rfl⟩ := (yields_rereadEnv_iff hfile).mp hreread
  rw [change, yields_modify_bind_iff] at h
  obtain ⟨fs', hwrite, ht⟩ := (yields_saveEnv_iff
    (s := { s with env := Document.insertField (Text.toUpper key) value env }) hfile).mp h
  exact ⟨env, fs', henv, hwrite, ht⟩

/-- **Setting a global variable**: it is put into what the file holds. -/
theorem exists_of_put_global {now : Moment} {key value : String} {expiry : Option Moment}
    (hfile : s.globalFile = some path)
    (h : Yields (put now key value .global expiry) (s, fs) (.ok ()) t) :
    ∃ global fs', readGlobal fs path = .ok global
      ∧ writeFile fs path (Yaml.writeTexts (Document.insertField key value global)) = .ok fs'
      ∧ t = ({ s with global := Document.insertField key value global }, fs') := by
  obtain ⟨⟨⟩, u, hreread, h⟩ := yields_bind_ok_iff.mp h
  obtain ⟨global, hglobal, rfl⟩ := (yields_rereadGlobal_iff hfile).mp hreread
  rw [change, yields_modify_bind_iff] at h
  obtain ⟨fs', hwrite, ht⟩ := (yields_saveGlobal_iff
    (s := { s with global := Document.insertField key value global }) hfile).mp h
  exact ⟨global, fs', hglobal, hwrite, ht⟩

/-- **Removing a global variable**: it is taken out of what the file holds, or it is not
there and nothing is written. In the second case the tier has still been read anew, so that
a removal that finds nothing can change what the store holds. -/
theorem exists_of_delete_global {key : String} {there : Bool}
    (hfile : s.globalFile = some path)
    (h : Yields (delete key .global) (s, fs) (.ok there) t) :
    ∃ global, readGlobal fs path = .ok global
      ∧ there = (Document.field? key global).isSome
      ∧ ((there = false ∧ t = ({ s with global }, fs))
        ∨ (there = true ∧ ∃ fs',
            writeFile fs path (Yaml.writeTexts (Document.eraseField key global)) = .ok fs'
              ∧ t = ({ s with global := Document.eraseField key global }, fs'))) := by
  obtain ⟨⟨⟩, u, hreread, h⟩ := yields_bind_ok_iff.mp h
  obtain ⟨global, hglobal, rfl⟩ := (yields_rereadGlobal_iff hfile).mp hreread
  rw [yields_get_bind_iff] at h
  dsimp only at h
  refine ⟨global, hglobal, ?_⟩
  split at h
  · rename_i hthere
    rw [change, yields_modify_bind_iff] at h
    obtain ⟨⟨⟩, u, hsave, h⟩ := yields_bind_ok_iff.mp h
    obtain ⟨fs', hwrite, hu⟩ := (yields_saveGlobal_iff
      (s := { s with global := Document.eraseField key global }) hfile).mp hsave
    obtain ⟨hanswer, ht⟩ := yields_pure_iff.mp h
    obtain rfl := Except.ok.inj hanswer
    exact ⟨hthere.symm, .inr ⟨rfl, fs', hwrite, ht.trans hu⟩⟩
  · rename_i hthere
    obtain ⟨hanswer, rfl⟩ := yields_pure_iff.mp h
    obtain rfl := Except.ok.inj hanswer
    exact ⟨(Bool.eq_false_iff.mpr hthere).symm, .inl ⟨rfl, rfl⟩⟩

end CaseRunner.Store
