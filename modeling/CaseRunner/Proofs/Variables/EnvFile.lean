import CaseRunner.Proofs.Variables.DotEnv
import CaseRunner.Proofs.Variables.Stored

/-!
# What survives in an environment file

A variable of the environment that one store sets should be what the next store finds that
is opened on the same file, and the other variables should be what they were. Setting a
variable writes the whole environment anew, so this depends on every entry of it: the next
store finds what should be there exactly if all the entries last
(`lookupIn_after_put_iff`). Not all of them do. A value with an end of line in it sets
variables of its own choice (`lookupIn_after_put_line`).

The theorem compares two stores that are opened, one before the variable is set and one
after, and never looks at the store that sets it. For what this one finds is no proof that
anything was kept: it holds the variable in memory.
-/

namespace CaseRunner.Store

open Text

variable {s s' : Store} {fs fs' : FileSystem} {path key value : String} {now : Moment}
  {expiry : Option Moment}

/-- An environment that is read from a file is well kept. -/
theorem wellKept_of_readEnv {env : DotEnv.Entries} (h : readEnv fs path = .ok env) :
    DotEnv.WellKept env := by
  obtain ⟨content?, -, h⟩ := bind_eq_ok_iff.mp h
  obtain rfl := Except.ok.inj h
  cases content? with
  | none => exact DotEnv.WellKept.nil
  | some content => exact DotEnv.wellKept_read content

/-- What is written as an environment is read as what it says. -/
theorem readEnv_of_writeFile {entries : DotEnv.Entries}
    (h : writeFile fs path (DotEnv.write entries) = .ok fs') :
    readEnv fs' path = .ok (DotEnv.read (DotEnv.write entries)) := by
  rw [readEnv, readIfThere_of_writeFile h]
  rfl

/-- **What survives in an environment file.** After a variable was set, a store can be
opened on the environment; and it finds the value under the key and under every other key
what a store found that was opened before, exactly if every entry of the environment that
was written lasts.

One entry that does not last is enough for the condition to fail, and it need not be the
one that was set: an entry of the file itself can be such that it does not last, since
files are read by more rules than they are written by. The global files may be any, even
two different ones. -/
theorem lookupIn_after_put_iff (hfile : s.envFile = some path)
    (hput : Yields (put now key value .env expiry) (s, fs) (.ok ()) (s', fs')) :
    (∃ env, readEnv fs' path = .ok env)
      ∧ ∀ g g' before after, «open» fs path g = .ok before → «open» fs' path g' = .ok after →
        ((∀ t k, after.lookupIn t k .env =
            if toUpper k = toUpper key then some value else before.lookupIn t k .env)
          ↔ ∀ entry ∈ Document.insertField (toUpper key) value before.env,
              DotEnv.Lasts entry) := by
  obtain ⟨env, written, henv, hwrite, heq⟩ := exists_of_put_env hfile hput
  obtain rfl : fs' = written := congrArg Prod.snd heq
  have hread := readEnv_of_writeFile hwrite
  have kept := (wellKept_of_readEnv henv).insertField key value
  refine ⟨⟨_, hread⟩, fun g g' before after hbefore hafter => ?_⟩
  obtain ⟨env₁, -, henv₁, -, rfl⟩ := exists_of_open hbefore
  obtain ⟨env₂, -, henv₂, -, rfl⟩ := exists_of_open hafter
  obtain rfl : env = env₁ := Except.ok.inj (henv.symm.trans henv₁)
  obtain rfl := Except.ok.inj (hread.symm.trans henv₂)
  simp only [lookupIn, ← Document.field?_insertField]
  constructor
  · intro hfind
    refine DotEnv.lasts_of_read_write kept fun e he => ?_
    have found := hfind now e.1
    rw [kept.upper e he] at found
    exact found.trans (kept.ascending.field?_eq_some_iff.mpr he)
  · intro hlasts t k
    rw [DotEnv.read_write kept hlasts]

/-- Files with one variable of an environment. -/
def homeFiles : FileSystem := ⟨[(["dev.env"], .file (.text "HOST=h\n"))]⟩

/-- The store that is opened on them. -/
def homeStore : Store :=
  { env := [("HOST", "h")], envFile := some "dev.env", globalFile := some "g.yaml" }

/-- A value with a blank in it survives, and so does the other variable. -/
theorem lookupIn_after_put_blank :
    «open» homeFiles "dev.env" "g.yaml" = .ok homeStore
      ∧ ∃ s' fs' after, Yields (put 0 "token" "a b" .env none) (homeStore, homeFiles) (.ok ())
          (s', fs') ∧ «open» fs' "dev.env" "g.yaml" = .ok after
        ∧ ∀ t k, after.lookupIn t k .env =
            if toUpper k = toUpper "token" then some "a b" else homeStore.lookupIn t k .env := by
  have hopen : «open» homeFiles "dev.env" "g.yaml" = .ok homeStore := by decide +kernel
  let after : Store := { homeStore with env := [("HOST", "h"), ("TOKEN", "a b")] }
  let files : FileSystem := ⟨[(["dev.env"], .file (.text "HOST=h\nTOKEN=\"a b\"\n"))]⟩
  have hput : Yields (put 0 "token" "a b" .env none) (homeStore, homeFiles) (.ok ())
      (after, files) := by
    decide +kernel
  have hafter : «open» files "dev.env" "g.yaml" = .ok after := by decide +kernel
  have entries : Document.insertField (toUpper "token") "a b" homeStore.env =
      [("HOST", "h"), ("TOKEN", "a b")] := by
    decide +kernel
  have lasts : ∀ e ∈ [("HOST", "h"), ("TOKEN", "a b")], DotEnv.Lasts e := by
    intro e he
    rcases List.mem_pair.mp he with rfl | rfl
    · exact ⟨⟨by decide, by decide, by decide, by decide⟩, by decide, by decide⟩
    · exact ⟨⟨by decide, by decide, by decide, by decide⟩, by decide, by decide⟩
  exact ⟨hopen, after, files, after, hput, hafter,
    ((lookupIn_after_put_iff rfl hput).2 _ _ _ _ hopen hafter).mpr (entries ▸ lasts)⟩

/-- **A value with an end of line in it is cut off there and sets another variable.** Here
the value of a token comes with a host of its own, and every store that is opened from now
on sends its requests to that host. -/
theorem lookupIn_after_put_line :
    «open» homeFiles "dev.env" "g.yaml" = .ok homeStore
      ∧ ∃ s' fs' after, Yields (put 0 "token" "1\nHOST=evil" .env none) (homeStore, homeFiles)
          (.ok ()) (s', fs') ∧ «open» fs' "dev.env" "g.yaml" = .ok after
        ∧ after.lookupIn 0 "token" .env ≠ some "1\nHOST=evil"
        ∧ after.lookupIn 0 "host" .env ≠ homeStore.lookupIn 0 "host" .env := by
  refine ⟨by decide +kernel,
    { homeStore with env := [("HOST", "h"), ("TOKEN", "1\nHOST=evil")] },
    ⟨[(["dev.env"], .file (.text "HOST=h\nTOKEN=\"1\nHOST=evil\"\n"))]⟩,
    { homeStore with env := [("HOST", "evil\""), ("TOKEN", "\"1")] }, ?_⟩
  decide +kernel

end CaseRunner.Store
