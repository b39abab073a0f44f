import CaseRunner.FileSystem
import CaseRunner.Proofs.Computation
import Mathlib.Tactic.SplitIfs

/-!
# What is written can be read

A text is written at the place that the path names. Writing does not move that place: the
way to it leads through directories only, and what is written stands where no directory
was. So the path afterwards names the file that was written (`find_of_write`).

This is not for want of obstacles. A path may lead back to directories above, and if
something on the way became a file the path would lead nowhere from then on. That it cannot
is all there is to show, and it is shown along the way, part by part (`walk_put`).
-/

namespace CaseRunner.FileSystem

variable {fs fs' : FileSystem} {path text : String}

/-- **Where a text is written**: at the place that the path names, which is no
directory. -/
theorem exists_of_write (h : fs.write path text = .ok fs') :
    ∃ place, fs.locate path = .ok place ∧ fs.entryAt? place ≠ some .directory
      ∧ fs' = fs.put place (.file (.text text)) := by
  unfold write at h
  by_cases hslash : path.endsWith "/" = true
  · rw [if_pos hslash] at h
    obtain ⟨-, -, h⟩ := bind_eq_ok_iff.mp h
    cases h
  · rw [if_neg hslash] at h
    obtain ⟨place, hplace, h⟩ := bind_eq_ok_iff.mp h
    refine ⟨place, hplace, ?_⟩
    cases hentry : fs.entryAt? place with
    | some e =>
      rw [hentry] at h
      cases e with
      | directory => cases h
      | file content => exact ⟨nofun, (Except.ok.inj h).symm⟩
    | none =>
      rw [hentry] at h
      dsimp only at h
      split at h
      · exact ⟨nofun, (Except.ok.inj h).symm⟩
      · cases h

/-- **What is put where no directory was is on no way.** Each part of a path but the last
has to be a directory when it is passed. What is put down replaces none, and so all that
was passed can be passed again. -/
theorem walk_put {place : Place} {e : Entry} (hplace : fs.entryAt? place ≠ some .directory)
    {here there : Place} {parts : List String} (h : fs.walk here parts = .ok there) :
    (fs.put place e).walk here parts = .ok there := by
  induction parts generalizing here with
  | nil => exact h
  | cons part rest ih =>
    rw [walk] at h ⊢
    cases hentry : fs.entryAt? here with
    | none => rw [hentry] at h; cases h
    | some entry =>
      rw [hentry] at h
      cases entry with
      | file content => cases h
      | directory =>
        have far : here ≠ place := by
          rintro rfl
          exact hplace hentry
        rw [entryAt?_put_of_ne fs e far, hentry]
        dsimp only at h ⊢
        split_ifs at h ⊢
        · exact ih h
        · exact ih h
        · exact ih h

theorem locate_put {place there : Place} {e : Entry}
    (hplace : fs.entryAt? place ≠ some .directory) (h : fs.locate path = .ok there) :
    (fs.put place e).locate path = .ok there := by
  unfold locate at h ⊢
  split_ifs at h ⊢
  · exact h
  · exact walk_put hplace h

/-- **What was written is what is read**, by the same path. Nothing is said about other
paths, some of which may name the same place. -/
theorem find_of_write (h : fs.write path text = .ok fs') :
    fs'.find path = .ok (.file (.text text)) := by
  obtain ⟨place, hplace, hentry, rfl⟩ := exists_of_write h
  have inside : place ≠ [] := by
    rintro rfl
    exact hentry rfl
  refine bind_eq_ok_iff.mpr ⟨place, locate_put hentry hplace, ?_⟩
  rw [entryAt?_put_self fs _ inside]
  rfl

theorem exists_of_find {e : Entry} (h : fs.find path = .ok e) : fs.exists path = true := by
  rw [«exists», h]
  rfl

theorem readText_of_find {s : String} (h : fs.find path = .ok (.file (.text s))) :
    fs.readText path = .ok s := by
  rw [readText, read, h]
  rfl

end CaseRunner.FileSystem
