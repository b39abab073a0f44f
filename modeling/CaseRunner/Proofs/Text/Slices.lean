import Mathlib.Data.String.Basic

/-!
# Texts cut between their bytes

A place in a text can be named by the bytes that stand in front of it. Not every such
number is a place between two characters, and a text can only be cut at those that are
(`dropBytes?`, `takeBytes?`, `slice?`). Where a text is put together from parts, it can be
cut between them (`slice?_append`).

Cutting at a number that is no place between characters has no result, and it is not
rounded to such a place. So whoever works with cuts has to show of each that it can be
made, and the lemmas here are in the form in which this is shown: the text is written as
its parts, and the places are how long the parts are.
-/

namespace CaseRunner.Text

open String (utf8Len utf8Len_nil utf8Len_cons utf8Len_append)

/-- What stands behind the first bytes of a text, if these are whole characters. The bytes
are counted down by the size of each character, and a character that is larger than what is
left to count has its end beyond the place. -/
def dropBytes? : Nat → List Char → Option (List Char)
  | 0, s => some s
  | _ + 1, [] => none
  | n + 1, c :: s => if c.utf8Size ≤ n + 1 then dropBytes? (n + 1 - c.utf8Size) s else none

/-- The first bytes of a text, if these are whole characters. -/
def takeBytes? : Nat → List Char → Option (List Char)
  | 0, _ => some []
  | _ + 1, [] => none
  | n + 1, c :: s =>
    if c.utf8Size ≤ n + 1 then (takeBytes? (n + 1 - c.utf8Size) s).map (c :: ·) else none

/-- What stands between two places of a text, if both are places between characters. -/
def slice? (start stop : Nat) (s : List Char) : Option (List Char) :=
  if start ≤ stop then (dropBytes? start s).bind (takeBytes? (stop - start)) else none

section Cuts

variable (a b c : List Char)

theorem dropBytes?_cons (n : Nat) (c : Char) (s : List Char) :
    dropBytes? (n + c.utf8Size) (c :: s) = dropBytes? n s := by
  obtain ⟨k, hk⟩ := Nat.exists_eq_add_one.mpr (Nat.add_pos_right n c.utf8Size_pos)
  rw [hk, dropBytes?, if_pos (by omega), show k + 1 - c.utf8Size = n by omega]

theorem takeBytes?_cons (n : Nat) (c : Char) (s : List Char) :
    takeBytes? (n + c.utf8Size) (c :: s) = (takeBytes? n s).map (c :: ·) := by
  obtain ⟨k, hk⟩ := Nat.exists_eq_add_one.mpr (Nat.add_pos_right n c.utf8Size_pos)
  rw [hk, takeBytes?, if_pos (by omega), show k + 1 - c.utf8Size = n by omega]

/-- A text can be cut behind a part. -/
theorem dropBytes?_append : dropBytes? (utf8Len a) (a ++ b) = some b := by
  induction a with
  | nil => cases b <;> rfl
  | cons c a ih => rw [List.cons_append, utf8Len_cons, dropBytes?_cons, ih]

theorem takeBytes?_append : takeBytes? (utf8Len a) (a ++ b) = some a := by
  induction a with
  | nil => cases b <;> rfl
  | cons c a ih => rw [List.cons_append, utf8Len_cons, takeBytes?_cons, ih, Option.map_some]

/-- **A part of a text is what stands between its places.** The place where it begins is
how long the text in front of it is, and the place where it ends is as much further as the
part is long. -/
theorem slice?_append : slice? (utf8Len a) (utf8Len (a ++ b)) (a ++ (b ++ c)) = some b := by
  rw [slice?, utf8Len_append, if_pos (Nat.le_add_right _ _), dropBytes?_append, Option.bind_some,
    Nat.add_sub_cancel_left, takeBytes?_append]

/-- What stands between two places begins with the character behind the first. -/
theorem slice?_cons {stop : Nat} {c : Char} (h : utf8Len (a ++ [c]) ≤ stop) :
    slice? (utf8Len a) stop (a ++ c :: b)
      = (slice? (utf8Len (a ++ [c])) stop (a ++ c :: b)).map (c :: ·) := by
  have behind : dropBytes? (utf8Len (a ++ [c])) (a ++ c :: b) = some b := by
    rw [List.append_cons a c b, dropBytes?_append]
  have size : utf8Len (a ++ [c]) = utf8Len a + c.utf8Size := by
    rw [utf8Len_append, utf8Len_cons, utf8Len_nil, Nat.zero_add]
  rw [slice?, slice?, if_pos h, if_pos (by omega), dropBytes?_append, behind, Option.bind_some,
    Option.bind_some, show stop - utf8Len a = stop - utf8Len (a ++ [c]) + c.utf8Size by omega,
    takeBytes?_cons]

end Cuts

end CaseRunner.Text
