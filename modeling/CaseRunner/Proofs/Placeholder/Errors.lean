import CaseRunner.Placeholder.Substitution
import CaseRunner.Proofs.Computation

/-!
# What the errors of placeholders tell

Placeholders of three sorts are replaced in a text, and each may fail for reasons of its
own: an unknown function, a missing variable, an expansion that goes on for ever. Whatever
the reason is, the error is of the kind of the sort, and its text begins with the place of
the text (`Placeholder.Tells`).

So from an error alone one knows which pass it comes from and where in the document to
look. What the text goes on with is not said here.
-/

namespace CaseRunner.Placeholder

/-- **An error tells of a place**: it is of a kind, and its text begins with the place. The
colon and the blank behind it belong to the place, since without them a place could be
taken for the beginning of a longer one. -/
def Tells (kind : String → RunError) (place : String) (e : RunError) : Prop :=
  ∃ text, e = kind (place ++ ": " ++ text)

/-- What goes on behind the place and a colon tells of the place. -/
theorem Tells.of_colon {kind : String → RunError} {place colon text rest : String}
    (word : String) (hcolon : colon = ": " ++ word) (htext : text = place ++ (colon ++ rest)) :
    Tells kind place (kind text) :=
  ⟨word ++ rest, by rw [htext, hcolon]; simp only [String.append_assoc]⟩

/-! ## Macros -/

section Functions

variable (r : Registry) (place : String)

/-- A macro that goes wrong tells of its place. Its name is not known, or the function
refuses what it is given. -/
theorem tells_expandMacro (written : List Char) (m : Macro) :
    Raises (Tells .function place) (expandMacro r place written m) := by
  unfold expandMacro
  dsimp only
  split
  · refine Raises.bind (Raises.throw ?_) fun _ => Raises.reworded fun e => ?_
    · exact .of_colon "cannot resolve macro " rfl (by simp only [String.append_assoc]; rfl)
    · exact .of_colon "macro " rfl (by simp only [String.append_assoc]; rfl)
  · refine Raises.reworded fun e => ?_
    exact .of_colon "macro " rfl (by simp only [String.append_assoc]; rfl)

theorem tells_expandOnce (skip : Nat) (s : List Char) :
    Raises (Tells .function place) (expandOnce r place skip s) := by
  induction s generalizing skip with
  | nil => cases skip <;> exact Raises.pure _
  | cons c rest ih =>
    cases skip with
    | succ skip => exact ih skip
    | zero =>
      rw [expandOnce]
      split
      · exact (tells_expandMacro r place _ _).bind fun _ => (ih _).bind fun _ => Raises.pure _
      · exact (ih 0).bind fun _ => Raises.pure _

/-- Rounds go wrong as one of them does, or by leaving a macro behind the last. -/
theorem tells_expandRounds (source : String) (rounds : Nat) (s : List Char) :
    Raises (Tells .function place) (expandRounds r place source rounds s) := by
  induction rounds generalizing s with
  | zero =>
    unfold expandRounds
    split
    · refine Raises.throw ?_
      exact .of_colon "function macros kept expanding after " rfl
        (by simp only [String.append_assoc]; rfl)
    · exact Raises.pure _
  | succ rounds ih =>
    unfold expandRounds
    split
    · exact (tells_expandOnce r place 0 s).bind ih
    · exact Raises.pure _

/-- **Macros that cannot be expanded** are errors of functions at their place. The place is
that of the text in which the macro stands, or has come to stand, and not of the variable
or function that has brought it there. -/
theorem tells_expand (s : String) : Raises (Tells .function place) (expand r place s) :=
  (tells_expandRounds r place _ _ _).bind fun _ => Raises.pure _

end Functions

/-! ## Variables -/

theorem tells_variableError (place : String) (e : RunError) :
    Tells .variable place (variableError place e) := by
  cases e <;> exact ⟨_, rfl⟩

section Variables

variable {P : RunError → Prop} {f : String → Except RunError String}

/-- Replacing placeholders goes wrong only as looking a name up does. -/
theorem fails_substitute (hf : ∀ name, Fails P (f name)) (form : Form) (before : Option Char)
    (skip : Nat) (s : List Char) : Fails P (substitute form f before skip s) := by
  induction s generalizing before skip with
  | nil => cases skip <;> exact .ok _
  | cons c rest ih =>
    cases skip with
    | succ skip => exact ih _ skip
    | zero =>
      rw [substitute]
      split
      · exact (hf _).bind fun _ => (ih _ _).bind fun _ => .ok _
      · exact (ih _ 0).bind fun _ => .ok _

/-- In the same way variables are replaced, where a name may have no value. -/
theorem tells_substituteRounds {place : String}
    (hf : ∀ name, Fails (Tells .variable place) (f name)) (rounds : Nat) (s : List Char) :
    Fails (Tells .variable place) (substituteRounds f place rounds s) := by
  induction rounds generalizing s with
  | zero =>
    unfold substituteRounds
    split
    · refine .error ?_
      exact .of_colon "variables kept expanding after " rfl
        (by simp only [String.append_assoc]; rfl)
    · exact .ok _
  | succ rounds ih =>
    unfold substituteRounds
    split
    · exact (fails_substitute hf _ _ _ _).bind ih
    · exact .ok _

/-- **Variables that cannot be replaced** are errors of variables at their place. -/
theorem tells_substituteVariables (store : Store) (now : Moment) (place s : String) :
    Fails (Tells .variable place) (substituteVariables store now place s) :=
  (tells_substituteRounds (fun _ => .reworded (tells_variableError place)) _ _).bind
    fun _ => .ok _

/-- **Relation variables that cannot be filled in** are errors of variables at their place,
as those of the other sort are. -/
theorem tells_substituteRelations (store : Store) (now : Moment) (place s : String) :
    Fails (Tells .variable place) (substituteRelations store now place s) :=
  (fails_substitute (fun _ => .reworded (tells_variableError place)) _ _ _ _).bind
    fun _ => .ok _

end Variables

end CaseRunner.Placeholder
