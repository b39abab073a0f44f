import CaseRunner.Placeholder.Substitution
import Mathlib.Control.Lawful

/-!
# Walks through documents

A walk through a document keeps its place on a stack (`Document.walkTexts`). What is to be
said of a walk, that it visits each text at its place and nothing else, is not easily said of
a stack: it is the same for all parts of a document, and each part must give it back as it
was. Here it is shown once that they do (`Document.run_walkTexts`), so that every other
statement can be one about a definition in which the place of a part is handed down to it
(`Document.replaceTexts`) and there is nothing to be given back.

A visit may fail, and then the walk is over where it is, with a stack that nobody has
cleared. This is why the walk is stated as what it makes of the visits, in whatever way
these may fail: the place is a state above that of the visits, and is gone with them.
-/

namespace CaseRunner

namespace Document

variable {m : Type → Type} [Monad m]

mutual

/-- **Replaces the texts of a document at a place.** Members that `skip` names are left
alone, with all they hold.

The place is an argument, and each part is given the place at which it stands. This is the
definition of which everything else is shown. It is the walk without its stack, and there
is no way in which it could go astray. -/
def replaceTexts (skip : Place → String → Bool) (visit : Place → String → m String)
    (place : Place) : Document → m Document
  | .text s => do return .text (← visit place s)
  | .list items => do return .list (← replaceItemTexts skip visit place 0 items)
  | .mapping fields => do return .mapping (← replaceFieldTexts skip visit place fields)
  | .null => return .null
  | .bool b => return .bool b
  | .number n => return .number n

/-- `replaceTexts` for the items of a list from an index on. -/
def replaceItemTexts (skip : Place → String → Bool) (visit : Place → String → m String)
    (place : Place) (i : Nat) : List Document → m (List Document)
  | [] => return []
  | d :: rest => do
    let d ← replaceTexts skip visit (.index i :: place) d
    return d :: (← replaceItemTexts skip visit place (i + 1) rest)

/-- `replaceTexts` for the members of a mapping. -/
def replaceFieldTexts (skip : Place → String → Bool) (visit : Place → String → m String)
    (place : Place) : List (String × Document) → m (List (String × Document))
  | [] => return []
  | (name, d) :: rest => do
    let d ← if skip place name then pure d else replaceTexts skip visit (.key name :: place) d
    return (name, d) :: (← replaceFieldTexts skip visit place rest)

end

section Walk

variable [LawfulMonad m] {skip : Place → String → Bool} {visit : Place → String → m String}

/-- A walk that gives the stack back does so a step further too. The step is put on the
stack before and taken off afterwards, and in between the stack is whatever the walk has
left, which is why it has to be known that it leaves it as it was. -/
theorem run_inside {α : Type} {step : Segment} {walk : StateT Place m α} {place : Place}
    {x : m α} (h : walk.run (step :: place) = (·, step :: place) <$> x) :
    (inside step walk).run place = (·, place) <$> x := by
  simp [inside, h]

mutual

/-- **A walk visits each text at its place and gives the stack back as it was.** By
induction on the document, for all places at once: each part is walked with another place
on the stack, and what is known of it is that it leaves this place.

Where a visit fails both sides fail alike. The stack that is left then is not spoken of, as
nothing is walked with it any more. -/
theorem run_walkTexts (place : Place) : (d : Document) →
    (walkTexts skip visit d).run place = (·, place) <$> replaceTexts skip visit place d
  | .null | .bool _ | .number _ => by simp [walkTexts, replaceTexts]
  | .text s => by simp [walkTexts, replaceTexts]
  | .list ds => by
    simp [walkTexts, replaceTexts, run_walkItemTexts place 0 ds]
  | .mapping fs => by
    simp [walkTexts, replaceTexts, run_walkFieldTexts place fs]

theorem run_walkItemTexts (place : Place) (i : Nat) : (ds : List Document) →
    (walkItemTexts skip visit i ds).run place
      = (·, place) <$> replaceItemTexts skip visit place i ds
  | [] => by simp [walkItemTexts, replaceItemTexts]
  | d :: ds => by
    simp [walkItemTexts, replaceItemTexts, run_inside (run_walkTexts (.index i :: place) d),
      run_walkItemTexts place (i + 1) ds]

theorem run_walkFieldTexts (place : Place) : (fs : List (String × Document)) →
    (walkFieldTexts skip visit (skip place) fs).run place
      = (·, place) <$> replaceFieldTexts skip visit place fs
  | [] => by simp [walkFieldTexts, replaceFieldTexts]
  | (name, d) :: fs => by
    rw [walkFieldTexts, replaceFieldTexts]
    split
    · simp [run_walkFieldTexts place fs]
    · simp [run_inside (run_walkTexts (.key name :: place) d), run_walkFieldTexts place fs]

end

/-- **Replacing the texts of a document** is replacing them at the places that are handed
down. A walk begins with an empty stack, and with it ends. -/
theorem visitTexts_eq (d : Document) :
    d.visitTexts skip visit = replaceTexts skip visit [] d := by
  rw [visitTexts, StateT.run'_eq, run_walkTexts]
  simp

end Walk

end Document

/-! ## The passes over a document

Each pass that replaces placeholders is a walk, and is used as one that hands the places
down. -/

namespace Placeholder

theorem replaceFunctions_eq (r : Registry) (location : String) (d : Document) :
    replaceFunctions r location d
      = d.replaceTexts isHook (fun place s => expand r (place.render location) s) [] :=
  Document.visitTexts_eq d

theorem replaceVariables_eq (store : Store) (now : Moment) (location : String)
    (d : Document) : replaceVariables store now location d
      = d.replaceTexts (fun _ _ => false)
        (fun place s => substituteVariables store now (place.render location) s) [] :=
  Document.visitTexts_eq d

theorem replaceRelations_eq (store : Store) (now : Moment) (location : String)
    (d : Document) : replaceRelations store now location d
      = (d.replaceTexts (fun _ _ => false)
          (fun place s => substituteRelations store now (place.render location) s) []).map
        fun filled => (filled, (relationNames d).foldl Store.eraseRelation store) := by
  unfold replaceRelations
  rw [Document.visitTexts_eq]
  rfl

end Placeholder

end CaseRunner
