import CaseRunner.Case.Step
import CaseRunner.Expression.Evaluation

/-!
# Skipping steps

Whether a step is skipped is decided before anything is done for it. A rule gives
a reason for skipping, or none. The conditions of a rule are tried in order up to
the first that is true.
-/

namespace CaseRunner.RunRule

/-- The first condition that is true, from the one with the given index on. -/
def firstTrue? (location : String) : Nat → List String → Except RunError (Option String)
  | _, [] => .ok none
  | i, condition :: rest => do
    if ← CaseRunner.locate (joinIndex location i) (Expression.evaluateCondition condition) then
      return some condition
    else firstTrue? location (i + 1) rest

/-- Why the step at a location is skipped. -/
def skipReason? (rule : RunRule) (location : String) : Except RunError (Option String) :=
  match rule with
  | .flag true | .skip false _ => .ok none
  | .flag false => .ok (some "is_run is false")
  | .skip true reason => .ok (some (reason.getD "skip is set"))
  | .skipIf conditions reason => do
    let place := joinPath (joinPath location "is_run") "skip_if"
    let condition? ← firstTrue? place 0 conditions
    return condition?.map fun c => reason.getD ("skip_if '" ++ c ++ "' is true")

end CaseRunner.RunRule
