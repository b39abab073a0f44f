import CaseRunner.Case.Index

/-!
# Cases that depend on cases

The setup of a step may name other cases that have to run first. A reference that
would never come to an end is refused before the case is run: one to the case
itself, one back to a case that depends on the present one, and one to a case that
is being run already. So is one to a case that was not loaded.
-/

namespace CaseRunner

mutual

/-- The ids in a reference or a list of references. -/
def referenceIds : Document → List String
  | .text id => [id]
  | .mapping fields =>
    match Document.field? "case_id" fields with
    | some (.text id) => [id]
    | _ => []
  | .list items => referenceIdsOfItems items
  | _ => []

/-- The ids in a list of references. -/
def referenceIdsOfItems : List Document → List String
  | [] => []
  | d :: rest => referenceIds d ++ referenceIdsOfItems rest

end

/-- The ids of the cases that the setup of a step names. -/
def referencedIds (step : Document) : List String :=
  match step.get? "setup" with
  | some (.list actions) =>
    actions.flatMap fun a => ((a.get? "testcase").map referenceIds).getD []
  | _ => []

/-- Why a case cannot be run for another one. -/
inductive DependencyFault where
  /-- A case needs itself. -/
  | itself (current : String)
  /-- The case that is needed was not loaded. -/
  | unknown (current referenced : String)
  /-- The case that is needed, which stands at a location, needs the present one. -/
  | reciprocal (current referenced location : String)
  /-- The case that is needed is being run: the cases from it to the present one, and
  it again. -/
  | circular (chain : List String)
  deriving DecidableEq, Repr

/-- The fault in words. -/
def DependencyFault.message : DependencyFault → String
  | .itself current => "case '" ++ current ++ "' references itself"
  | .unknown current referenced => "case '" ++ referenced ++ "' referenced by '" ++ current ++
      "' was not found in the loaded documents"
  | .reciprocal current referenced location => "circular reference, '" ++ current ++
      "' depends on '" ++ referenced ++ "' (" ++ location ++ ") which depends on '" ++
      current ++ "'"
  | .circular chain => "circular reference " ++ String.intercalate " -> " chain

/-- The cases that are being run from one case on, outermost first, then the present
one and the first one again. -/
def circle (active : List String) (current referenced : String) : List String :=
  let inside := active.dropWhile (· != referenced)
  (if inside.getLast? = some current then inside else inside ++ [current]) ++ [referenced]

/-- Checks that a case can be run for the present one. The cases that are being run
are given outermost first. -/
def checkDependency (cases : CaseIndex) (active : List String) (current referenced : String) :
    Except DependencyFault Unit :=
  if referenced = current then .error (.itself current)
  else
    match cases.find? referenced with
    | none => .error (.unknown current referenced)
    | some entry =>
      if current ∈ referencedIds entry.step then
        .error (.reciprocal current referenced entry.location)
      else if referenced ∈ active then .error (.circular (circle active current referenced))
      else .ok ()

/-- The fault as the error of the setup action at a location. -/
def DependencyFault.toError (f : DependencyFault) (location : String) : RunError :=
  .dependency (location ++ ": " ++ f.message)

end CaseRunner
