import CaseRunner.Reply
import CaseRunner.Request.Basic

/-!
# Reports

What became of a case: its verdict, the request that was made, the answer, and what
was done on the way.
-/

namespace CaseRunner

/-- What became of a case. -/
inductive Verdict where
  /-- Everything was done and every assertion is true. -/
  | passed
  /-- An assertion is false. -/
  | failed (text : String)
  /-- The case was skipped. -/
  | skipped (reason : String)
  /-- Something else went wrong. -/
  | error (text : String)
  deriving DecidableEq, Repr

/-- The verdict on what came of the steps of a case: nothing, a reason for skipping
it, or an error. -/
def Verdict.ofOutcome : Except RunError (Option String) → Verdict
  | .ok none => .passed
  | .ok (some reason) => .skipped reason
  | .error e => if e.isAssertionFailure then .failed e.message else .error e.message

/-- Does a run with the verdict count as a success? -/
def Verdict.isSuccess : Verdict → Bool
  | .passed | .skipped _ => true
  | .failed _ | .error _ => false

/-- The phases of a case. -/
inductive Phase where
  | resolve | setup | request | teardown
  deriving DecidableEq, Repr

/-- The name of a phase. -/
def Phase.name : Phase → String
  | .resolve => "resolve"
  | .setup => "setup"
  | .request => "request"
  | .teardown => "teardown"

/-- Something that was done. -/
structure ReportEvent where
  /-- The phase. -/
  phase : Phase
  /-- What was done. -/
  message : String
  deriving DecidableEq, Repr

/-- What became of a case. -/
structure Report where
  /-- The id of the case. -/
  caseId : String
  /-- The name of the case. -/
  name : String
  /-- The location of the case. -/
  location : String
  /-- Labels. -/
  allure : Fields := []
  /-- The verdict. -/
  verdict : Verdict := .passed
  /-- The request, if one was made. -/
  request? : Option Request := none
  /-- The answer, if there was one. -/
  reply? : Option Reply := none
  /-- What was done, in order. -/
  events : List ReportEvent := []

/-- Does no report stand in the way of success? -/
def allPassed (reports : List Report) : Bool := reports.all (·.verdict.isSuccess)

end CaseRunner
