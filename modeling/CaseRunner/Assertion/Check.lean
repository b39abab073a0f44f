import CaseRunner.Assertion.Comparison
import CaseRunner.Case.Action
import CaseRunner.Expression.Evaluation
import CaseRunner.JsonPath.Selector
import CaseRunner.Reply
import CaseRunner.Sql.Database

/-!
# Checking assertions

The assertions of one action are checked in two passes. The first reads all of
them, so that a mistake in the last one is found before anything is evaluated
and before the database is asked; the second evaluates them in order and stops
at the first that does not hold.
-/

namespace CaseRunner

/-- What a path assertion searches: the body of the reply, or the row of a
statement. -/
def PathAssertion.subject (a : PathAssertion) (reply : Reply) (database? : Option Database) :
    Asking (Document × String) :=
  match a.sql with
  | none => return (reply.json, "json")
  | some sql => do
    let some db := database?
      | throw (.sql ("'" ++ sql ++ "': no database is configured for SQL assertions"))
    let some row ← db.ask sql
      | throw (.sql ("'" ++ sql ++ "' returned no rows"))
    return (.mapping row, "sql")

/-- The message of a path assertion that is false. -/
def PathAssertion.complaint (a : PathAssertion) (actual : Document) : String :=
  a.check.getD (a.jsonpath ++ " " ++ a.comparator.title ++ " failed: actual " ++
    actual.render ++ ", expected " ++ a.value.render)

/-- Compares what the path finds with the value expected. -/
def PathAssertion.verify (a : PathAssertion) (subject : Document × String) :
    Except RunError Unit := do
  let actual ← JsonPath.findFirst subject.1 a.jsonpath subject.2
  if ← a.comparator.compare actual a.value then return ()
  else throw (.assertion (a.complaint actual))

/-- Checks a path assertion. -/
def PathAssertion.test (a : PathAssertion) (reply : Reply) (database? : Option Database) :
    Asking Unit := do
  let subject ← a.subject reply database?
  ExceptT.mk (pure (a.verify subject))

/-- An assertion that has been read. -/
inductive PreparedAssertion where
  /-- An assertion in the language of assertions. -/
  | code (assertion : Expression.Assertion)
  /-- A comparison of what a path finds. -/
  | path (assertion : PathAssertion)

/-- Reads an assertion. -/
def AssertItem.prepare : AssertItem → Except RunError PreparedAssertion
  | .code source => (Expression.parseAssertion source).map .code
  | .path a => .ok (.path a)

/-- Checks an assertion that has been read. -/
def PreparedAssertion.check (reply : Reply) (database? : Option Database) :
    PreparedAssertion → Asking Unit
  | .code a => ExceptT.mk (pure (a.check reply.toDocument))
  | .path a => a.test reply database?

/-- Reads the assertions of the action at a location, from the one with the given
index on. -/
def prepareAll (location : String) : Nat → List AssertItem →
    Except RunError (List PreparedAssertion)
  | _, [] => .ok []
  | i, item :: rest => do
    let a ← locate (joinIndex location i) item.prepare
    return a :: (← prepareAll location (i + 1) rest)

/-- Checks assertions that have been read, in order. -/
def checkPrepared (location : String) (reply : Reply) (database? : Option Database) :
    Nat → List PreparedAssertion → Asking Unit
  | _, [] => return ()
  | i, a :: rest => do
    (a.check reply database?).adapt (RunError.at · (joinIndex location i))
    checkPrepared location reply database? (i + 1) rest

/-- Checks the assertions of the action at a location. -/
def checkAll (items : List AssertItem) (reply : Reply) (database? : Option Database)
    (location : String) : Asking Unit := do
  let prepared ← ExceptT.mk (pure (prepareAll location 0 items))
  checkPrepared location reply database? 0 prepared

end CaseRunner
