import CaseRunner.Document.Basic
import CaseRunner.Sql.ReadOnly

/-!
# The database

A database is asked statements and answers with the first row, with nothing, or
with an error. What it answers may depend on all statements that it was asked
before; they are kept as the state of a computation that asks.
-/

namespace CaseRunner

/-- What a database answers to a statement, given the statements asked before it,
the last one first. -/
abbrev Database := List String → String → Except RunError (Option Fields)

/-- A computation that may ask the database. -/
abbrev Asking := ExceptT RunError (StateM (List String))

namespace Database

/-- Asks a statement. -/
def ask (db : Database) (statement : String) : Asking (Option Fields) :=
  fun before => (db before statement, statement :: before)

/-- A database that refuses statements which do not only read. -/
def readOnly (db : Database) : Database := fun before statement => do
  Sql.ensureReadOnly statement
  db before statement

end Database

end CaseRunner
