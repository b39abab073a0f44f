import CaseRunner.Assertion.Check
import CaseRunner.Case.Dependency
import CaseRunner.Placeholder.Substitution
import CaseRunner.Report.Basic
import CaseRunner.Request.Reading
import CaseRunner.Sending.Obstacle
import CaseRunner.Settings

/-!
# Sessions

A `Suite` is what a run is given: settings, functions, cases, and what answers
requests and statements. A `Session` is what a run changes: variables, files, the
clock, and the journal of what has happened.

The journal is a list, the latest happening first. Which cases are being run
(`Session.active`), how far each case has come (`Session.state`) and which requests
were sent (`Session.sent`) are read off the journal, so that a statement about every
moment of a run is one about every end piece of a list.

A run ends with an answer, with an error that its caller is told of, or with a crash
(`Run`). The journal is kept in all three cases, for what has happened before a crash has
happened; but after a crash nothing is put in order any more, and the case in which it
came remains on the stack. What crashes is told beforehand: numbers that have to fit are
noted when they come up (`Happening.measured`), so that one can say of a run, without
looking at how it ended, whether there was one too many.
-/

namespace CaseRunner

/-- How far a case has come. -/
inductive CaseState where
  /-- It has not been started. -/
  | pending
  /-- Its setup is being done. -/
  | resolvingDependencies
  /-- Its request is being made. -/
  | executing
  /-- It has ended. -/
  | done
  deriving DecidableEq, Repr

/-- The name of a state. -/
def CaseState.name : CaseState → String
  | .pending => "Pending"
  | .resolvingDependencies => "ResolvingDependencies"
  | .executing => "Executing"
  | .done => "Done"

/-- Something that happens in a run. -/
inductive Happening where
  /-- A case is begun. -/
  | entered (caseId : String)
  /-- A case has ended. -/
  | left (caseId : String)
  /-- A case has come to a state. -/
  | moved (caseId : String) (state : CaseState)
  /-- A reference of the present case to another one is checked. -/
  | checked (current referenced : String) (answer : Except DependencyFault Unit)
  /-- A setup action sets a relation variable. -/
  | related (name value : String)
  /-- A variable is set. -/
  | assigned (key value : String) (scope : Scope)
  /-- Relation variables with these values are put into a request. -/
  | filled (values : List (String × String))
  /-- A request is handed to a transport: that of a case, or a login. -/
  | sent (caseId? : Option String) (request : Request)
  /-- A number comes up that has to fit where it is kept. -/
  | measured (q : Quantity)

/-- The journal of a run, the latest happening first. -/
abbrev Journal := List Happening

namespace Journal

/-- The cases that are being run, innermost first. A case that has ended takes those
inside it with it. -/
def active : Journal → List String
  | [] => []
  | .entered id :: before => id :: active before
  | .left id :: before =>
    let running := active before
    if id ∈ running then (running.dropWhile (· != id)).drop 1 else running
  | _ :: before => active before

/-- How far a case has come. -/
def state (id : String) : Journal → CaseState
  | [] => .pending
  | .moved other st :: before => if other = id then st else state id before
  | _ :: before => state id before

/-- The requests that were handed to transports, the last one first. -/
def sent : Journal → List Request
  | [] => []
  | .sent _ r :: before => r :: sent before
  | _ :: before => sent before

/-- The cases whose own requests were handed to transports, the last one first. -/
def senders : Journal → List String
  | [] => []
  | .sent (some id) _ :: before => id :: senders before
  | _ :: before => senders before

end Journal

/-- What a run is given. -/
structure Suite where
  /-- The settings. -/
  settings : Settings := {}
  /-- The functions that macros may call. -/
  registry : Registry
  /-- The cases. -/
  cases : CaseIndex
  /-- The transports of the engines. -/
  transport : Engine → Transport
  /-- The database, if there is one. -/
  database? : Option Database := none
  /-- How a token is obtained, if requests need one. -/
  login? : Option Login := none

/-- What a run changes. -/
structure Session where
  /-- The variables. -/
  store : Store := {}
  /-- The files. -/
  files : FileSystem := .empty
  /-- The function calls. -/
  calls : Calls
  /-- The clock. -/
  now : Moment
  /-- The statements that the database was asked, the last one first. -/
  asked : List String := []
  /-- What has happened, the latest first. -/
  journal : Journal := []

/-- A computation that takes part in a run. -/
abbrev Run := ExceptT (Stop RunError) (StateM Session)

namespace Session

/-- The cases that are being run, innermost first. -/
def active (s : Session) : List String := Journal.active s.journal

/-- How far a case has come. -/
def state (s : Session) (id : String) : CaseState := Journal.state id s.journal

/-- The requests that were handed to transports, the last one first. -/
def sent (s : Session) : List Request := Journal.sent s.journal

/-- An outcome that takes no part in the run. -/
def stopping {α : Type} (r : Except (Stop RunError) α) : Run α := ExceptT.mk (pure r)

/-- A result that takes no part in the run. -/
def result {α : Type} (r : Except RunError α) : Run α := stopping (Stop.lift r)

/-- Writes something into the journal. -/
def record (h : Happening) : Run Unit := modify fun s => { s with journal := h :: s.journal }

/-- Function calls in a run. -/
def calling {α : Type} (c : Calling α) : Run α := ExceptT.mk do
  let s ← get
  let (r, calls) := c.run s.calls
  set { s with calls }
  return Stop.lift r

/-- Changes of variables in a run. -/
def storing {α : Type} (c : Storing α) : Run α := ExceptT.mk do
  let s ← get
  let (r, store, files) := c.run (s.store, s.files)
  set { s with store, files }
  return Stop.lift r

/-- Questions to the database in a run. -/
def asking {α : Type} (c : Asking α) : Run α := ExceptT.mk do
  let s ← get
  let (r, asked) := c.run s.asked
  set { s with asked }
  return Stop.lift r

/-- The document at a location with its macros expanded and its variables replaced. -/
def resolved (suite : Suite) (location : String) (d : Document) : Run Document := do
  let s ← get
  calling (Placeholder.replacePlaceholders suite.registry s.store s.now location d)

/-- Checks that a case can be run for the present one. -/
def checkReference (suite : Suite) (current location referenced : String) : Run Unit := do
  let answer := checkDependency suite.cases (← get).active.reverse current referenced
  record (.checked current referenced answer)
  result (answer.mapError (·.toError location))

/-- Sets a relation variable. -/
def relate (name value : String) : Run Unit := do
  record (.related name value)
  modify fun s => { s with store := s.store.setRelation s.now name value }

/-- Sets a variable. -/
def assign (key value : String) (scope : Scope) : Run Unit := do
  storing (Store.put (← get).now key value scope none)
  record (.assigned key value scope)

/-- Lets some seconds pass. Any number of them may be asked for, but there must be room
for it. -/
def pause (location : String) (seconds : Binary64) : Run Unit := do
  if (Binary64.zero false).le seconds && seconds.isFinite then
    record (.measured (.span seconds))
    let span ← stopping (nanoseconds seconds)
    modify fun s => { s with now := s.now + span }
  else throw (.error (.requestData (location ++
    ": wait_time must be a non-negative number of seconds, found " ++
    Decimal.plainText seconds)))

/-- Asks the database for a row. -/
def queryRow (suite : Suite) (location statement : String) : Run (Option Fields) := do
  let some db := suite.database?
    | throw (.error (.sql (location ++
        ": no database is configured; set \x60database\x60 in the settings file")))
  (asking (db.ask statement)).adapt (Stop.map (RunError.at · location))

/-- Runs the hook at a location; only its effect matters. -/
def runHook (suite : Suite) (location hook : String) : Run Unit := do
  let _ ← calling (Placeholder.runHook suite.registry location hook)

/-- Opens a session on files. -/
def «open» (settings : Settings) (files : FileSystem) (calls : Calls) (now : Moment) :
    Except RunError Session :=
  match Store.open files settings.envFile settings.globalFile with
  | .ok store => .ok { store, files, calls, now }
  | .error e => .error (.configInit ("cannot load variables: " ++ e.message))

end Session

end CaseRunner
