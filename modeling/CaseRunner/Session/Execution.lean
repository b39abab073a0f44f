import CaseRunner.Case.Skipping
import CaseRunner.Session.Sending

/-!
# Running cases

A case is run in phases: its placeholders are replaced, it may be skipped, its setup
actions are done, its request is made and sent, its teardown actions are done. Setup
actions may run other cases in turn. Whatever error there is on the way ends the case
and becomes its verdict; only a case that does not exist is an error of the run.

A crash is no error. It is not caught where errors become verdicts: it ends the case
without a report, and with it the cases around it and all that were still to be run. What
it leaves is what the journal has come to. In particular the case is not taken off the
stack, since that is done behind the place where it crashed.

Running a case is defined from running the cases that it needs (`runCase`), and that
again to a given depth (`runToDepth`). A case that is being run is never run again
inside itself, so a depth of one more than the number of cases is never used up.
-/

namespace CaseRunner

/-- A case on its way: the session, and the report so far. -/
structure Progress where
  /-- The session. -/
  session : Session
  /-- The report. -/
  report : Report

/-- A computation that takes part in running a case. -/
abbrev Executing := ExceptT (Stop RunError) (StateM Progress)

namespace Executing

/-- A part of the run. -/
def inSession {α : Type} (c : Run α) : Executing α := ExceptT.mk do
  let p ← get
  let (r, session) := c.run p.session
  set { p with session }
  return r

/-- Changes the report. -/
def amend (f : Report → Report) : Executing Unit :=
  modify fun p => { p with report := f p.report }

/-- Notes in the report that something was done. -/
def note (phase : Phase) (message : String) : Executing Unit :=
  amend fun r => { r with events := r.events ++ [⟨phase, message⟩] }

/-- The outcome of a computation as a value, unless it crashes. -/
def outcome {α : Type} (c : Executing α) : Executing (Except RunError α) :=
  ExceptT.mk do return Stop.told (← c.run)

/-- The reply that has come. -/
def reply : Executing Reply := do return ((← get).report.reply?).getD {}

end Executing

open Executing

/-! ## Setup -/

/-- Takes what a reference asks for from the report on its case, which must have
passed. -/
def takeReport (location : String) (reference : CaseReference) (report : Report) :
    Run Unit := do
  let id := reference.caseId
  let refuse (text : String) : Run Unit :=
    throw (.error (.dependency (location ++ ": " ++ text)))
  match report.verdict with
  | .passed =>
    match reference with
    | .extracting _ (some key) (some path) =>
      match report.reply? with
      | some reply => do
        let found ← Session.result (JsonPath.findFirst reply.json path location)
        Session.relate key found.display
      | none => refuse ("dependency '" ++ id ++ "' produced no response to extract '" ++ key ++
          "' from")
    | .plain _ | .extracting _ none none => return ()
    | .extracting _ _ _ =>
      throw (.error (.requestData (location ++
        ": expected both key and jsonpath next to case_id '" ++ id ++ "'")))
  | .failed reason | .error reason =>
    refuse ("dependency '" ++ id ++ "' did not pass: " ++ reason)
  | .skipped reason => refuse ("dependency '" ++ id ++ "' was skipped: " ++ reason)

/-- Runs the case of a reference and takes what it extracts. -/
def runReference (suite : Suite) (nested : String → Run Report) (current location : String)
    (reference : CaseReference) : Run Unit := do
  Session.checkReference suite current location reference.caseId
  let report ← nested reference.caseId
  takeReport location reference report

/-- Does the setup action at a location. -/
def runSetupAction (suite : Suite) (nested : String → Run Report) (current location : String) :
    SetupAction → Run Unit
  | .testcase references =>
    references.toList.forM (runReference suite nested current location)
  | .sql statements => statements.toList.forM fun statement => do
    let row? ← Session.queryRow suite location statement
    (row?.getD []).forM fun (column, d) => Session.relate column d.display
  | .hook source => Session.runHook suite location source
  | .waitTime seconds => Session.pause location seconds

/-- Does the setup actions of the step at a location, from the one with the given
index on. -/
def runSetup (suite : Suite) (nested : String → Run Report) (current location : String) :
    Nat → List SetupAction → Executing Unit
  | _, [] => return ()
  | i, action :: rest => do
    let place := joinIndex (joinPath location "setup") i
    inSession (runSetupAction suite nested current place action)
    note .setup (place ++ " done")
    runSetup suite nested current location (i + 1) rest

/-! ## Teardown -/

/-- Adds the columns of a row to the rows that a reply carries. -/
def Reply.addRow (r : Reply) (row : Fields) : Reply :=
  let sofar := match r.sqlData with
    | .mapping fields => fields
    | _ => []
  { r with sqlData := .mapping (Document.insertAll row sofar) }

/-- Does the teardown action at a location. -/
def runTeardownAction (suite : Suite) (location : String) : TeardownAction → Executing Unit
  | .sql statements => statements.toList.forM fun statement => do
    match ← inSession (Session.queryRow suite location statement) with
    | none => return ()
    | some row =>
      amend fun r => { r with reply? := r.reply?.map (·.addRow row) }
      inSession (row.forM fun (column, d) => Session.assign column d.display .cache)
  | .hook source => inSession (Session.runHook suite location source)
  | .extract extractions => extractions.toList.forM fun e => do
    let found ← inSession (Session.result
      (JsonPath.findFirst (← reply).json e.jsonpath location))
    inSession (Session.assign e.key found.display e.scope)
  | .assert items => do
    inSession (Session.asking
      (checkAll items.toList (← reply) suite.database? (joinPath location "assert")))
  | .waitTime seconds => inSession (Session.pause location seconds)

/-- Does the teardown actions of the step at a location, from the one with the given
index on. -/
def runTeardown (suite : Suite) (location : String) :
    Nat → List TeardownAction → Executing Unit
  | _, [] => return ()
  | i, action :: rest => do
    let place := joinIndex (joinPath location "teardown") i
    runTeardownAction suite place action
    note .teardown (place ++ " done")
    runTeardown suite location (i + 1) rest

/-! ## A case -/

/-- The configuration and the step of a case with their placeholders replaced. -/
def resolveEntry (suite : Suite) (entry : CaseEntry) : Run (Config × Step) := do
  let configured ← Session.resolved suite (joinPath entry.document "config")
    (entry.config.getD .null)
  let config ← Session.result (Config.read (some configured) entry.document)
  let step ← Session.resolved suite entry.location entry.step
  return (config, ← Session.result (Step.read step entry.location))

/-- Puts relation variables into a request. -/
def fillRelations (location : String) (d : Document) : Run Document := do
  let s ← get
  let (filled, store) ← Session.result
    (Placeholder.replaceRelations s.store s.now (joinPath location "request") d)
  Session.record (.filled ((Placeholder.relationNames d).filterMap fun name =>
    (s.store.relation? s.now name).map fun value => (name, value)))
  modify fun s => { s with store }
  return filled

/-- Reads the request that a document stands for. The time that it may take is noted
before it is known whether there is room for it. -/
def readRequest (suite : Suite) (location : String) (config : Config) (d : Document) :
    Run Request := do
  let s ← get
  if let some seconds := Request.seconds? d config s.store s.files
      suite.settings.requestDefaults then
    Session.record (.measured (.span seconds))
  Session.stopping (Request.ofDocument d config s.store s.files
    suite.settings.requestDefaults location)

/-- The request with credentials, if the settings say how to log in. -/
def authorize (suite : Suite) (request : Request) : Run Request :=
  match suite.login? with
  | some login => login.apply suite request
  | none => return request

/-- The request of a step, with its relation variables and credentials. -/
def makeRequest (suite : Suite) (location : String) (config : Config) (step : Step) :
    Run Request := do
  let d ← fillRelations location step.request
  Session.record (.moved step.caseId .executing)
  let request ← readRequest suite location config d
  authorize suite request

/-- Puts the milliseconds since the beginning into the reply. -/
def clockReply (started : Moment) : Executing Unit := do
  let elapsed := (← get).session.now - started
  amend fun r => { r with reply? := r.reply?.map fun reply =>
    { reply with executeTime := (seconds elapsed.toNat).mul (.ofInt 1000) } }

/-- Enters into the report what is known of a case once its placeholders are replaced,
and decides whether it is skipped. The answer is why, if it is. -/
def beginEntry (entry : CaseEntry) (config : Config) (step : Step) :
    Executing (Option String) := do
  amend fun r =>
    { r with name := step.name, allure := Document.insertAll step.allure config.allure }
  note .resolve "placeholders resolved"
  let reason? ← inSession (Session.result (step.isRun.skipReason? entry.location))
  if let some reason := reason? then
    note .resolve ("skipped: " ++ reason)
  return reason?

/-- Makes the request of a step whose setup is done, sends it, and does the teardown
actions. -/
def finishEntry (suite : Suite) (entry : CaseEntry) (started : Moment) (config : Config)
    (step : Step) : Executing Unit := do
  let request ← inSession (makeRequest suite entry.location config step)
  amend fun r => { r with request? := some request }
  let raw ← inSession (Session.send suite (some entry.caseId) request)
  note .request (request.method.spelling ++ " " ++ request.url ++ " -> " ++
    toString raw.statusCode)
  amend fun r => { r with reply? := some raw.toReply }
  clockReply started
  let ending ← outcome (runTeardown suite entry.location 0 step.teardown)
  clockReply started
  inSession (Session.result ending)

/-- Runs the steps of a case. The answer is why it was skipped, if it was. -/
def runEntry (suite : Suite) (nested : String → Run Report) (entry : CaseEntry) :
    Executing (Option String) := do
  let started := (← get).session.now
  let (config, step) ← inSession (resolveEntry suite entry)
  match ← beginEntry entry config step with
  | some reason => return some reason
  | none => do
    inSession (Session.record (.moved step.caseId .resolvingDependencies))
    runSetup suite nested step.caseId entry.location 0 step.setup
    finishEntry suite entry started config step
    return none

/-- The report on a case that has not been begun. -/
def CaseEntry.report (entry : CaseEntry) : Report :=
  { caseId := entry.caseId
    name := ((entry.step.get? "name").bind (·.text?)).getD ""
    location := entry.location }

/-- Takes a case off the stack that has come to an end, and makes its report. This is
where a crash is told from an error: behind a crash nothing is done any more. -/
def conclude (entry : CaseEntry) (ended : Except (Stop RunError) (Option String))
    (report : Report) : Run Report := do
  let outcome ← Session.stopping (Stop.told ended)
  Session.record (.left entry.caseId)
  Session.record (.moved entry.caseId .done)
  return { report with verdict := Verdict.ofOutcome outcome }

/-- Runs a case that is loaded. -/
def runLoaded (suite : Suite) (nested : String → Run Report) (entry : CaseEntry) :
    Run Report := do
  Session.record (.entered entry.caseId)
  let (ended, p) := (runEntry suite nested entry).run ⟨← get, entry.report⟩
  set p.session
  conclude entry ended p.report

/-- Runs a case, given how the cases that it needs are run. -/
def runCase (suite : Suite) (nested : String → Run Report) (id : String) : Run Report := do
  match suite.cases.find? id with
  | some entry => runLoaded suite nested entry
  | none =>
    throw (.error (.dependency ("case '" ++ id ++ "' was not found in the loaded documents")))

/-- Runs a case to a depth. -/
def runToDepth (suite : Suite) : Nat → String → Run Report
  | 0, id =>
    throw (.error (.dependency ("case '" ++ id ++ "' is needed too deep inside other cases")))
  | depth + 1, id => runCase suite (runToDepth suite depth) id

namespace Suite

/-- Runs a case. -/
def run (suite : Suite) (id : String) : Run Report :=
  runToDepth suite (suite.cases.size + 1) id

/-- Runs cases one after the other; each has its report, whatever error ends it. -/
def runSelected (suite : Suite) (ids : List String) : Run (List Report) := ids.mapM suite.run

/-- Runs all cases in the order of loading. -/
def runAll (suite : Suite) : Run (List Report) := suite.runSelected suite.cases.ids

end Suite

end CaseRunner
