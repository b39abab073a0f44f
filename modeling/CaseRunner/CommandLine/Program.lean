import CaseRunner.Case.Catalogue
import CaseRunner.CommandLine.Arguments
import CaseRunner.Functions.Builtin
import CaseRunner.Report.Printing
import CaseRunner.Session.Execution

/-!
# The program

The command line as a function: from arguments and files to an exit code, what is
printed, and the files afterwards.
-/

namespace CaseRunner

/-- Reads a case document. A JSON document is a YAML document too. -/
def loadDocument (fs : FileSystem) (path : String) : Except RunError Document := do
  let content ← (fs.readText path).mapError Store.fileError
  match Yaml.readDocument content with
  | .ok d => return d
  | .error (.yaml text) => throw (.requestData (path ++ ": " ++ text))
  | .error e => throw e

/-- Reads case documents in order. -/
def loadCases (fs : FileSystem) (paths : List String) : Except RunError CaseIndex :=
  match (Catalogue.load (loadDocument fs) paths).run {} with
  | (.ok (), c) => .ok c.cases
  | (.error e, _) => .error e

/-- The paths that the program looks at, as far as the files that are known so far
tell: those of the arguments, and those of the settings. -/
def pathsOf (arguments : List String) (fs : FileSystem) : List String :=
  match Arguments.read arguments with
  | .error _ => []
  | .ok a =>
    a.settingsPath :: a.inputFiles ++
      match Settings.load fs a.settingsPath with
      | .error _ => []
      | .ok c =>
        let c := { c with env := a.env.getD c.env }
        [c.envFile, c.globalFile, c.filesDir]

/-! ## Failures -/

/-- What underlies an error, where that is a thing of its own. -/
def RunError.cause? : RunError → Option String
  | .io text | .json text | .yaml text | .database text => some text
  | _ => none

/-- A text with its lines indented: the first line by one text, the others by
another. -/
def indented (first others text : String) : String :=
  first ++ String.intercalate ("\n" ++ others)
    ((Text.splitBy (· == '\n') text.toList).map String.ofList)

/-- The causes of a failure, numbered if there are several. -/
def causeLines : List String → String
  | [] => ""
  | [cause] => "\n\nCaused by:\n" ++ indented "    " "    " cause
  | causes => "\n\nCaused by:" ++ String.join (causes.mapIdx fun i cause =>
      let number := toString i
      "\n" ++ indented (String.ofList (List.replicate (5 - number.length) ' ') ++ number ++ ": ")
        "       " cause)

/-- A failure as it is shown: what was being done, if that is said, and the error
with its causes. -/
def showFailure (doing? : Option String) (e : RunError) : String :=
  let head := doing?.getD e.message
  let causes := (if doing?.isSome then [e.message] else []) ++ e.cause?.toList
  "Error: " ++ head ++ causeLines causes ++ "\n"

/-! ## Running -/

/-- What the outside of the program is like. -/
structure Surroundings where
  /-- The files. -/
  files : FileSystem
  /-- The clock. -/
  now : Moment
  /-- The function calls. -/
  calls : Calls
  /-- The transports. -/
  transport : Engine → Transport
  /-- Opens the database in a file. -/
  database : String → Except RunError Database
  /-- Are lines painted? -/
  colour : Bool

/-- What the program leaves behind. -/
structure Ending where
  /-- The exit code. -/
  exitCode : Nat
  /-- What is printed. -/
  output : String := ""
  /-- What is printed as an error. -/
  errors : String := ""
  /-- The files. -/
  files : FileSystem

/-- Sets up a run. An error comes with what was being done. -/
def setUp (a : Arguments) (w : Surroundings) :
    Except (Option String × RunError) (Suite × Session) := do
  let settings ← (Settings.load w.files a.settingsPath).mapError fun e =>
    (some ("Failed to load settings from " ++ a.settingsPath), e)
  let settings := { settings with env := a.env.getD settings.env }
  let cases ← (loadCases w.files a.inputFiles).mapError fun e =>
    (some "Failed to load case files", e)
  let session ← (Session.open settings w.files w.calls w.now).mapError fun e => (none, e)
  let database? ← (settings.database.mapM w.database).mapError fun e => (none, e)
  return ({ settings, registry := Builtin.registry, cases, transport := w.transport
            database?, login? := settings.auth }, session)

/-- Runs the cases that are asked for. -/
def runChosen (a : Arguments) (suite : Suite) : Run (List Report) :=
  if a.cases.isEmpty then suite.runAll else suite.runSelected a.cases

/-- The program behind its arguments. -/
def runArguments (a : Arguments) (w : Surroundings) : Ending :=
  match a.check w.files with
  | .error fault =>
    { exitCode := 1, files := w.files, output := Paint.red.apply w.colour fault.message ++ "\n" }
  | .ok () =>
    match setUp a w with
    | .error (doing?, e) =>
      { exitCode := 1, files := w.files, errors := showFailure doing? e }
    | .ok (suite, session) =>
      match (runChosen a suite).run session with
      | (.ok reports, after) =>
        { exitCode := if allPassed reports then 0 else 1, files := after.files
          output := printReports w.colour reports }
      | (.error (.error e), after) =>
        { exitCode := 1, files := after.files, errors := showFailure none e }
      -- there are no words for a crash, but it has an exit code of its own
      | (.error (.crash _ _), after) => { exitCode := 101, files := after.files }

/-- The program. -/
def runProgram (arguments : List String) (w : Surroundings) : Ending :=
  match Arguments.read arguments with
  | .ok a => runArguments a w
  | .error .helpWanted =>
    { exitCode := 0, files := w.files, output := UsageFault.helpWanted.message ++ "\n" }
  | .error fault => { exitCode := 2, files := w.files, errors := fault.message ++ "\n" }

end CaseRunner
