/-!
# What can go wrong

Everything that stops a case is a `RunError`: a kind and a text. The kind
decides how a report words it and whether it counts as a failed assertion; the
text says where and why. A document location is put in front of the text by
`RunError.at`.
-/

namespace CaseRunner

/-- The reasons for which a case, or the run as a whole, stops. -/
inductive RunError where
  /-- The settings or the variables of the run cannot be used. -/
  | configInit (text : String)
  /-- A variable is missing or keeps expanding. -/
  | variable (text : String)
  /-- A function macro cannot be evaluated. -/
  | function (text : String)
  /-- A document does not have the shape that it should. -/
  | requestData (text : String)
  /-- A case cannot be run on account of the cases it depends on. -/
  | dependency (text : String)
  /-- No answer was received. -/
  | send (text : String)
  /-- Nothing could be extracted from an answer. -/
  | extraction (text : String)
  /-- An assertion or a condition is not in the language of assertions. -/
  | assertSyntax (text : String)
  /-- An assertion about an answer is false. -/
  | assertion (text : String)
  /-- A statement is not allowed to run. -/
  | sqlSyntax (text : String)
  /-- A statement could not be run or gave nothing. -/
  | sql (text : String)
  /-- Two steps carry one id. -/
  | duplicateCaseId (caseId first second : String)
  /-- A file could not be read or written. -/
  | io (text : String)
  /-- A document could not be read as JSON. -/
  | json (text : String)
  /-- A document could not be read as YAML. -/
  | yaml (text : String)
  /-- The database refused a statement. -/
  | database (text : String)
  deriving DecidableEq, Repr

namespace RunError

/-- The error as a report shows it. -/
def message : RunError → String
  | .configInit m => "Config init error: " ++ m
  | .variable m => "Variable error: " ++ m
  | .function m => "Function error: " ++ m
  | .requestData m => "Request data parse error: " ++ m
  | .dependency m => "Correlate testcase error: " ++ m
  | .send m => "Send request error: " ++ m
  | .extraction m => "JSONPath find error: " ++ m
  | .assertSyntax m => "Assert syntax error: " ++ m
  | .assertion m => "Assert error: " ++ m
  | .sqlSyntax m => "SQL syntax error: " ++ m
  | .sql m => "SQL error: " ++ m
  | .duplicateCaseId caseId first second =>
    "Duplicate case_id '" ++ caseId ++ "' found in " ++ first ++ " and " ++ second
  | .io m => "IO error: " ++ m
  | .json m => "JSON parsing error: " ++ m
  | .yaml m => "YAML parsing error: " ++ m
  | .database m => "Database error: " ++ m

/-- Is the error an assertion that was evaluated and found false, as opposed to
a broken document or a failing collaborator? -/
def isAssertionFailure : RunError → Bool
  | .assertion _ => true
  | _ => false

/-- The error with a document location in front of its text. An error of the
database becomes one of the statement, an error of a file one of the document;
errors that carry their own location stay as they are. -/
def «at» (e : RunError) (location : String) : RunError :=
  let located (m : String) := location ++ ": " ++ m
  match e with
  | .configInit m => .configInit (located m)
  | .variable m => .variable (located m)
  | .function m => .function (located m)
  | .requestData m => .requestData (located m)
  | .dependency m => .dependency (located m)
  | .send m => .send (located m)
  | .extraction m => .extraction (located m)
  | .assertSyntax m => .assertSyntax (located m)
  | .assertion m => .assertion (located m)
  | .sqlSyntax m => .sqlSyntax (located m)
  | .sql m => .sql (located m)
  | .database m => .sql (located m)
  | .io m => .requestData (located m)
  | .duplicateCaseId a b c => .duplicateCaseId a b c
  | .json m => .json m
  | .yaml m => .yaml m

/-- A location neither makes nor hides a failed assertion. -/
@[simp] theorem isAssertionFailure_at (e : RunError) (location : String) :
    (e.at location).isAssertionFailure = e.isAssertionFailure := by
  cases e <;> rfl

end RunError

/-- Puts a location in front of the error of a computation. -/
def locate {α : Type} (location : String) : Except RunError α → Except RunError α :=
  Except.mapError (RunError.at · location)

/-- The location of a named part: `case.yaml:request`. -/
def joinPath (location field : String) : String := location ++ ":" ++ field

/-- The location of a numbered part: `setup[1]`. -/
def joinIndex (location : String) (index : Nat) : String :=
  location ++ "[" ++ toString index ++ "]"

end CaseRunner
