import CaseRunner.Case.Config

/-!
# Actions around a request

Before the request of a step come its setup actions: running other cases, asking
the database, expanding a macro, waiting. After it come its teardown actions,
which may also extract values from the answer and make assertions about it. One
action may hold a single thing to do or several.
-/

namespace CaseRunner

/-- One thing, or a list of them. -/
inductive Series (α : Type) where
  | single (a : α)
  | several (as : List α)
  deriving DecidableEq, Repr

/-- The things in order. -/
def Series.toList {α : Type} : Series α → List α
  | .single a => [a]
  | .several as => as

/-- Another case that has to run first. -/
inductive CaseReference where
  /-- Only running matters. -/
  | plain (caseId : String)
  /-- The answer matters too: what a path finds in it becomes a relation variable. -/
  | extracting (caseId : String) (key jsonpath : Option String)
  deriving DecidableEq, Repr

/-- The id of the case. -/
def CaseReference.caseId : CaseReference → String
  | .plain caseId => caseId
  | .extracting caseId _ _ => caseId

/-- What is done before a request. -/
inductive SetupAction where
  /-- Runs other cases. -/
  | testcase (references : Series CaseReference)
  /-- Asks the database; the columns of the row become relation variables. -/
  | sql (statements : Series String)
  /-- Expands macros for their effect. -/
  | hook (source : String)
  /-- Waits some seconds. -/
  | waitTime (seconds : Binary64)

/-- What a path finds in the answer becomes a variable. -/
structure Extraction where
  /-- The name of the variable. -/
  key : String
  /-- The scope of the variable. -/
  scope : Scope := .cache
  /-- The path. -/
  jsonpath : String
  deriving DecidableEq, Repr

/-- An assertion that compares what a path finds with a value. -/
structure PathAssertion where
  /-- The message if it is false. -/
  check : Option String := none
  /-- The value expected. -/
  value : Document
  /-- The comparison. -/
  comparator : Comparator
  /-- The path. -/
  jsonpath : String
  /-- The statement whose row is searched in place of the answer. -/
  sql : Option String := none

/-- An assertion about the answer. -/
inductive AssertItem where
  /-- An assertion in the language of assertions. -/
  | code (source : String)
  /-- A comparison of what a path finds. -/
  | path (assertion : PathAssertion)

/-- What is done after a request. -/
inductive TeardownAction where
  /-- Asks the database; the columns of the row become variables. -/
  | sql (statements : Series String)
  /-- Expands macros for their effect. -/
  | hook (source : String)
  /-- Extracts values from the answer. -/
  | extract (extractions : Series Extraction)
  /-- Makes assertions about the answer. -/
  | assert (items : Series AssertItem)
  /-- Waits some seconds. -/
  | waitTime (seconds : Binary64)

/-! ## Reading -/

namespace Schema

/-- A single value or a list of values. -/
def series {α : Type} (read : Document → Except ReadFault α) :
    Document → Except ReadFault (Series α) :=
  either "OneOrMany" (fun d => (read d).map .single) (fun d => (list read d).map .several)

end Schema

/-- How a reference with an extraction is read. -/
def CaseReference.record :
    Schema.Record Document (String × Option String × Option String) where
  title := "TestcaseRef"
  fields := [("case_id", .required), ("key", .optional), ("jsonpath", .optional)]
  start := ("", none, none)
  set r field d :=
    match field with
    | "case_id" => (Schema.text d).map fun v => (v, r.2.1, r.2.2)
    | "key" => (Schema.optional Schema.text d).map fun v => (r.1, v, r.2.2)
    | "jsonpath" => (Schema.optional Schema.text d).map fun v => (r.1, r.2.1, v)
    | _ => .ok r

/-- Reads a reference: an id, or a mapping with one. -/
def CaseReference.read : Document → Except ReadFault CaseReference :=
  Schema.either "TestcaseRef" (fun d => (Schema.text d).map .plain) fun d =>
    (CaseReference.record.readMapping d).map fun r => .extracting r.1 r.2.1 r.2.2

/-- Reads a setup action. -/
def SetupAction.read : Document → Except ReadFault SetupAction :=
  Schema.tagged
    [("testcase", fun d => (Schema.series CaseReference.read d).map .testcase),
      ("sql", fun d => (Schema.series Schema.text d).map .sql),
      ("hook", fun d => (Schema.text d).map .hook),
      ("wait_time", fun d => (Schema.numberLike d).map .waitTime)]

/-- How an extraction is read. -/
def Extraction.record : Schema.Record Document Extraction where
  title := "ExtractSpec"
  fields := [("key", .required), ("scope", .optional), ("jsonpath", .required)]
  start := { key := "", jsonpath := "" }
  set e field d :=
    match field with
    | "key" => (Schema.text d).map fun v => { e with key := v }
    | "scope" => (Schema.name Scope.names d).map fun v => { e with scope := v }
    | "jsonpath" => (Schema.text d).map fun v => { e with jsonpath := v }
    | _ => .ok e

/-- How an assertion with a path is read. -/
def PathAssertion.record : Schema.Record Document PathAssertion where
  title := "StructuredAssert"
  fields := [("check", .optional), ("value", .required), ("type", .required),
    ("jsonpath", .required), ("sql", .optional)]
  start := { value := .null, comparator := .eq, jsonpath := "" }
  set a field d :=
    match field with
    | "check" => (Schema.optional Schema.text d).map fun v => { a with check := v }
    | "value" => .ok { a with value := d }
    | "type" => (Schema.name Comparator.names d).map fun v => { a with comparator := v }
    | "jsonpath" => (Schema.text d).map fun v => { a with jsonpath := v }
    | "sql" => (Schema.optional Schema.text d).map fun v => { a with sql := v }
    | _ => .ok a

/-- Reads an assertion: its source, or a comparison. -/
def AssertItem.read : Document → Except ReadFault AssertItem :=
  Schema.either "AssertItem" (fun d => (Schema.text d).map .code) fun d =>
    (PathAssertion.record.read d).map .path

/-- Reads a teardown action. -/
def TeardownAction.read : Document → Except ReadFault TeardownAction :=
  Schema.tagged
    [("sql", fun d => (Schema.series Schema.text d).map .sql),
      ("hook", fun d => (Schema.text d).map .hook),
      ("extract", fun d => (Schema.series Extraction.record.read d).map .extract),
      ("assert", fun d => (Schema.series AssertItem.read d).map .assert),
      ("wait_time", fun d => (Schema.numberLike d).map .waitTime)]

end CaseRunner
