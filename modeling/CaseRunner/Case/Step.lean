import CaseRunner.Case.Action

/-!
# Steps

A step is one case: a request with what comes before and after it. The request
itself stays a document here; its fields are read when it is made.
-/

namespace CaseRunner

/-- Is a step run? -/
inductive RunRule where
  /-- Always or never. -/
  | flag (run : Bool)
  /-- Skipped or not, with a reason. -/
  | skip (skip : Bool) (reason : Option String)
  /-- Skipped if one of the conditions is true. -/
  | skipIf (conditions : List String) (reason : Option String)
  deriving DecidableEq, Repr

/-- One case. -/
structure Step where
  /-- The name for reports. -/
  name : String
  /-- The id. -/
  caseId : String
  /-- What the case is about. -/
  description : String
  /-- Is the case run? -/
  isRun : RunRule
  /-- The request. -/
  request : Document
  /-- What comes before the request. -/
  setup : List SetupAction
  /-- What comes after the answer. -/
  teardown : List TeardownAction
  /-- Labels for reports. -/
  allure : Fields

namespace RunRule

/-- How a fixed rule is read. -/
def skipRecord : Schema.Record Document (Bool × Option String) where
  title := "IsRun"
  fields := [("skip", .required), ("reason", .optional)]
  start := (false, none)
  set r field d :=
    match field with
    | "skip" => (Schema.truth d).map fun v => (v, r.2)
    | "reason" => (Schema.optional Schema.text d).map fun v => (r.1, v)
    | _ => .ok r

/-- How a rule with conditions is read. -/
def skipIfRecord : Schema.Record Document (List String × Option String) where
  title := "IsRun"
  fields := [("skip_if", .required), ("reason", .optional)]
  start := ([], none)
  set r field d :=
    match field with
    | "skip_if" => (Schema.list Schema.text d).map fun v => (v, r.2)
    | "reason" => (Schema.optional Schema.text d).map fun v => (r.1, v)
    | _ => .ok r

/-- Reads a rule. -/
def read : Document → Except ReadFault RunRule :=
  Schema.either "IsRun" (fun d => (Schema.truth d).map .flag) <|
    Schema.either "IsRun"
      (fun d => (skipRecord.readMapping d).map fun r => .skip r.1 r.2)
      (fun d => (skipIfRecord.readMapping d).map fun r => .skipIf r.1 r.2)

end RunRule

namespace Step

/-- A field of a step, which is absent when null. -/
def field? {α : Type} (read : Document → Except ReadFault α) (fields : Fields)
    (name location : String) : Except RunError (Option α) :=
  match Document.field? name fields with
  | none | some .null => .ok none
  | some d => ((read d).map some).mapError fun fault =>
    .requestData (joinPath location name ++ ": " ++ fault.message)

/-- Reads the step at a location. -/
def read (d : Document) (location : String) : Except RunError Step := do
  let .mapping fields := d
    | throw (.requestData (location ++
        ": expected a mapping with case_id/request/setup/teardown"))
  let some caseId ← field? Schema.text fields "case_id" location
    | throw (.requestData (joinPath location "case_id" ++ ": missing required string"))
  let some request := Document.field? "request" fields
    | throw (.requestData (joinPath location "request" ++
        ": missing required mapping with method/url"))
  let name ← field? Schema.text fields "name" location
  let description ← field? Schema.text fields "description" location
  let isRun ← field? RunRule.read fields "is_run" location
  let setup ← field? (Schema.list SetupAction.read) fields "setup" location
  let teardown ← field? (Schema.list TeardownAction.read) fields "teardown" location
  let allure ← field? Schema.fields fields "allure" location
  return {
    name := name.getD "", caseId, description := description.getD ""
    isRun := isRun.getD (.flag true), request
    setup := setup.getD [], teardown := teardown.getD [], allure := allure.getD [] }

end Step

end CaseRunner
