import CaseRunner.Document.Basic
import CaseRunner.Error
import CaseRunner.Text.Blank

/-!
# The loaded cases

The steps of all documents, by id, in the order of loading. A document is added as
a whole or, if one of its steps has no id or an id that is taken, not at all; so
the index never holds an id twice (`CaseIndex.ids`).

This is what the loaded cases amount to, and what runs are about: one list, with all
that belongs to a case in its entry. How the cases are kept while documents are added
to them, with the documents in one place and numbers that refer to them in another, is
the matter of `CaseRunner.Catalogue`, which stands for such a list at any time.
-/

namespace CaseRunner

/-- A step that was loaded, with its placeholders still in it. -/
structure CaseEntry where
  /-- The id. -/
  caseId : String
  /-- The location of the document. -/
  document : String
  /-- The location of the step. -/
  location : String
  /-- The configuration of the document. -/
  config : Option Document
  /-- The step. -/
  step : Document

/-- The loaded cases, in the order of loading. -/
structure CaseIndex where
  /-- The cases. -/
  entries : List CaseEntry

namespace CaseIndex

/-- No cases. -/
def empty : CaseIndex := ⟨[]⟩

/-- The case with an id. -/
def find? (cases : CaseIndex) (id : String) : Option CaseEntry :=
  cases.entries.find? (·.caseId == id)

/-- Is there a case with an id? -/
def contains (cases : CaseIndex) (id : String) : Bool := (cases.find? id).isSome

/-- The ids in the order of loading. -/
def ids (cases : CaseIndex) : List String := cases.entries.map (·.caseId)

/-- How many cases there are. -/
def size (cases : CaseIndex) : Nat := cases.entries.length

/-- There is a case with an id if the id is one of those loaded. -/
theorem contains_iff_mem_ids (cases : CaseIndex) (id : String) :
    cases.contains id = true ↔ id ∈ cases.ids := by
  simp [contains, find?, ids]

/-- The case with an id has that id. -/
theorem caseId_of_find? {cases : CaseIndex} {id : String} {entry : CaseEntry}
    (h : cases.find? id = some entry) : entry.caseId = id := by
  simpa using List.find?_some h

/-- The id of a step, which must not be blank. -/
def idOf? (step : Document) : Option String :=
  ((step.get? "case_id").bind (·.text?)).filter fun id => !Text.isBlankText id

/-- Adds the steps of a document, from the one with the given index on. -/
def addSteps (cases : CaseIndex) (document : String) (config : Option Document) :
    Nat → List Document → Except RunError CaseIndex
  | _, [] => .ok cases
  | i, step :: rest => do
    let location := joinIndex (joinPath document "test_steps") i
    let some caseId := idOf? step
      | throw (.requestData (joinPath location "case_id" ++ ": missing required string"))
    if let some first := cases.find? caseId then
      throw (.duplicateCaseId caseId first.location location)
    addSteps ⟨cases.entries ++ [{ caseId, document, location, config, step }]⟩
      document config (i + 1) rest

/-- The configuration and the steps of a document; one step may stand there alone. -/
def sections (location : String) : Document → Except RunError (Option Document × List Document)
  | .mapping fields =>
    let config := Document.field? "config" fields
    match Document.field? "test_steps" fields with
    | some (.list steps) => .ok (config, steps)
    | some (.mapping step) => .ok (config, [.mapping step])
    | _ => .error (.requestData (joinPath location "test_steps" ++
        ": missing; expected a step mapping or a list of steps"))
  | _ => .error (.requestData (location ++
      ": expected a mapping with config and test_steps"))

/-- Adds a document. -/
def addDocument (cases : CaseIndex) (location : String) (d : Document) :
    Except RunError CaseIndex := do
  let (config, steps) ← sections location d
  cases.addSteps location config 0 steps

end CaseIndex

end CaseRunner
