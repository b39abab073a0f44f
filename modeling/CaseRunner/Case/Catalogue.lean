import CaseRunner.Case.Index

/-!
# The catalogue of cases

Documents are kept as they were loaded. Beside them stands an index, which tells of each
id where its step is, by two numbers: that of the document among all documents and that
of the step in its document. The index has no order, so the order of the ids is kept as
well.

A case is therefore found in three turns, each of which may come to nothing
(`Catalogue.get?`): its place, its document, its step. And a document is added by writing
in three places (`Catalogue.add`), with numbers that were settled before the document was
there. A step that is refused, be it the last one, has to leave all three as they were:
nothing takes back what was written. That they never disagree is no matter of course;
that they do not is what `Catalogue.Stands` says.
-/

namespace CaseRunner

/-- A document that was loaded. -/
structure CaseDocument where
  /-- The location. -/
  location : String
  /-- The configuration. -/
  config : Option Document
  /-- The steps, with their placeholders still in them. -/
  steps : List Document

/-- Where a step is. -/
structure StepPlace where
  /-- The number of its document, from 0. -/
  document : Nat
  /-- Its number in the document, from 0. -/
  step : Nat
  /-- Its location, for those who read about it. -/
  location : String

/-- The loaded documents, and where the steps are in them. -/
structure Catalogue where
  /-- The documents, in the order of loading. -/
  documents : List CaseDocument := []
  /-- The places of the steps, by id. The first entry of an id counts. -/
  index : List (String × StepPlace) := []
  /-- The ids, in the order of loading. -/
  order : List String := []

/-- A computation that may fail and change a catalogue. What was changed before it fails
remains so. -/
abbrev Cataloguing := ExceptT RunError (StateM Catalogue)

namespace Catalogue

/-! ## Finding cases -/

/-- The case with an id: its place, the document with the number that the place names, and
there the step with the other number. -/
def get? (c : Catalogue) (id : String) : Option CaseEntry := do
  let place ← c.index.lookup id
  let document ← c.documents[place.document]?
  let step ← document.steps[place.step]?
  return { caseId := id, document := document.location, location := place.location
           config := document.config, step }

/-- Is there a case with an id? -/
def contains (c : Catalogue) (id : String) : Bool := (c.index.lookup id).isSome

/-- The ids in the order of loading. -/
def ids (c : Catalogue) : List String := c.order

/-- How many cases there are. -/
def size (c : Catalogue) : Nat := c.order.length

/-- The cases, each found under its id. -/
def cases (c : Catalogue) : CaseIndex := ⟨c.ids.filterMap c.get?⟩

/-! ## Adding documents -/

/-- Finds places for the steps of the document that will have the given number, from the
step with the number `i` on. The steps before have the places `found`. Nothing is written
yet, so an id is taken if it stands in the index or among those found. -/
def placesFrom (c : Catalogue) (location : String) (number : Nat) :
    Nat → List (String × StepPlace) → List Document →
      Except RunError (List (String × StepPlace))
  | _, found, [] => .ok found
  | i, found, step :: rest => do
    let place := joinIndex (joinPath location "test_steps") i
    let some caseId := CaseIndex.idOf? step
      | throw (.requestData (joinPath place "case_id" ++ ": missing required string"))
    if let some first := (c.index.lookup caseId).or (found.lookup caseId) then
      throw (.duplicateCaseId caseId first.location place)
    c.placesFrom location number (i + 1) (found ++ [(caseId, ⟨number, i, place⟩)]) rest

/-- Enters a step under its id. -/
def enter (caseId : String) (place : StepPlace) : Cataloguing Unit := do
  modify fun c => { c with order := c.order ++ [caseId] }
  modify fun c => { c with index := (caseId, place) :: c.index }

/-- Adds a document: finds places for its steps, keeps it, and enters the steps one after
the other. -/
def add (location : String) (d : Document) : Cataloguing Unit := do
  let (config, steps) ← ExceptT.mk (pure (CaseIndex.sections location d))
  let c ← get
  let found ← ExceptT.mk (pure (c.placesFrom location c.documents.length 0 [] steps))
  modify fun c => { c with documents := c.documents ++ [⟨location, config, steps⟩] }
  found.forM fun (caseId, place) => enter caseId place

/-- Reads documents and adds them, until one cannot be read or is not accepted. -/
def load (read : String → Except RunError Document) (locations : List String) :
    Cataloguing Unit :=
  locations.forM fun location => do
    let d ← ExceptT.mk (pure (read location))
    add location d

end Catalogue

end CaseRunner
