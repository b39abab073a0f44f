import CaseRunner.Proofs.Case.Reading

/-!
# The references of a step

The setup of a step refers to the cases that have to run before it. While a run is
checked for circles these references are looked up in the document of a step, which may
be anything there; while a case runs they come from its typed setup actions. Where a
document is read as a step, both are the same references (`Step.references_eq_of_read`):
action by action, in the order of the actions and in each of them in the order of its
list, and as often as they are there.
-/

namespace CaseRunner

/-- The references of a setup action, in order. -/
def SetupAction.references : SetupAction → List CaseReference
  | .testcase references => references.toList
  | _ => []

/-- The references of the setup of a step, in order. -/
def Step.references (step : Step) : List CaseReference := step.setup.flatMap (·.references)

theorem SetupAction.needs_eq_map (action : SetupAction) :
    action.needs = action.references.map (·.caseId) := by
  cases action <;> rfl

theorem Step.needs_eq_map (step : Step) : step.needs = step.references.map (·.caseId) := by
  rw [needs, references, List.map_flatMap]
  exact List.flatMap_congr fun action _ => action.needs_eq_map

/-- **The typed references of a step are those that its document names**, action by action
and all together. The first part says more than the second one: from the references of the
whole step it could not be told which action has which of them. -/
theorem Step.references_eq_of_read {d : Document} {location : String} {step : Step}
    (h : Step.read d location = .ok step) :
    List.Forall₂ (fun a action => actionIds a = action.references.map (·.caseId))
        (d.itemsOf "setup") step.setup
      ∧ referencedIds d = step.references.map (·.caseId) := by
  obtain ⟨-, hsetup⟩ := exists_of_read h
  constructor
  · refine hsetup.imp fun a action hread => ?_
    rw [← SetupAction.needs_of_read hread, action.needs_eq_map]
  · rw [← (of_read h).2, step.needs_eq_map]

/-- A step whose setup refers to other cases in all ways that there are, to one of them
twice. -/
def referring : Document :=
  .mapping [("case_id", .text "e"), ("request", .null),
    ("setup", .list [.mapping [("testcase", .text "a")],
      .mapping [("sql", .text "select 1")],
      .mapping [("testcase", .mapping [("case_id", .text "b"), ("key", .text "k"),
        ("jsonpath", .text "$.id")])],
      .mapping [("testcase", .list [.text "c", .mapping [("case_id", .text "a")]])]])]

/-- The references of that step. -/
theorem Step.references_of_referring :
    ∃ step, Step.read referring "cases.yaml" = .ok step
      ∧ referencedIds referring = step.references.map (·.caseId)
      ∧ step.references = [.plain "a", .extracting "b" (some "k") (some "$.id"), .plain "c",
          .extracting "a" none none] := by
  obtain ⟨step, hread, hreferences⟩ : ∃ step, Step.read referring "cases.yaml" = .ok step
      ∧ step.references = [.plain "a", .extracting "b" (some "k") (some "$.id"), .plain "c",
          .extracting "a" none none] := ⟨_, rfl, rfl⟩
  exact ⟨step, hread, (Step.references_eq_of_read hread).2, hreferences⟩

end CaseRunner
