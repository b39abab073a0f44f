import CaseRunner.Proofs.Case.Graph
import CaseRunner.Proofs.Session.Course

/-!
# What a case runs is what it needs

The graph of cases is made of the documents as they were loaded, but what is run are the
references of steps whose placeholders have been replaced. Where ids and references are
without placeholders the two are the same: the setup of a case follows the edges of the
graph, in their order, under the id of the case.

With placeholders there is no graph to speak of. What a reference stands for may depend on
variables that the case itself has set, and so may change from one execution to the next.
What is true of all cases, such as that none is run inside itself, is shown without the
graph; what is about the graph, the cycles and the order, assumes `CaseIndex.Plain`.
-/

namespace CaseRunner

open Giving

/-- What a step is read from was the document of its entry, with its placeholders replaced.
There are two documents, as function macros are expanded before variables are replaced, and
either leaves a text without placeholders as it is. -/
theorem CaseEntry.Reads.of_alike {suite : Suite} {entry : CaseEntry} {step : Step}
    (h : entry.Reads suite step) :
    ∃ d₁ d₂, Document.Alike Placeholder.Replaces entry.step d₁
      ∧ Document.Alike Placeholder.Replaces d₁ d₂
      ∧ Step.read d₂ entry.location = .ok step := by
  obtain ⟨s, config, t, h⟩ := h
  obtain ⟨configured, s₁, -, h⟩ := yields_bind_ok_iff.mp h
  obtain ⟨config', s₂, -, h⟩ := yields_bind_ok_iff.mp h
  obtain ⟨d₂, s₃, hres, h⟩ := yields_bind_ok_iff.mp h
  obtain ⟨step', s₄, hread, h⟩ := yields_bind_ok_iff.mp h
  obtain ⟨heq, -⟩ := yields_pure_iff.mp h
  cases heq
  obtain ⟨hread, -⟩ := yields_mk_pure_iff.mp hread
  rw [Session.resolved, yields_get_bind_iff] at hres
  obtain ⟨replaced, calls, hreplace, hlift, -⟩ := Session.Yields.of_calling hres
  obtain rfl := Stop.lift_eq_ok_iff.mp hlift.symm
  obtain ⟨d₁, hd₁, hd₂⟩ := Placeholder.alike_of_replacePlaceholders ⟨_, _, hreplace⟩
  exact ⟨d₁, d₂, hd₁, hd₂, Stop.lift_eq_ok_iff.mp hread.symm⟩

/-- An id without placeholders is the id of the step that is read. -/
theorem CaseEntry.Reads.caseId_of_plain {suite : Suite} {entry : CaseEntry} {step : Step}
    (h : entry.Reads suite step) (named : CaseIndex.idOf? entry.step = some entry.caseId)
    (plain : Placeholder.isPlain entry.caseId = true) : step.caseId = entry.caseId := by
  obtain ⟨d₁, d₂, hd₁, hd₂, hread⟩ := h.of_alike
  obtain ⟨hcase, -⟩ := Step.of_read hread
  obtain ⟨t₁, h₁, same₁⟩ := hd₁.get?_text (CaseIndex.text_of_idOf? named)
  obtain rfl := same₁ plain
  obtain ⟨t₂, h₂, same₂⟩ := hd₂.get?_text h₁
  obtain rfl := same₂ plain
  rw [hcase, Option.some.injEq, Document.text.injEq] at h₂
  exact h₂

/-- **What is run is what the graph says**: without placeholders in them, the id of a case
and its references are those that it was loaded with. This is the bridge between the
modules on the graph, which know nothing of runs, and those on runs. -/
theorem CaseEntry.Reads.of_plain {suite : Suite} {id : String} {entry : CaseEntry}
    {step : Step} (loaded : suite.cases.Loaded) (plain : suite.cases.Plain)
    (hf : suite.cases.find? id = some entry) (h : entry.Reads suite step) :
    step.caseId = id ∧ step.needs = suite.cases.needs id := by
  have hentry : entry ∈ suite.cases.entries := List.mem_of_find?_eq_some hf
  obtain ⟨hid, hneeds⟩ := plain entry hentry
  constructor
  · rw [h.caseId_of_plain (loaded.named entry hentry) hid, CaseIndex.caseId_of_find? hf]
  · obtain ⟨d₁, d₂, hd₁, hd₂, hread⟩ := h.of_alike
    obtain ⟨-, hrefs⟩ := Step.of_read hread
    rw [hrefs, CaseIndex.needs_of_find? hf]
    have hfirst := referencedIds_of_alike hd₁ hneeds
    rw [referencedIds_of_alike hd₂ (hfirst ▸ hneeds), hfirst]

end CaseRunner
