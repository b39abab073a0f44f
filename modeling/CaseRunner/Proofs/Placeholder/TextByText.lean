import CaseRunner.Proofs.Document.TextByText
import CaseRunner.Proofs.Placeholder.Again
import CaseRunner.Proofs.Placeholder.Errors
import CaseRunner.Proofs.Placeholder.Remembering

/-!
# Placeholders are replaced text by text

Three passes go over the texts of a document: macros are expanded, variables are replaced,
relation variables are filled in. Each of them does to a text what it would do to this text
alone, if the document held nothing else and held it at the same place. So a text that
fails is found by itself, and the error says where it is (`passes_work_text_by_text`).

The place matters to the first pass, which leaves the payloads of hooks alone. The last
pass remembers values from text to text, which makes no difference.
-/

namespace CaseRunner.Placeholder

open Document

/-- The error is of a kind, and its text begins with the location and the place in the
document there. The two are joined in one way, so that one can tell from the text where it
points. -/
abbrev TellsIn (kind : String → RunError) (location : String) (place : Place) :
    RunError → Prop :=
  Tells kind (place.render location)

section Functions

variable {r : Registry} (look : r.Pure) (calls : Calls) (location : String)

include look

/-- What expanding the macros of a document comes to, whatever calls were made before. -/
theorem answers_replaceFunctions (d : Document) :
    Answers (replaceFunctions r location d)
      (d.replaceTexts isHook (expansion r calls location) []) := by
  rw [replaceFunctions_eq]
  exact answers_replaceTexts (answers_expand look calls location) [] d

/-- **Expanding macros works text by text**, for functions that look at their arguments
alone. For others the calls made for one text could be seen from the next one. -/
theorem textByText_replaceFunctions : TextByText (TellsIn .function location)
    fun d => ((replaceFunctions r location d).run calls).1 := by
  have pass : (fun d => ((replaceFunctions r location d).run calls).1)
      = replaceTexts isHook (expansion r calls location) [] :=
    funext fun d => answers_replaceFunctions look calls location d calls
  rw [pass]
  exact textByText_replaceTexts fun place s e he =>
    tells_expand r (place.render location) s calls e _ (Prod.ext he rfl)

end Functions

section Variables

variable (store : Store) (now : Moment) (location : String)

theorem textByText_replaceVariables :
    TextByText (TellsIn .variable location) (replaceVariables store now location) := by
  rw [funext (replaceVariables_eq store now location)]
  exact textByText_replaceTexts fun place s =>
    tells_substituteVariables store now (place.render location) s

/-- Relation variables, too, are put in text by text. They are remembered from one text to
the next, which makes no difference; and what is taken out of the store afterwards is left
out here. -/
theorem textByText_replaceRelations : TextByText (TellsIn .variable location)
    fun d => (replaceRelations store now location d).map Prod.fst := by
  have pass : (fun d => (replaceRelations store now location d).map Prod.fst)
      = replaceTexts (fun _ _ => false)
        (fun place s => substituteRelations store now (place.render location) s) [] := by
    funext d
    rw [replaceRelations_eq]
    cases replaceTexts (fun _ _ => false)
      (fun place s => substituteRelations store now (place.render location) s) [] d <;> rfl
  rw [pass]
  exact textByText_replaceTexts fun place s =>
    tells_substituteRelations store now (place.render location) s

end Variables

/-- **Each pass works text by text**: the one over macros, where functions look at their
arguments alone, the one over variables, and the one over relation variables. What the
first one answers does not depend on the calls made before, and the last one may as well
remember the values that it finds.

So a document can be split at will: whoever wants to know what becomes of a text, or why a
document is refused, may look at the text by itself. -/
theorem passes_work_text_by_text {r : Registry} (look : r.Pure) (store : Store) (now : Moment)
    (location : String) :
    ((∀ d, Settled (replaceFunctions r location d)) ∧ ∀ calls,
        TextByText (TellsIn .function location)
          fun d => ((replaceFunctions r location d).run calls).1)
      ∧ TextByText (TellsIn .variable location) (replaceVariables store now location)
      ∧ TextByText (TellsIn .variable location)
          (fun d => (replaceRelations store now location d).map Prod.fst)
      ∧ ∀ d, replaceRelationsOnce store now location d
          = replaceRelations store now location d :=
  ⟨⟨fun d => ⟨_, answers_replaceFunctions look ⟨0, fun _ => ⟨0, id⟩⟩ location d⟩,
      fun calls => textByText_replaceFunctions look calls location⟩,
    textByText_replaceVariables store now location,
    textByText_replaceRelations store now location,
    replaceRelationsOnce_eq store now location⟩

/-- In a list whose second text has a macro of its own, the macro is expanded as it would be
behind a null. -/
theorem passes_work_text_by_text_of_list :
    let r := Registry.empty.register "one" fun _ _ => .ok "1"
    let calls : Calls := ⟨0, fun _ => ⟨0, id⟩⟩
    r.Pure
      ∧ ((replaceFunctions r "t" (.list [.text "x", .text "$\x7bone()\x7d"])).run calls).1
        = .ok (.list [.text "x", .text "1"])
      ∧ ((replaceFunctions r "t" (.list [.null, .text "$\x7bone()\x7d"])).run calls).1
        = .ok (.list [.null, .text "1"]) := by
  intro r calls
  have look : r.Pure := Registry.pure_empty.register (fun _ _ _ => rfl) "one"
  have all : ((replaceFunctions r "t" (.list [.text "x", .text "$\x7bone()\x7d"])).run calls).1
      = .ok (.list [.text "x", .text "1"]) := rfl
  obtain ⟨⟨-, functions⟩, -⟩ := passes_work_text_by_text look {} 0 "t"
  obtain ⟨-, becomes⟩ := (functions calls).ok _ _ all
  refine ⟨look, all, ?_⟩
  cases becomes with
  | cons _ rest =>
    cases rest with
    | cons second _ => exact second.2

end CaseRunner.Placeholder
