import CaseRunner.Document.Basic

/-!
# The texts of a document

A document is changed text by text: every text in it is visited in order,
members in the order of their names, and replaced. Names are left alone. Each
visit is told the place of the text, so that it can treat texts by their
place and say where it failed.
-/

namespace CaseRunner

namespace Document

/-- A step from a document to a part of it. -/
inductive Segment where
  /-- To the member with a name. -/
  | key (name : String)
  /-- To the item with an index. -/
  | index (i : Nat)
  deriving DecidableEq, Repr

/-- The steps to a part of a document, the last one first. -/
abbrev Place := List Segment

/-- The place of a part of the document at a location. -/
def Place.render (location : String) : Place → String
  | [] => location
  | .key name :: outer => render location outer ++ ":" ++ name
  | .index i :: outer => render location outer ++ "[" ++ toString i ++ "]"

/-- Is the place an action of a step? -/
def Place.isAction : Place → Bool
  | .index _ :: .key parent :: _ => parent == "setup" || parent == "teardown"
  | _ => false

variable {m : Type → Type} [Monad m]

/-! ## Walks

One who walks through a document keeps the steps that lead to where he is on a stack, and
takes the last one off it when he comes back. So the place of a text is not handed down to
it but is what the stack is when the text is visited. -/

/-- Goes a step further for a while. -/
def inside {α : Type} (step : Segment) (walk : StateT Place m α) : StateT Place m α := do
  modify (step :: ·)
  let a ← walk
  modify List.tail
  return a

mutual

/-- Walks through a document and replaces its texts. Members that `skip` names at the place
of their mapping are left alone, with all they hold. -/
def walkTexts (skip : Place → String → Bool) (visit : Place → String → m String) :
    Document → StateT Place m Document
  | .text s => do return .text (← visit (← get) s)
  | .list items => do return .list (← walkItemTexts skip visit 0 items)
  | .mapping fields => do
    let skipped := skip (← get)
    return .mapping (← walkFieldTexts skip visit skipped fields)
  | .null => return .null
  | .bool b => return .bool b
  | .number n => return .number n

/-- `walkTexts` for the items of a list from an index on. -/
def walkItemTexts (skip : Place → String → Bool) (visit : Place → String → m String)
    (i : Nat) : List Document → StateT Place m (List Document)
  | [] => return []
  | d :: rest => do
    let d ← inside (.index i) (walkTexts skip visit d)
    return d :: (← walkItemTexts skip visit (i + 1) rest)

/-- `walkTexts` for the members of a mapping, of which some are skipped. -/
def walkFieldTexts (skip : Place → String → Bool) (visit : Place → String → m String)
    (skipped : String → Bool) :
    List (String × Document) → StateT Place m (List (String × Document))
  | [] => return []
  | (name, d) :: rest => do
    let d ← if skipped name then pure d else inside (.key name) (walkTexts skip visit d)
    return (name, d) :: (← walkFieldTexts skip visit skipped rest)

end

/-- Replaces the texts of a document, walking through it from the top. -/
def visitTexts (skip : Place → String → Bool) (visit : Place → String → m String)
    (d : Document) : m Document :=
  (walkTexts skip visit d).run' []

mutual

/-- The texts of a document in the order of visits. -/
def leaves : Document → List String
  | .text s => [s]
  | .list items => itemLeaves items
  | .mapping fields => fieldLeaves fields
  | _ => []

/-- The texts of the items of a list. -/
def itemLeaves : List Document → List String
  | [] => []
  | d :: rest => leaves d ++ itemLeaves rest

/-- The texts of the members of a mapping. -/
def fieldLeaves : List (String × Document) → List String
  | [] => []
  | (_, d) :: rest => leaves d ++ fieldLeaves rest

end

end Document

end CaseRunner
