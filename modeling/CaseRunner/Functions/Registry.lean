import CaseRunner.Error
import CaseRunner.Functions.Calendar

/-!
# Functions that documents may call

A macro in a document names a function of the registry, and nothing outside the
registry is ever evaluated. A function sees its arguments and the circumstances
of the call – the moment and a supply of random numbers – and gives a text or an
error. Functions that look at their arguments alone are `Pure`.

Calls are counted, and the circumstances of the `n`-th call are the `n`-th of a
given stream. So a run is determined by its inputs, and whatever functions may
do from call to call is some stream.
-/

namespace CaseRunner

/-- What a function may draw on besides its arguments. -/
structure Circumstance where
  /-- The moment of the call. -/
  moment : Moment
  /-- Random numbers, as many as are wanted. -/
  random : Nat → Nat

/-- A function that macros may call. -/
abbrev MacroFunction := Circumstance → List String → Except RunError String

/-- The functions that are known, by name; a later one of a name replaces an
earlier one. -/
structure Registry where
  /-- The functions and their names. -/
  functions : List (String × MacroFunction)

namespace Registry

/-- The registry without functions. -/
def empty : Registry := ⟨[]⟩

/-- The function with the given name. -/
def find? (r : Registry) (name : String) : Option MacroFunction := r.functions.lookup name

/-- Is there a function with the given name? -/
def contains (r : Registry) (name : String) : Bool := (r.find? name).isSome

/-- Adds a function. -/
def register (r : Registry) (name : String) (f : MacroFunction) : Registry :=
  ⟨(name, f) :: r.functions⟩

/-- Calls a function by name. -/
def call (r : Registry) (name : String) (c : Circumstance) (args : List String) :
    Except RunError String :=
  match r.find? name with
  | some f => f c args
  | none => .error (.function ("function '" ++ name ++ "' is not registered"))

/-- Every function looks at its arguments alone. -/
def Pure (r : Registry) : Prop :=
  ∀ name f, r.find? name = some f → ∀ c c' args, f c args = f c' args

@[simp] theorem find?_register_self (r : Registry) (name : String) (f : MacroFunction) :
    (r.register name f).find? name = some f := by
  simp [register, find?]

theorem find?_register_of_ne (r : Registry) {name other : String} (f : MacroFunction)
    (h : other ≠ name) : (r.register name f).find? other = r.find? other := by
  have hne : (other == name) = false := by simpa using h
  simp [register, find?, List.lookup_cons, hne]

/-- A pure registry answers a call the same whatever the circumstances. -/
theorem Pure.call_eq {r : Registry} (h : r.Pure) (name : String) (c c' : Circumstance)
    (args : List String) : r.call name c args = r.call name c' args := by
  unfold call
  split
  · rename_i f hf
    exact h name f hf c c' args
  · rfl

end Registry

/-- How many calls have been made, and the circumstances of all calls. -/
structure Calls where
  /-- The number of calls so far. -/
  made : Nat
  /-- The circumstances of each call. -/
  circumstances : Nat → Circumstance

/-- The circumstances of the next call, and the calls after it. -/
def Calls.next (c : Calls) : Circumstance × Calls :=
  (c.circumstances c.made, { c with made := c.made + 1 })

end CaseRunner
