import CaseRunner.Placeholder.Macro
import CaseRunner.Variables.Store

/-!
# Variables in texts

`${name}` and `$name` stand for variables, `^{name}` and `^name` for relation
variables. The braced form may stand anywhere. The bare form takes the longest
name; for variables it must stand alone between blanks or the ends of the text,
for relation variables it need not.

Variables are replaced until none is left, up to a limit, so that a variable may
hold placeholders. Relation variables are replaced once: what they hold is not
looked at again. A document takes its relation variables out of the store, all of
them or, if one is missing, none.
-/

namespace CaseRunner.Placeholder

/-- A form of placeholder. -/
structure Form where
  /-- The sign that it begins with. -/
  sigil : Char
  /-- Must its bare form stand alone? -/
  standalone : Bool
  deriving DecidableEq, Repr

/-- The form of variables. -/
def variableForm : Form := ⟨'$', true⟩

/-- The form of relation variables. -/
def relationForm : Form := ⟨'^', false⟩

/-- Is there a blank, or nothing? -/
def isGap (c : Option Char) : Bool := c.all Text.isBlank

/-- The placeholder at the beginning of a text, with the character before it: its
name and its size. -/
def placeholderAt? (form : Form) (before : Option Char) (s : List Char) :
    Option (String × Nat) :=
  match s with
  | c :: '{' :: rest =>
    let name := rest.takeWhile Text.isWordChar
    if c = form.sigil && !name.isEmpty && (rest.drop name.length).head? = some '}' then
      some (String.ofList name, name.length + 3)
    else none
  | c :: rest =>
    match nameAt? rest with
    | some name =>
      if c = form.sigil &&
          (!form.standalone || (isGap before && isGap (rest.drop name.length).head?)) then
        some (String.ofList name, name.length + 1)
      else none
    | none => none
  | [] => none

/-- The names of the placeholders of a text, from left to right. -/
def names (form : Form) : Option Char → Nat → List Char → List String
  | _, _, [] => []
  | _, skip + 1, c :: rest => names form (some c) skip rest
  | before, 0, c :: rest =>
    match placeholderAt? form before (c :: rest) with
    | some (name, size) => name :: names form (some c) (size - 1) rest
    | none => names form (some c) 0 rest

/-- Does a text hold a placeholder? -/
def hasPlaceholder (form : Form) (s : List Char) : Bool := !(names form none 0 s).isEmpty

/-- Replaces the placeholders of a text once, from left to right. So many
characters belong to a placeholder that has been replaced. -/
def substitute (form : Form) (resolve : String → Except RunError String) :
    Option Char → Nat → List Char → Except RunError (List Char)
  | _, _, [] => .ok []
  | _, skip + 1, c :: rest => substitute form resolve (some c) skip rest
  | before, 0, c :: rest =>
    match placeholderAt? form before (c :: rest) with
    | some (name, size) => do
      let value ← resolve name
      return value.toList ++ (← substitute form resolve (some c) (size - 1) rest)
    | none => do return c :: (← substitute form resolve (some c) 0 rest)

/-- An error with a place in front; errors of other kinds than variables show
their kind. -/
def variableError (place : String) (e : RunError) : RunError :=
  match e with
  | .variable text => .variable (place ++ ": " ++ text)
  | e => .variable (place ++ ": " ++ e.message)

/-- Replaces the variables of a text until there is none, in so many rounds at
most. -/
def substituteRounds (resolve : String → Except RunError String) (place : String) :
    Nat → List Char → Except RunError (List Char)
  | rounds, s =>
    if hasPlaceholder variableForm s then
      match rounds with
      | 0 => .error (.variable (place ++ ": variables kept expanding after " ++
          toString roundLimit ++ " rounds"))
      | rounds + 1 => do
        let s ← substitute variableForm resolve none 0 s
        substituteRounds resolve place rounds s
    else .ok s

/-- The text at a place with its variables replaced. -/
def substituteVariables (store : Store) (now : Moment) (place : String) (s : String) :
    Except RunError String := do
  let resolve (name : String) := (store.value now name none).mapError (variableError place)
  return String.ofList (← substituteRounds resolve place roundLimit s.toList)

/-- The document at a location with its variables replaced. -/
def replaceVariables (store : Store) (now : Moment) (location : String) (d : Document) :
    Except RunError Document :=
  d.visitTexts (fun _ _ => false) fun place s =>
    substituteVariables store now (place.render location) s

/-- The text at a place with its relation variables replaced. -/
def substituteRelations (store : Store) (now : Moment) (place : String) (s : String) :
    Except RunError String := do
  let resolve (name : String) := (store.relation now name).mapError (variableError place)
  return String.ofList (← substitute relationForm resolve none 0 s.toList)

/-- The names of the relation variables of a document. -/
def relationNames (d : Document) : List String :=
  d.leaves.flatMap fun s => names relationForm none 0 s.toList

/-- The document at a location with its relation variables replaced, and the
variables without those. -/
def replaceRelations (store : Store) (now : Moment) (location : String) (d : Document) :
    Except RunError (Document × Store) := do
  let replaced ← d.visitTexts (fun _ _ => false) fun place s =>
    substituteRelations store now (place.render location) s
  return (replaced, (relationNames d).foldl Store.eraseRelation store)

/-- The document at a location with its macros expanded and its variables
replaced. -/
def replacePlaceholders (r : Registry) (store : Store) (now : Moment) (location : String)
    (d : Document) : Calling Document := do
  let d ← replaceFunctions r location d
  ExceptT.mk (pure (replaceVariables store now location d))

end CaseRunner.Placeholder
