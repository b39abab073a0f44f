import CaseRunner.Document.Leaves
import CaseRunner.Functions.Registry
import CaseRunner.Text.Blank
import CaseRunner.Text.Letters
import CaseRunner.Text.Search
import CaseRunner.Variables.DotEnv

/-!
# Function macros

`${name(argument, …)}` in a text stands for what the registered function gives.
All macros of a text are expanded in one round, from left to right; if the new
text holds macros again, another round follows, up to `roundLimit`. So macros may
be nested, and an expansion that goes on for ever is refused.

The texts of hooks are not expanded with the document but when the hook runs.
-/

namespace CaseRunner

/-- A computation that may call functions. -/
abbrev Calling := ExceptT RunError (StateM Calls)

namespace Placeholder

/-- How often the placeholders of a text are replaced before it is refused. -/
def roundLimit : Nat := 32

/-- A macro in a text. -/
structure Macro where
  /-- The name of the function. -/
  name : String
  /-- What stands between the parentheses. -/
  arguments : List Char
  /-- How many characters the macro has. -/
  size : Nat
  deriving DecidableEq, Repr

/-- A character that may stand between the parentheses of a macro. -/
def isArgumentChar (c : Char) : Bool :=
  Text.isWordChar c || Text.isBlank c || c ∈ ",.-:/+@%'\"".toList

/-- The name at the beginning of a text, as long as it goes. -/
def nameAt? (s : List Char) : Option (List Char) :=
  match s with
  | c :: rest =>
    if Text.isNameStart c then some (c :: rest.takeWhile Text.isWordChar) else none
  | [] => none

/-- The macro at the beginning of a text. -/
def macroAt? : List Char → Option Macro
  | '$' :: '{' :: s => do
    let name ← nameAt? s
    match s.drop name.length with
    | '(' :: s =>
      let arguments := s.takeWhile isArgumentChar
      match s.drop arguments.length with
      | ')' :: '}' :: _ =>
        some ⟨String.ofList name, arguments, name.length + arguments.length + 5⟩
      | _ => none
    | _ => none
  | _ => none

/-- Does a text hold a macro? -/
def hasMacro : List Char → Bool
  | [] => false
  | c :: rest => (macroAt? (c :: rest)).isSome || hasMacro rest

/-- An argument without the blanks around it and without one pair of quotes. -/
def readArgument (s : List Char) : String :=
  let s := Text.trim s
  String.ofList
    (((DotEnv.stripQuotes? '\'' s).or (DotEnv.stripQuotes? '"' s)).getD s)

/-- The arguments between the parentheses of a macro. -/
def readArguments (s : List Char) : List String :=
  if s.all Text.isBlank then [] else (Text.splitBy (· == ',') s).map readArgument

/-- Calls a function. -/
def invoke (r : Registry) (name : String) (args : List String) : Calling String := do
  let (c, calls) := (← get).next
  set calls
  ExceptT.mk (pure (r.call name c args))

/-- Why a macro failed, without the kind of the error if it is the usual one. -/
def failureReason : RunError → String
  | .function text => text
  | e => e.message

/-- What a macro at a place stands for. -/
def expandMacro (r : Registry) (place : String) (written : List Char) (m : Macro) :
    Calling String := do
  let shown := "'" ++ String.ofList written ++ "'"
  if !r.contains m.name then
    throw (.function (place ++ ": cannot resolve macro " ++ shown ++ ": function '" ++
      m.name ++ "' is not registered"))
  (invoke r m.name (readArguments m.arguments)).adapt fun e =>
    .function (place ++ ": macro " ++ shown ++ " failed: " ++ failureReason e)

/-- Replaces the macros of a text once, from left to right. So many characters
belong to a macro that has been replaced. -/
def expandOnce (r : Registry) (place : String) : Nat → List Char → Calling (List Char)
  | _, [] => return []
  | skip + 1, _ :: rest => expandOnce r place skip rest
  | 0, c :: rest =>
    match macroAt? (c :: rest) with
    | some m => do
      let value ← expandMacro r place ((c :: rest).take m.size) m
      return value.toList ++ (← expandOnce r place (m.size - 1) rest)
    | none => do return c :: (← expandOnce r place 0 rest)

/-- Replaces the macros of a text until there is none, in so many rounds at
most. -/
def expandRounds (r : Registry) (place : String) (source : String) :
    Nat → List Char → Calling (List Char)
  | rounds, s =>
    if hasMacro s then
      match rounds with
      | 0 => throw (.function (place ++ ": function macros kept expanding after " ++
          toString roundLimit ++ " rounds in '" ++ source ++ "'"))
      | rounds + 1 => do
        let s ← expandOnce r place 0 s
        expandRounds r place source rounds s
    else return s

/-- The text with its macros expanded. -/
def expand (r : Registry) (place : String) (s : String) : Calling String := do
  return String.ofList (← expandRounds r place s roundLimit s.toList)

/-- Is the member of a document the text of a hook? -/
def isHook (place : Document.Place) (name : String) : Bool :=
  place.isAction && name == "hook"

/-- The document at a location with its macros expanded, those of hooks apart. -/
def replaceFunctions (r : Registry) (location : String) (d : Document) : Calling Document :=
  d.visitTexts isHook fun place s => expand r (place.render location) s

/-- Runs the hook at a location: it must call a function. -/
def runHook (r : Registry) (location : String) (hook : String) : Calling String :=
  if hasMacro hook.toList then expand r location hook
  else throw (.requestData (location ++ ": hook '" ++ hook ++
    "' must call a registered function as $\x7bname(args)\x7d"))

end Placeholder

end CaseRunner
