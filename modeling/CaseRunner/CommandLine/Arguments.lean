import CaseRunner.FileSystem
import CaseRunner.Text.LetterCase

/-!
# The arguments of the command line

Options stand before, between or behind the files; behind `--` everything is a file.
The value of an option stands behind it or in the same argument, with or without an
equals sign. One-letter options may share an argument.
-/

namespace CaseRunner

/-- What the command line asks for. -/
structure Arguments where
  /-- The settings file. -/
  settings : Option String := none
  /-- The environment, in place of the one in the settings. -/
  env : Option String := none
  /-- Is more to be logged? -/
  verbose : Bool := false
  /-- The cases to run, if not all. -/
  cases : List String := []
  /-- The case files. -/
  inputFiles : List String := []
  deriving DecidableEq, Repr

/-- The options. -/
inductive CommandOption where
  | settings | env | verbose | case | help
  deriving DecidableEq, Repr

namespace CommandOption

/-- The option with a long name. -/
def ofName? : String → Option CommandOption
  | "settings" => some .settings
  | "env" => some .env
  | "verbose" => some .verbose
  | "case" => some .case
  | "help" => some .help
  | _ => none

/-- The option with a letter. -/
def ofLetter? : Char → Option CommandOption
  | 's' => some .settings
  | 'e' => some .env
  | 'v' => some .verbose
  | 'c' => some .case
  | 'h' => some .help
  | _ => none

/-- Does the option have a value? -/
def hasValue : CommandOption → Bool
  | .settings | .env | .case => true
  | .verbose | .help => false

/-- The long name of an option. -/
def name : CommandOption → String
  | .settings => "--settings"
  | .env => "--env"
  | .verbose => "--verbose"
  | .case => "--case"
  | .help => "--help"

end CommandOption

/-- Why the arguments cannot be used. -/
inductive UsageFault where
  /-- Help was asked for. -/
  | helpWanted
  /-- There is no such option. -/
  | unknownOption (argument : String)
  /-- An option lacks its value. -/
  | missingValue (option : CommandOption)
  /-- An option has a value but takes none. -/
  | unexpectedValue (option : CommandOption)
  /-- An option is there twice. -/
  | repeated (option : CommandOption)
  deriving DecidableEq, Repr

/-- The fault in words. -/
def UsageFault.message : UsageFault → String
  | .helpWanted => "Usage: [OPTIONS] [INPUT_FILES]..."
  | .unknownOption a => "error: unexpected argument '" ++ a ++ "' found"
  | .missingValue o => "error: a value is required for '" ++ o.name ++ "' but none was supplied"
  | .unexpectedValue o =>
    "error: unexpected value for '" ++ o.name ++ "' found; no more were expected"
  | .repeated o => "error: the argument '" ++ o.name ++ "' cannot be used multiple times"

namespace Arguments

/-- Sets an option that has a value. -/
def setValue (a : Arguments) (option : CommandOption) (value : String) :
    Except UsageFault Arguments :=
  match option with
  | .settings =>
    if a.settings.isSome then .error (.repeated option) else .ok { a with settings := value }
  | .env => if a.env.isSome then .error (.repeated option) else .ok { a with env := value }
  | .case => .ok { a with cases := a.cases ++ [value] }
  | .verbose | .help => .error (.unexpectedValue option)

/-- Sets an option that has no value. -/
def setFlag (a : Arguments) (option : CommandOption) : Except UsageFault Arguments :=
  match option with
  | .verbose => if a.verbose then .error (.repeated option) else .ok { a with verbose := true }
  | .help => .error .helpWanted
  | .settings | .env | .case => .error (.missingValue option)

/-- Reads the letters of an argument. An option that still needs its value comes
with the result. -/
def readLetters (argument : String) (a : Arguments) :
    List Char → Except UsageFault (Arguments × Option CommandOption)
  | [] => .ok (a, none)
  | c :: rest =>
    match CommandOption.ofLetter? c with
    | none => .error (.unknownOption argument)
    | some option =>
      if option.hasValue then
        match rest with
        | [] => .ok (a, some option)
        | '=' :: value => (a.setValue option (String.ofList value)).map fun a => (a, none)
        | value => (a.setValue option (String.ofList value)).map fun a => (a, none)
      else
        match a.setFlag option with
        | .ok a => readLetters argument a rest
        | .error fault => .error fault

/-- Reads a long option. An option that still needs its value comes with the
result. -/
def readName (argument : String) (a : Arguments) (name : List Char) :
    Except UsageFault (Arguments × Option CommandOption) :=
  let (key, value?) := match Text.splitOnce? '=' name with
    | some (key, value) => (key, some (String.ofList value))
    | none => (name, none)
  match CommandOption.ofName? (String.ofList key) with
  | none => .error (.unknownOption argument)
  | some option =>
    match value? with
    | some value => (a.setValue option value).map fun a => (a, none)
    | none =>
      if option.hasValue then .ok (a, some option)
      else (a.setFlag option).map fun a => (a, none)

/-- Reads arguments; an option may be waiting for its value. -/
def readFrom (a : Arguments) : Option CommandOption → List String → Except UsageFault Arguments
  | some option, [] => .error (.missingValue option)
  | none, [] => .ok a
  | pending, argument :: rest =>
    match pending, argument.toList with
    | some option, '-' :: _ :: _ => .error (.missingValue option)
    | some option, _ =>
      match a.setValue option argument with
      | .ok a => readFrom a none rest
      | .error fault => .error fault
    | none, ['-', '-'] => .ok { a with inputFiles := a.inputFiles ++ rest }
    | none, '-' :: '-' :: name =>
      match a.readName argument name with
      | .ok (a, pending) => readFrom a pending rest
      | .error fault => .error fault
    | none, '-' :: c :: letters =>
      match a.readLetters argument (c :: letters) with
      | .ok (a, pending) => readFrom a pending rest
      | .error fault => .error fault
    | none, _ => readFrom { a with inputFiles := a.inputFiles ++ [argument] } none rest

/-- Reads the arguments of a command line. -/
def read (arguments : List String) : Except UsageFault Arguments := readFrom {} none arguments

/-- The settings file. -/
def settingsPath (a : Arguments) : String := a.settings.getD "apicase.yaml"

/-- The level of logging. -/
def logLevel (a : Arguments) : String := if a.verbose then "DEBUG" else "INFO"

end Arguments

/-- Why the files of a command line cannot be used. -/
inductive ArgumentFault where
  /-- There are no case files. -/
  | noInputFiles
  /-- A case file is not there. -/
  | fileNotFound (file : String)
  /-- A case file is of an unknown kind. -/
  | unsupportedFormat (file : String)
  /-- The settings file is not there. -/
  | settingsNotFound (file : String)
  deriving DecidableEq, Repr

/-- The fault in words. -/
def ArgumentFault.message : ArgumentFault → String
  | .noInputFiles => "No case files specified"
  | .fileNotFound file => "Case file not found: " ++ file
  | .unsupportedFormat file =>
    "Unsupported case file '" ++ file ++ "': expected a .yaml, .yml or .json document"
  | .settingsNotFound file => "Settings file not found: " ++ file

/-- Is a file a case document, by its name? -/
def isCaseDocument (path : String) : Bool :=
  match (FileSystem.extension? path).map Text.toLower with
  | some ext => ["yaml", "yml", "json"].contains ext
  | none => false

namespace Arguments

/-- Checks the case files. -/
def checkFiles (fs : FileSystem) : List String → Except ArgumentFault Unit
  | [] => .ok ()
  | file :: rest =>
    if !fs.exists file then .error (.fileNotFound file)
    else if !isCaseDocument file then .error (.unsupportedFormat file)
    else checkFiles fs rest

/-- Checks that the files of a command line are there. -/
def check (a : Arguments) (fs : FileSystem) : Except ArgumentFault Unit := do
  if a.inputFiles.isEmpty then throw .noInputFiles
  checkFiles fs a.inputFiles
  match a.settings with
  | some file => if fs.exists file then return () else throw (.settingsNotFound file)
  | none => return ()

end Arguments

end CaseRunner
