import CaseRunner.Case.Vocabulary
import CaseRunner.FileSystem
import CaseRunner.Variables.Cache
import CaseRunner.Variables.DotEnv
import CaseRunner.Yaml.Reading
import CaseRunner.Yaml.Writing

/-!
# Variables

Variables live in three tiers: the cache, which lasts no longer than the run; the
tier of the chosen environment, kept in an environment file, whose keys are upper
case; and the global tier, kept in a YAML file. A variable that is looked up
without a scope is looked for in that order.

Other runs may write the files. Before a tier is changed its file is read again,
so that what others have written is not lost; then the changed tier is written
back.

Relation variables are values that the setup of one case hands to its request.
They live in the cache, under keys of their own.
-/

namespace CaseRunner

/-- The variables of a run. -/
structure Store where
  /-- The cache. -/
  cache : Cache := .empty
  /-- The tier of the environment, ascending in the keys, which are upper case. -/
  env : DotEnv.Entries := []
  /-- The file of the environment. -/
  envFile : Option String := none
  /-- The global tier, ascending in the keys. -/
  global : List (String × String) := []
  /-- The file of the global tier. -/
  globalFile : Option String := none

/-- A computation that may change variables and the files that keep them. -/
abbrev Storing := ExceptT RunError (StateM (Store × FileSystem))

namespace Store

/-- The error of a file. -/
def fileError (f : FileFault) : RunError := .io f.reason

/-! ## Files -/

/-- Reads a file if there is one. -/
def readIfThere (fs : FileSystem) (path : String) : Except RunError (Option String) :=
  if fs.exists path then ((fs.readText path).map some).mapError fileError else .ok none

/-- Reads an environment file; there are no variables if there is no file. -/
def readEnv (fs : FileSystem) (path : String) : Except RunError DotEnv.Entries := do
  return ((← readIfThere fs path).map DotEnv.read).getD []

/-- Reads a global file. Values that are no texts become the texts that stand for
them. -/
def readGlobal (fs : FileSystem) (path : String) :
    Except RunError (List (String × String)) := do
  match ← readIfThere fs path with
  | none => return []
  | some content =>
    if Text.isBlankText content then return []
    else
      let entries ← Yaml.readAs Schema.fields content
      return entries.map fun (k, d) => (k, d.display)

/-- Writes a text into a file, making the directories above it. -/
def writeFile (fs : FileSystem) (path content : String) : Except RunError FileSystem :=
  Except.mapError fileError do
    let fs ← match FileSystem.parent? path with
      | none | some "" => pure fs
      | some directory => fs.makeDirectories directory
    fs.write path content

/-- The variables in files. -/
def «open» (fs : FileSystem) (envFile globalFile : String) : Except RunError Store := do
  let env ← readEnv fs envFile
  let global ← readGlobal fs globalFile
  return { env, envFile, global, globalFile }

/-- Adds variables to the environment in memory. -/
def withEnv (s : Store) (entries : List (String × String)) : Store :=
  { s with env := Document.insertAll (entries.map fun (k, v) => (Text.toUpper k, v)) s.env }

/-- Adds variables to the global tier in memory. -/
def withGlobal (s : Store) (entries : List (String × String)) : Store :=
  { s with global := Document.insertAll entries s.global }

/-! ## Looking up -/

/-- The value of a variable in one scope. -/
def lookupIn (s : Store) (now : Moment) (key : String) : Scope → Option String
  | .cache => s.cache.get? key now
  | .env => Document.field? (Text.toUpper key) s.env
  | .global => Document.field? key s.global

/-- The value of a variable, in one scope or in the first that has one. -/
def lookup (s : Store) (now : Moment) (key : String) (scope? : Option Scope) :
    Option String :=
  match scope? with
  | some scope => s.lookupIn now key scope
  | none => ((s.lookupIn now key .cache).or (s.lookupIn now key .env)).or
      (s.lookupIn now key .global)

/-- The value of a variable; it must have one. -/
def value (s : Store) (now : Moment) (key : String) (scope? : Option Scope) :
    Except RunError String :=
  match s.lookup now key scope? with
  | some v => .ok v
  | none =>
    let place := match scope? with
      | some scope => "the " ++ scope.spelling ++ " scope"
      | none => "cache, env or global scope"
    .error (.variable ("variable '" ++ key ++ "' not found in " ++ place))

/-! ## Changing -/

/-- Reads the file of the environment again. -/
def rereadEnv : Storing Unit := do
  let (s, fs) ← get
  if let some path := s.envFile then
    let env ← ExceptT.mk (pure (readEnv fs path))
    set ({ s with env }, fs)

/-- Reads the global file again. -/
def rereadGlobal : Storing Unit := do
  let (s, fs) ← get
  if let some path := s.globalFile then
    let global ← ExceptT.mk (pure (readGlobal fs path))
    set ({ s with global }, fs)

/-- Writes the environment into its file. -/
def saveEnv : Storing Unit := do
  let (s, fs) ← get
  if let some path := s.envFile then
    let fs ← ExceptT.mk (pure (writeFile fs path (DotEnv.write s.env)))
    set (s, fs)

/-- Writes the global tier into its file. -/
def saveGlobal : Storing Unit := do
  let (s, fs) ← get
  if let some path := s.globalFile then
    let fs ← ExceptT.mk (pure (writeFile fs path (Yaml.writeTexts s.global)))
    set (s, fs)

/-- Changes the variables in memory. -/
def change (f : Store → Store) : Storing Unit := modify fun (s, fs) => (f s, fs)

/-- Sets a variable; only the cache minds when it expires. -/
def put (now : Moment) (key value : String) (scope : Scope) (expiry : Option Moment) :
    Storing Unit := do
  match scope with
  | .cache => change fun s => { s with cache := s.cache.set key value expiry now }
  | .env =>
    rereadEnv
    change fun s => { s with env := Document.insertField (Text.toUpper key) value s.env }
    saveEnv
  | .global =>
    rereadGlobal
    change fun s => { s with global := Document.insertField key value s.global }
    saveGlobal

/-- Sets a variable, for a while if a time to live is given, in nanoseconds. Only the
cache minds it, and there the moment of expiry has to be one that the clock can show. -/
def putFor (now : Moment) (key value : String) (scope : Scope) (ttl : Option Nat) :
    Except (Stop RunError) (Storing Unit) := do
  let expiry ← match scope with
    | .cache => ttl.mapM (Cache.expiryAfter now)
    | .env | .global => pure none
  return put now key value scope expiry

/-- Removes a variable from a scope. Was it there? -/
def delete (key : String) (scope : Scope) : Storing Bool := do
  match scope with
  | .cache =>
    let (s, _) ← get
    change fun s => { s with cache := s.cache.erase key }
    return s.cache.holds key
  | .env =>
    rereadEnv
    let (s, _) ← get
    if (Document.field? (Text.toUpper key) s.env).isSome then
      change fun s => { s with env := Document.eraseField (Text.toUpper key) s.env }
      saveEnv
      return true
    else return false
  | .global =>
    rereadGlobal
    let (s, _) ← get
    if (Document.field? key s.global).isSome then
      change fun s => { s with global := Document.eraseField key s.global }
      saveGlobal
      return true
    else return false

/-! ## Relation variables -/

/-- The key in the cache of a relation variable. -/
def relationKey (name : String) : String := "relation:" ++ name

/-- Sets a relation variable. -/
def setRelation (s : Store) (now : Moment) (name value : String) : Store :=
  { s with cache := s.cache.set (relationKey name) value none now }

/-- The value of a relation variable. -/
def relation? (s : Store) (now : Moment) (name : String) : Option String :=
  s.cache.get? (relationKey name) now

/-- The value of a relation variable; it must have one. -/
def relation (s : Store) (now : Moment) (name : String) : Except RunError String :=
  match s.relation? now name with
  | some v => .ok v
  | none => .error (.variable ("relation variable '^" ++ name ++ "' not found in cache; " ++
      "it must be produced by a setup testcase or sql action of this case"))

/-- Is there an entry for a relation variable? -/
def holdsRelation (s : Store) (name : String) : Bool := s.cache.holds (relationKey name)

/-- Removes a relation variable. -/
def eraseRelation (s : Store) (name : String) : Store :=
  { s with cache := s.cache.erase (relationKey name) }

end Store

end CaseRunner
