import CaseRunner.Login
import CaseRunner.Request.Basic
import CaseRunner.Variables.Store

/-!
# Settings

A run is set up by a YAML file. Everything in it has a default, and so has the file
as a whole. Paths in it are taken from the directory of the file.
-/

namespace CaseRunner

/-- How a run is set up. -/
structure Settings where
  /-- The name of the environment. -/
  env : String := "dev"
  /-- The directory of the environment files. -/
  envDir : String := "environments"
  /-- The file of the global variables. -/
  globalFile : String := "globals.yaml"
  /-- The directory of the files that are sent. -/
  filesDir : String := "files"
  /-- The seconds that a request may take. -/
  timeout : Binary64 := .ofInt 30
  /-- How often a request is tried again. -/
  retry : Nat := 3
  /-- The engine. -/
  engine : Engine := .standard
  /-- The file of the database. -/
  database : Option String := none
  /-- How a token is obtained. -/
  auth : Option Login := none

namespace Settings

/-- The text of a path. -/
def path {σ : Type} [Source σ] (s : σ) : Except ReadFault String :=
  match Source.text? s with
  | some t => .ok t
  | none => Schema.mismatch "path string" s

/-- How settings are read. -/
def record {σ : Type} [Source σ] : Schema.Record σ Settings where
  title := "Settings"
  fields := ["env", "env_dir", "global_file", "files_dir", "timeout", "retry", "engine",
    "database", "auth"].map fun f => (f, .optional)
  start := {}
  set c field d :=
    match field with
    | "env" => (Schema.text d).map fun v => { c with env := v }
    | "env_dir" => (path d).map fun v => { c with envDir := v }
    | "global_file" => (path d).map fun v => { c with globalFile := v }
    | "files_dir" => (path d).map fun v => { c with filesDir := v }
    | "timeout" => (Schema.real d).map fun v => { c with timeout := v }
    | "retry" => (Schema.whole (pow2 32) "u32" d).map fun v => { c with retry := v }
    | "engine" => (Schema.name Engine.names d).map fun v => { c with engine := v }
    | "database" => (Schema.optional path d).map fun v => { c with database := v }
    | "auth" => (Schema.optional Login.record.read d).map fun v => { c with auth := v }
    | _ => .ok c

/-- Settings as a document. -/
def toDocument (c : Settings) : Document :=
  .record [("env", .text c.env), ("env_dir", .text c.envDir),
    ("global_file", .text c.globalFile), ("files_dir", .text c.filesDir),
    ("timeout", .ofBinary64 c.timeout), ("retry", .int c.retry),
    ("engine", .text c.engine.spelling), ("database", .ofText c.database),
    ("auth", (c.auth.map Login.toDocument).getD .null)]

/-- The settings with their paths taken from a directory. -/
def inDirectory (c : Settings) (directory : String) : Settings :=
  let inside := FileSystem.join directory
  { c with
    envDir := inside c.envDir, globalFile := inside c.globalFile
    filesDir := inside c.filesDir, database := c.database.map inside }

/-- Reads the text of a settings file. -/
def ofText (file content : String) : Except RunError Settings :=
  if Text.isBlankText content then .ok {}
  else
    (Yaml.readAs record.read content).mapError fun e =>
      let reason := match e with
        | .yaml text => text
        | e => e.message
      .configInit ("invalid settings " ++ Text.inQuotes file ++ ": " ++ reason ++
        "; expected env/env_dir/global_file/files_dir/timeout/retry/engine/database/auth")

/-- Reads a settings file; without one there are the defaults. -/
def load (fs : FileSystem) (file : String) : Except RunError Settings := do
  let c ←
    if fs.exists file then
      match fs.readText file with
      | .ok content => ofText file content
      | .error e => throw (.configInit ("cannot read settings " ++ Text.inQuotes file ++ ": " ++
          e.reason))
    else pure {}
  if (Binary64.zero false).lt c.timeout && c.timeout.isFinite then
    return c.inDirectory ((FileSystem.parent? file).getD "")
  else throw (.configInit ("settings timeout must be a positive number of seconds, found " ++
    Decimal.plainText c.timeout))

/-- The file of the environment. -/
def envFile (c : Settings) : String := FileSystem.join c.envDir (c.env ++ ".env")

/-- How requests are made where nothing else is said. -/
def requestDefaults (c : Settings) : RequestDefaults :=
  { timeout := c.timeout, retry := c.retry, engine := c.engine, filesDir := c.filesDir }

end Settings

end CaseRunner
