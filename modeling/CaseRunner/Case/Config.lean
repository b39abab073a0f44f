import CaseRunner.Case.Vocabulary
import CaseRunner.Decimal.Notation
import CaseRunner.Decimal.Reading
import CaseRunner.Error
import CaseRunner.Text.Blank
import CaseRunner.Text.LetterCase

/-!
# The configuration of a document

The `config` section of a document says how all its requests are made. Numbers
and truth values may be given as texts, because that is what placeholders leave
behind.
-/

namespace CaseRunner

/-- The proxies that requests go through. -/
structure Proxies where
  /-- The proxy for plain connections. -/
  http : Option String := none
  /-- The proxy for encrypted connections. -/
  https : Option String := none
  deriving DecidableEq, Repr

/-- How the requests of a document are made. -/
structure Config where
  /-- The name of the environment. -/
  env : Option String := none
  /-- Labels for reports. -/
  allure : Fields := []
  /-- Headers of every request. -/
  headers : Fields := []
  /-- The seconds that a request may take. -/
  timeout : Option Binary64 := none
  /-- Are certificates checked? -/
  verify : Option Bool := none
  /-- The proxies. -/
  proxies : Option Proxies := none
  /-- How often a failed request is tried again. -/
  retry : Option Nat := none
  /-- The engine. -/
  engine : Option Engine := none

namespace Schema

/-- A number, or the text of one; null for nothing. -/
def numberLike? (d : Document) : Except ReadFault (Option Binary64) :=
  match d with
  | .null => .ok none
  | .number n => .ok (some n.toBinary64)
  | .text s =>
    match Decimal.ofText? (Text.trimmed s) with
    | some x => .ok (some x)
    | none => .error (.other ("expected a number, found '" ++ s ++ "'"))
  | d => .error (.other ("expected a number, found " ++ d.render))

/-- A number, or the text of one. -/
def numberLike (d : Document) : Except ReadFault Binary64 := do
  match ← numberLike? d with
  | some x => return x
  | none => throw (.other "expected a number")

/-- A count below `2 ^ 32`, or the text of one; null for nothing. -/
def countLike? (d : Document) : Except ReadFault (Option Nat) := do
  match ← numberLike? d with
  | none => return none
  | some x =>
    let n := x.truncate 0 (pow2 32)
    if x.isWhole && x.eq (.ofInt n) && n < pow2 32 then return some n.toNat
    else throw (.other ("expected a non-negative integer, found " ++ Decimal.plainText x))

/-- A truth value, or the text of one in any letter case; null for nothing. -/
def truthLike? (d : Document) : Except ReadFault (Option Bool) :=
  match d with
  | .null => .ok none
  | .bool b => .ok (some b)
  | .text s =>
    match Text.toLower (Text.trimmed s) with
    | "true" => .ok (some true)
    | "false" => .ok (some false)
    | _ => .error (.other ("expected a boolean, found '" ++ s ++ "'"))
  | d => .error (.other ("expected a boolean, found " ++ d.render))

end Schema

namespace Proxies

/-- How proxies are read. -/
def record : Schema.Record Document Proxies where
  title := "Proxies"
  fields := [("http", .nullable), ("https", .nullable)]
  start := {}
  set p field d :=
    match field with
    | "http" => (Schema.optional Schema.text d).map fun v => { p with http := v }
    | "https" => (Schema.optional Schema.text d).map fun v => { p with https := v }
    | _ => .ok p

end Proxies

namespace Config

/-- How a configuration is read. -/
def record : Schema.Record Document Config where
  title := "Config"
  fields := [("env", .optional), ("allure", .optional), ("headers", .optional),
    ("timeout", .optional), ("verify", .optional), ("proxies", .optional),
    ("retry", .optional), ("engine", .optional)]
  start := {}
  set c field d :=
    match field with
    | "env" => (Schema.optional Schema.text d).map fun v => { c with env := v }
    | "allure" => (Schema.fields d).map fun v => { c with allure := v }
    | "headers" => (Schema.fields d).map fun v => { c with headers := v }
    | "timeout" => (Schema.numberLike? d).map fun v => { c with timeout := v }
    | "verify" => (Schema.truthLike? d).map fun v => { c with verify := v }
    | "proxies" =>
      (Schema.optional Proxies.record.read d).map fun v => { c with proxies := v }
    | "retry" => (Schema.countLike? d).map fun v => { c with retry := v }
    | "engine" =>
      (Schema.optional (Schema.name Engine.names) d).map fun v => { c with engine := v }
    | _ => .ok c

/-- Reads the section of the document at a location. Where there is none, nothing
is configured. -/
def read (section? : Option Document) (location : String) : Except RunError Config :=
  match section? with
  | none | some .null => .ok {}
  | some d => (record.read d).mapError fun fault =>
    .requestData (joinPath location "config" ++ ": " ++ fault.message ++
      "; expected a mapping with env/headers/timeout/verify/proxies/retry/engine")

end Config

end CaseRunner
