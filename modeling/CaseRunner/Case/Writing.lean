import CaseRunner.Case.Step

/-!
# Cases as documents

The parts of a case written as documents again, with every field there: what may
be left out when it is read is written as null or as its default.
-/

namespace CaseRunner

/-- A mapping of named values. -/
def Document.record (fields : List (String × Document)) : Document :=
  .mapping (Document.ofPairs fields)

/-- A text or null. -/
def Document.ofText : Option String → Document
  | some s => .text s
  | none => .null

/-- A mapping with one name. -/
def Document.tag (name : String) (d : Document) : Document := .mapping [(name, d)]

/-- A series as a document. -/
def Series.toDocument {α : Type} (write : α → Document) : Series α → Document
  | .single a => write a
  | .several as => .list (as.map write)

namespace Config

/-- Proxies as a document. -/
def proxiesDocument : Option Proxies → Document
  | some p => .record [("http", .ofText p.http), ("https", .ofText p.https)]
  | none => .null

/-- A configuration as a document. -/
def toDocument (c : Config) : Document :=
  .record [("env", .ofText c.env), ("allure", .mapping c.allure),
    ("headers", .mapping c.headers),
    ("timeout", (c.timeout.map Document.ofBinary64).getD .null),
    ("verify", (c.verify.map Document.bool).getD .null),
    ("proxies", proxiesDocument c.proxies),
    ("retry", (c.retry.map fun n => Document.int n).getD .null),
    ("engine", .ofText (c.engine.map Engine.spelling))]

end Config

/-- A reference as a document. -/
def CaseReference.toDocument : CaseReference → Document
  | .plain caseId => .text caseId
  | .extracting caseId key jsonpath =>
    .record [("case_id", .text caseId), ("key", .ofText key), ("jsonpath", .ofText jsonpath)]

/-- A setup action as a document. -/
def SetupAction.toDocument : SetupAction → Document
  | .testcase rs => .tag "testcase" (rs.toDocument CaseReference.toDocument)
  | .sql ss => .tag "sql" (ss.toDocument .text)
  | .hook s => .tag "hook" (.text s)
  | .waitTime x => .tag "wait_time" (.ofBinary64 x)

/-- An extraction as a document. -/
def Extraction.toDocument (e : Extraction) : Document :=
  .record [("key", .text e.key), ("scope", .text e.scope.spelling),
    ("jsonpath", .text e.jsonpath)]

/-- An assertion as a document. -/
def AssertItem.toDocument : AssertItem → Document
  | .code s => .text s
  | .path a => .record [("check", .ofText a.check), ("value", a.value),
      ("type", .text a.comparator.spelling), ("jsonpath", .text a.jsonpath),
      ("sql", .ofText a.sql)]

/-- A teardown action as a document. -/
def TeardownAction.toDocument : TeardownAction → Document
  | .sql ss => .tag "sql" (ss.toDocument .text)
  | .hook s => .tag "hook" (.text s)
  | .extract es => .tag "extract" (es.toDocument Extraction.toDocument)
  | .assert items => .tag "assert" (items.toDocument AssertItem.toDocument)
  | .waitTime x => .tag "wait_time" (.ofBinary64 x)

/-- A rule as a document. -/
def RunRule.toDocument : RunRule → Document
  | .flag b => .bool b
  | .skip b reason => .record [("skip", .bool b), ("reason", .ofText reason)]
  | .skipIf conditions reason =>
    .record [("skip_if", .list (conditions.map .text)), ("reason", .ofText reason)]

/-- A step as a document. -/
def Step.toDocument (s : Step) : Document :=
  .record [("name", .text s.name), ("case_id", .text s.caseId),
    ("description", .text s.description), ("is_run", s.isRun.toDocument),
    ("request", s.request), ("setup", .list (s.setup.map SetupAction.toDocument)),
    ("teardown", .list (s.teardown.map TeardownAction.toDocument)),
    ("allure", .mapping s.allure)]

end CaseRunner
