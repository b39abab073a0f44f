import CaseRunner.Schema.Source

/-!
# Replies

What came back for a request, as assertions and extractions see it: a tree with
the answer itself, its metadata, and the rows that teardown actions have asked
for.
-/

namespace CaseRunner

/-- The answer to a request. -/
structure Reply where
  /-- The address that answered. -/
  url : String := ""
  /-- The status code. -/
  statusCode : Nat := 0
  /-- The seconds that the request took. -/
  elapsed : Binary64 := .zero false
  /-- The headers, ascending in their names. -/
  headers : List (String × String) := []
  /-- The cookies, ascending in their names. -/
  cookies : List (String × String) := []
  /-- The body as a document; null if it is none. -/
  json : Document := .null
  /-- The body as text. -/
  content : String := ""
  /-- The body as text. -/
  text : String := ""
  /-- The milliseconds from the beginning of the setup. -/
  executeTime : Binary64 := .zero false
  /-- The columns of the rows that teardown actions have asked for. -/
  sqlData : Document := .null

namespace Reply

/-- Texts by name as a document. -/
def textFields (fields : List (String × String)) : Document :=
  .mapping (fields.map fun (k, v) => (k, .text v))

/-- The tree that assertions look into. -/
def toDocument (r : Reply) : Document :=
  .mapping [("content", .text r.content), ("cookies", textFields r.cookies),
    ("elapsed", .ofBinary64 r.elapsed), ("headers", textFields r.headers),
    ("json", r.json), ("sql_data", r.sqlData),
    ("stat", .mapping [("execute_time", .ofBinary64 r.executeTime)]),
    ("status_code", .int r.statusCode), ("text", .text r.text), ("url", .text r.url)]

/-- How the statistics of a reply are read. -/
def statRecord : Schema.Record Document Binary64 where
  title := "ExecutionStat"
  fields := [("execute_time", .required)]
  start := .zero false
  set t field d := if field = "execute_time" then Schema.real d else .ok t

/-- How a reply is read; what is left out has its default. -/
def record : Schema.Record Document Reply where
  title := "ResponseMeta"
  fields := ["url", "status_code", "elapsed", "headers", "cookies", "json", "content",
    "text", "stat", "sql_data"].map fun f => (f, .optional)
  start := {}
  set r field d :=
    match field with
    | "url" => (Schema.text d).map fun v => { r with url := v }
    | "status_code" => (Schema.whole (pow2 16) "u16" d).map fun v => { r with statusCode := v }
    | "elapsed" => (Schema.real d).map fun v => { r with elapsed := v }
    | "headers" => (Schema.mapping Schema.text d).map fun v => { r with headers := v }
    | "cookies" => (Schema.mapping Schema.text d).map fun v => { r with cookies := v }
    | "json" => .ok { r with json := d }
    | "content" => (Schema.text d).map fun v => { r with content := v }
    | "text" => (Schema.text d).map fun v => { r with text := v }
    | "stat" => (statRecord.read d).map fun v => { r with executeTime := v }
    | "sql_data" => .ok { r with sqlData := d }
    | _ => .ok r

end Reply

end CaseRunner
