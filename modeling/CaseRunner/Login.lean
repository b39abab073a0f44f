import CaseRunner.Case.Writing

/-!
# Logging in

How a run gets its token: a request to an address, whose reply holds the token, and
the header that carries it from then on. A token is used for some time before the
next login.
-/

namespace CaseRunner

/-- How a token is obtained and sent. -/
structure Login where
  /-- The address. -/
  url : String
  /-- The method of the request. -/
  method : Method := .post
  /-- The body of the request, if it is not null. -/
  body : Document := .null
  /-- The headers of the request. -/
  headers : Fields := []
  /-- Where the token stands in the body of the reply. -/
  tokenPath : String
  /-- The header that carries the token. -/
  header : String := "Authorization"
  /-- What stands before the token in the header. -/
  scheme : String := "Bearer"
  /-- The seconds that a token is used for. -/
  ttl : Nat := 3600

namespace Login

/-- How a login is read. -/
def record {σ : Type} [Source σ] : Schema.Record σ Login where
  title := "AuthSettings"
  fields := [("url", .required), ("method", .optional), ("body", .optional),
    ("headers", .optional), ("token_jsonpath", .required), ("header", .optional),
    ("scheme", .optional), ("ttl", .optional)]
  start := { url := "", tokenPath := "" }
  set a field d :=
    match field with
    | "url" => (Schema.text d).map fun v => { a with url := v }
    | "method" => (Schema.name Method.names d).map fun v => { a with method := v }
    | "body" => (Schema.anything d).map fun v => { a with body := v }
    | "headers" => (Schema.fields d).map fun v => { a with headers := v }
    | "token_jsonpath" => (Schema.text d).map fun v => { a with tokenPath := v }
    | "header" => (Schema.text d).map fun v => { a with header := v }
    | "scheme" => (Schema.text d).map fun v => { a with scheme := v }
    | "ttl" => (Schema.whole (pow2 64) "u64" d).map fun v => { a with ttl := v }
    | _ => .ok a

/-- A login as a document. -/
def toDocument (a : Login) : Document :=
  .record [("url", .text a.url), ("method", .text a.method.spelling), ("body", a.body),
    ("headers", .mapping a.headers), ("token_jsonpath", .text a.tokenPath),
    ("header", .text a.header), ("scheme", .text a.scheme), ("ttl", .int a.ttl)]

/-- The nanoseconds that a token may be used for. -/
def lifetime (a : Login) : Nat := a.ttl * 1000000000

/-- What the header holds for a token. -/
def credentials (a : Login) (token : String) : String :=
  if a.scheme.isEmpty then token else a.scheme ++ " " ++ token

end Login

end CaseRunner
