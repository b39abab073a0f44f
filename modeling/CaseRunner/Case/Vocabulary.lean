import CaseRunner.Schema.Source

/-!
# The words of cases

The values that cases and settings give by name: request methods, body types,
engines, scopes of variables and comparators. Each list of names says, in order,
how its values are spelled; some values have several spellings.
-/

namespace CaseRunner

/-- The method of a request. -/
inductive Method where
  | get | post | put | delete | patch
  deriving DecidableEq, Repr

namespace Method

/-- The spellings of the methods. -/
def names : Schema.Names Method :=
  [(.get, ["GET", "get"]), (.post, ["POST", "post"]), (.put, ["PUT", "put"]),
    (.delete, ["DELETE", "delete"]), (.patch, ["PATCH", "patch"])]

/-- The method as it is sent. -/
def spelling : Method → String
  | .get => "GET"
  | .post => "POST"
  | .put => "PUT"
  | .delete => "DELETE"
  | .patch => "PATCH"

end Method

/-- How the body of a request is encoded. -/
inductive BodyType where
  | form | urlencoded | binary | graphql | text | script | json | html | xml
  deriving DecidableEq, Repr

namespace BodyType

/-- The spellings of the body types. -/
def names : Schema.Names BodyType :=
  [(.form, ["form", "multipart"]),
    (.urlencoded, ["url_encoded", "urlencoded", "x-www-form-urlencoded"]),
    (.binary, ["binary"]), (.graphql, ["GraphQL", "graphql"]), (.text, ["text"]),
    (.script, ["script"]), (.json, ["json"]), (.html, ["html"]), (.xml, ["xml"])]

/-- The usual spelling of a body type. -/
def spelling : BodyType → String
  | .form => "form"
  | .urlencoded => "urlencoded"
  | .binary => "binary"
  | .graphql => "graphql"
  | .text => "text"
  | .script => "script"
  | .json => "json"
  | .html => "html"
  | .xml => "xml"

/-- The content type that a body of the type has unless a header says another. -/
def contentType : BodyType → String
  | .form => "multipart/form-data"
  | .urlencoded => "application/x-www-form-urlencoded"
  | .binary => "application/octet-stream"
  | .graphql | .json => "application/json"
  | .text => "text/plain"
  | .script => "application/javascript"
  | .html => "text/html"
  | .xml => "application/xml"

end BodyType

/-- What sends a request. -/
inductive Engine where
  /-- The engine that is used unless another is asked for. -/
  | standard
  /-- The engine that sends one request at a time. -/
  | blocking
  deriving DecidableEq, Repr

namespace Engine

/-- The name of an engine. -/
def spelling : Engine → String
  | .standard => "reqwest"
  | .blocking => "blocking"

/-- The names of the engines. -/
def names : Schema.Names Engine :=
  [.standard, .blocking].map fun e => (e, [e.spelling])

end Engine

/-- The tiers of variables. -/
inductive Scope where
  /-- Variables that live as long as the run, or shorter. -/
  | cache
  /-- Variables of the chosen environment. -/
  | env
  /-- Variables of all environments. -/
  | global
  deriving DecidableEq, Repr

namespace Scope

/-- The name of a scope. -/
def spelling : Scope → String
  | .cache => "cache"
  | .env => "env"
  | .global => "global"

/-- The names of the scopes. -/
def names : Schema.Names Scope :=
  [.cache, .env, .global].map fun s => (s, [s.spelling])

end Scope

/-- How the value that was found is compared with the one expected; the value
found is always on the left. -/
inductive Comparator where
  | eq | notEq | gt | ge | lt | le | strEq
  | lenEq | notLenEq | lenGt | lenGe | lenLt | lenLe
  | contains | notContains | startswith | endswith
  deriving DecidableEq, Repr

namespace Comparator

/-- All comparators in their order. -/
def all : List Comparator :=
  [.eq, .notEq, .gt, .ge, .lt, .le, .strEq, .lenEq, .notLenEq, .lenGt, .lenGe, .lenLt,
    .lenLe, .contains, .notContains, .startswith, .endswith]

/-- The name of a comparator in a case. -/
def spelling : Comparator → String
  | .eq => "eq"
  | .notEq => "not_eq"
  | .gt => "gt"
  | .ge => "ge"
  | .lt => "lt"
  | .le => "le"
  | .strEq => "str_eq"
  | .lenEq => "len_eq"
  | .notLenEq => "not_len_eq"
  | .lenGt => "len_gt"
  | .lenGe => "len_ge"
  | .lenLt => "len_lt"
  | .lenLe => "len_le"
  | .contains => "contains"
  | .notContains => "not_contains"
  | .startswith => "startswith"
  | .endswith => "endswith"

/-- The name of a comparator in a message. -/
def title : Comparator → String
  | .eq => "Eq"
  | .notEq => "NotEq"
  | .gt => "Gt"
  | .ge => "Ge"
  | .lt => "Lt"
  | .le => "Le"
  | .strEq => "StrEq"
  | .lenEq => "LenEq"
  | .notLenEq => "NotLenEq"
  | .lenGt => "LenGt"
  | .lenGe => "LenGe"
  | .lenLt => "LenLt"
  | .lenLe => "LenLe"
  | .contains => "Contains"
  | .notContains => "NotContains"
  | .startswith => "Startswith"
  | .endswith => "Endswith"

/-- The names of the comparators. -/
def names : Schema.Names Comparator := all.map fun c => (c, [c.spelling])

end Comparator

/-- Every method can be read from the way it is sent. -/
theorem Method.find?_spelling (m : Method) : Method.names.find? m.spelling = some m := by
  cases m <;> decide

/-- Every comparator can be read from its name. -/
theorem Comparator.find?_spelling (c : Comparator) :
    Comparator.names.find? c.spelling = some c := by
  cases c <;> decide

end CaseRunner
