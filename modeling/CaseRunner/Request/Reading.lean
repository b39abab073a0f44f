import CaseRunner.Case.Action
import CaseRunner.FileSystem
import CaseRunner.Request.Basic
import CaseRunner.Variables.Store

/-!
# Requests from documents

The `request` section of a step, its placeholders replaced, becomes a request.
The fields are read in the order of `RequestField`, and the first one that cannot
be read stops the reading; the fault says which one it is (`RequestFault`). What
the section leaves open comes from the configuration of the document, and what
that leaves open from the defaults of the run.

The timeout is a number like the others to whoever wrote it, but there may be no room
for so long a time (`Quantity.span`). That is found out as soon as the timeout is read,
before the fields behind it are, and it is no fault: the program ends there. So the
reading has two parts, a draft that comes up to the timeout (`Request.Draft`), and the
rest.
-/

namespace CaseRunner

/-- The fields of a request that can be at fault, in the order of reading. -/
inductive RequestField where
  | method | url | params | bodyType | headers | body | files | timeout | verify | engine
  deriving DecidableEq, Repr

namespace RequestField

/-- The name of a field in a document. -/
def name : RequestField → String
  | .method => "method"
  | .url => "url"
  | .params => "params"
  | .bodyType => "body_type"
  | .headers => "headers"
  | .body => "body"
  | .files => "files"
  | .timeout => "timeout"
  | .verify => "verify"
  | .engine => "engine"

end RequestField

/-- Why a field cannot be used. -/
structure RequestFault where
  /-- The field. -/
  field : RequestField
  /-- The member of the field that is at fault, if it is one. -/
  member? : Option String := none
  /-- The reason. -/
  text : String
  deriving DecidableEq, Repr

/-- The fault with the location of the section. -/
def RequestFault.message (f : RequestFault) (location : String) : String :=
  let place := joinPath location f.field.name
  (f.member?.elim place (joinPath place)) ++ ": " ++ f.text

namespace Request

/-! ## Fields -/

/-- Reads a field, which is absent when null. -/
def field? {α : Type} (read : Document → Except ReadFault α) (fields : Fields)
    (field : RequestField) : Except RequestFault (Option α) :=
  match Document.field? field.name fields with
  | none | some .null => .ok none
  | some d => ((read d).map some).mapError fun fault => { field, text := fault.message }

/-- Reads a field that must be there. -/
def required {α : Type} (read : Document → Except ReadFault α) (fields : Fields)
    (field : RequestField) (missing : String) : Except RequestFault α := do
  match ← field? read fields field with
  | some a => return a
  | none => throw { field, text := missing }

/-- Reads names and values; the values become the texts that stand for them. -/
def pairs (fields : Fields) (field : RequestField) :
    Except RequestFault (List (String × String)) := do
  let mapping ← (field? Schema.fields fields field).mapError fun fault =>
    { fault with text := "expected a mapping of names to values" }
  return (mapping.getD []).map fun (name, d) => (name, d.display)

/-- Reads a number, or the text of one. -/
def number? (fields : Fields) (field : RequestField) :
    Except RequestFault (Option Binary64) :=
  let refused (d : Document) : Except RequestFault (Option Binary64) :=
    .error { field, text := "expected a number, found " ++ d.render }
  match Document.field? field.name fields with
  | none | some .null => .ok none
  | some (.number n) => .ok (some n.toBinary64)
  | some (.text s) =>
    match Decimal.ofText? (Text.trimmed s) with
    | some x => .ok (some x)
    | none => refused (.text s)
  | some d => refused d

/-- Reads a truth value, or the text of one in any letter case. -/
def truth? (fields : Fields) (field : RequestField) : Except RequestFault (Option Bool) :=
  let refused (d : Document) : Except RequestFault (Option Bool) :=
    .error { field, text := "expected true or false, found " ++ d.render }
  match Document.field? field.name fields with
  | none | some .null => .ok none
  | some (.bool b) => .ok (some b)
  | some (.text s) =>
    if Text.eqIgnoringAsciiCase s "true" then .ok (some true)
    else if Text.eqIgnoringAsciiCase s "false" then .ok (some false)
    else refused (.text s)
  | some d => refused d

/-! ## The address -/

/-- Is an address complete? -/
def isAbsolute (url : String) : Bool :=
  "http://".isPrefixOf url || "https://".isPrefixOf url

/-- A path on a host, with one slash between them. -/
def onHost (host path : String) : String :=
  let host := String.ofList (host.toList.reverse.dropWhile (· == '/')).reverse
  let path := String.ofList (path.toList.dropWhile (· == '/'))
  if path.isEmpty then host else host ++ "/" ++ path

/-- The variable of the environment that holds the host. -/
def hostKey : String := "HOST"

/-- The address that a field gives: paths are taken on the host of the
environment. -/
def address (store : Store) (url : String) : Except String String :=
  if isAbsolute url then .ok url
  else
    match Document.field? hostKey store.env with
    | some host => .ok (onHost host url)
    | none => .error ("'" ++ url ++ "' is a path but the environment has no " ++ hostKey ++
        "; expected " ++ hostKey ++ "=http(s)://host[:port] in the env file")

/-! ## Headers -/

/-- The headers of a request: those of the configuration, those of the section in
their place, and what the body is unless one of them says it. -/
def headersFrom (configured own : List (String × String)) (bodyType? : Option BodyType) :
    List (String × String) :=
  let hs := own.foldl (fun hs (name, value) => Headers.set hs name value) configured
  match bodyType? with
  | some t => Headers.setIfAbsent hs contentTypeHeader t.contentType
  | none => hs

/-! ## Files -/

/-- The path of a file that is sent, which is taken inside the directory of such
files. The file must be there. -/
def locateFile (fs : FileSystem) (filesDir path : String) : Except String String :=
  let full := FileSystem.join filesDir path
  if fs.isFile full then .ok full
  else .error ("file " ++ Text.inQuotes full ++ " does not exist; expected a path relative to " ++
    Text.inQuotes filesDir ++ " or an absolute path")

/-- The files under one name. -/
def filesUnder (fs : FileSystem) (filesDir : String) (member : String × Document) :
    Except RequestFault (List (String × String)) := do
  let fault (text : String) : RequestFault :=
    { field := .files, member? := some member.1, text }
  let paths ← (Schema.series Schema.text member.2).mapError fun _ =>
    fault "expected a file path or a list of paths"
  paths.toList.mapM fun path => do
    let full ← (locateFile fs filesDir path).mapError fault
    return (member.1, full)

/-- The files of a request. Only bodies in several parts have room for them. -/
def filesFrom (fs : FileSystem) (filesDir : String) (fields : Fields)
    (bodyType? : Option BodyType) : Except RequestFault (List (String × String)) := do
  match ← field? Schema.fields fields .files with
  | none | some [] => return []
  | some declared =>
    if bodyType?.all (· == .form) then
      return (← declared.mapM (filesUnder fs filesDir)).flatten
    else throw { field := .files
                 text := "files are sent as multipart and need body_type form" }

/-! ## The body -/

/-- The byte that a document is, if it is one. -/
def byte? (d : Document) : Option UInt8 :=
  match d with
  | .number n => (n.nat?.filter (· < 256)).map UInt8.ofNat
  | _ => none

/-- A binary body: the bytes of a file, or a list of bytes. -/
def binaryBody (fs : FileSystem) (filesDir : String) : Document → Except String Body
  | .text path => do
    let full ← locateFile fs filesDir path
    match fs.read full with
    | .ok content => return .bytes content.toBytes
    | .error e => throw ("cannot read " ++ Text.inQuotes full ++ ": " ++ e.reason)
  | .list items =>
    match items.mapM byte? with
    | some bytes => .ok (.bytes bytes)
    | none => .error "expected a list of bytes (0-255)"
  | _ => .error "expected a file path or a list of bytes"

/-- A body of named values. -/
def namedBody (make : List (String × String) → Body) : Document → Except String Body
  | .mapping fields => .ok (make (fields.map fun (name, d) => (name, d.display)))
  | _ => .error "expected a mapping of field names to values"

/-- The body that a document is, encoded as its type says. -/
def bodyOf (fs : FileSystem) (filesDir : String) (d : Document) : BodyType → Except String Body
  | .json => .ok (.bytes (Text.encode d.render))
  | .graphql =>
    match d.get? "query" with
    | some (.text _) => .ok (.bytes (Text.encode d.render))
    | _ => .error "expected a mapping with a 'query' string and optional 'variables'"
  | .binary => binaryBody fs filesDir d
  | .form => namedBody .form d
  | .urlencoded => namedBody .urlEncoded d
  | .text | .script | .html | .xml => .ok (.text (d.text?.getD d.render))

/-- The body of a request. -/
def bodyFrom (fs : FileSystem) (filesDir : String) (fields : Fields)
    (bodyType? : Option BodyType) : Except RequestFault Body :=
  let fault (text : String) : RequestFault := { field := .body, text }
  match Document.field? "body" fields with
  | none | some .null => .ok .none
  | some d =>
    match bodyType? with
    | some t => (bodyOf fs filesDir d t).mapError fault
    | none => .error (fault ("body_type is required when a body is set; expected one of " ++
        "form/urlencoded/binary/graphql/text/script/json/html/xml"))

/-! ## The request -/

/-- The seconds that a request may take: a positive number. -/
def timeoutFrom (fields : Fields) (config : Config) (defaults : RequestDefaults) :
    Except RequestFault Binary64 := do
  let own ← number? fields .timeout
  let x := (own.or config.timeout).getD defaults.timeout
  if (Binary64.zero false).lt x && x.isFinite then return x
  else throw { field := .timeout
               text := "expected a positive number of seconds, found " ++ Decimal.plainText x }

/-- What is read of a request before it is known whether there is room for the time that
it may take. -/
structure Draft where
  /-- The method. -/
  method : Method
  /-- The address. -/
  url : String
  /-- The parameters of the query. -/
  params : List (String × String)
  /-- The headers. -/
  headers : List (String × String)
  /-- The body. -/
  body : Body
  /-- The files to be sent, each with its field. -/
  files : List (String × String)
  /-- The seconds that the request may take. -/
  seconds : Binary64

/-- Reads the fields of a section up to the timeout. -/
def draft (fields : Fields) (config : Config) (store : Store) (fs : FileSystem)
    (defaults : RequestDefaults) : Except RequestFault Draft := do
  let method ← required (Schema.name Method.names) fields .method
    "missing; expected one of GET/POST/PUT/DELETE/PATCH"
  let path ← required Schema.text fields .url
    "missing; expected a path such as /api/users or an absolute URL"
  let url ← (address store path).mapError fun text => { field := .url, text }
  let params ← pairs fields .params
  let bodyType? ← field? (Schema.name BodyType.names) fields .bodyType
  let own ← pairs fields .headers
  let configured := config.headers.map fun (name, d) => (name, d.display)
  let headers := headersFrom configured own bodyType?
  let body ← bodyFrom fs defaults.filesDir fields bodyType?
  let files ← filesFrom fs defaults.filesDir fields bodyType?
  let seconds ← timeoutFrom fields config defaults
  return { method, url, params, headers, body, files, seconds }

/-- Reads the fields behind the timeout, which are those that finish the request. -/
def Draft.finish (r : Draft) (timeout : Nat) (fields : Fields) (config : Config)
    (defaults : RequestDefaults) : Except RequestFault Request := do
  let verify ← truth? fields .verify
  let engine ← field? (Schema.name Engine.names) fields .engine
  return {
    method := r.method, url := r.url, params := r.params, headers := r.headers
    body := r.body, files := r.files, timeout
    verify := (verify.or config.verify).getD true
    proxies := config.proxies
    retry := config.retry.getD defaults.retry
    engine := (engine.or config.engine).getD defaults.engine }

/-- The request that the fields of a section stand for. -/
def ofFields (fields : Fields) (config : Config) (store : Store) (fs : FileSystem)
    (defaults : RequestDefaults) : Except (Stop RequestFault) Request := do
  let r ← Stop.lift (draft fields config store fs defaults)
  let timeout ← nanoseconds r.seconds
  Stop.lift (r.finish timeout fields config defaults)

/-- The request of the step at a location. -/
def ofDocument (d : Document) (config : Config) (store : Store) (fs : FileSystem)
    (defaults : RequestDefaults) (location : String) : Except (Stop RunError) Request :=
  let location := joinPath location "request"
  match d with
  | .mapping fields =>
    (ofFields fields config store fs defaults).mapError
      (Stop.map fun fault => .requestData (fault.message location))
  | _ => Stop.lift (.error (.requestData (location ++
      ": expected a mapping with method/url/params/headers/body_type/body/files")))

/-- The seconds that the request of a step may take, if the reading comes so far. -/
def seconds? (d : Document) (config : Config) (store : Store) (fs : FileSystem)
    (defaults : RequestDefaults) : Option Binary64 :=
  match d with
  | .mapping fields => (draft fields config store fs defaults).toOption.map (·.seconds)
  | _ => none

end Request

end CaseRunner
