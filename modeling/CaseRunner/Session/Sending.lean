import CaseRunner.Session.Basic

/-!
# Sending in a run

Requests go through the transport of their engine. Where the settings say how to
log in, a request that does not carry credentials of its own gets a token, which is
kept among the variables until it expires; without one there is a login first.
-/

namespace CaseRunner

namespace Session

/-- Hands a request to its transport. If the transport crashes, what did not fit there is
noted. -/
def send (suite : Suite) (caseId? : Option String) (r : Request) : Run RawReply := do
  let s ← get
  let delivery := suite.transport r.engine s.files s.sent r
  record (.sent caseId? r)
  modify fun s => { s with now := s.now + delivery.duration }
  if let .error (.crash q _) := delivery.result then
    record (.measured q)
  stopping delivery.result

/-- The variable that holds the token. -/
def tokenKey : String := "auth_token"

end Session

namespace Login

/-- The headers of the login. A body is a document unless a header says another
thing. -/
def requestHeaders (a : Login) : List (String × String) :=
  let hs := a.headers.map fun (name, d) => (name, d.display)
  if a.body.isNull then hs
  else Headers.setIfAbsent hs contentTypeHeader BodyType.json.contentType

/-- The request of the login, sent as the request is that needs the token. -/
def request (a : Login) (url : String) (r : Request) : Request :=
  { method := a.method, url, params := [], headers := a.requestHeaders
    body := if a.body.isNull then .none else .bytes (Text.encode a.body.render)
    files := [], timeout := r.timeout, verify := r.verify, proxies := r.proxies
    retry := r.retry, engine := r.engine }

/-- Keeps a token for as long as it may be used. When that is over has to be a moment that
the clock can show. -/
def keepToken (a : Login) (token : String) : Run Unit := do
  let now := (← get).now
  Session.record (.measured (.moment (now + a.lifetime)))
  let keep ← Session.stopping (Store.putFor now Session.tokenKey token .cache (some a.lifetime))
  Session.storing keep

/-- The token in the reply to a login at an address. -/
def tokenIn (a : Login) (url : String) (reply : Reply) : Except RunError String := do
  if 400 ≤ reply.statusCode then
    .error (.send ("auth: login to " ++ url ++ " returned status " ++
      toString reply.statusCode))
  else
    let found ← JsonPath.findFirst reply.json a.tokenPath "auth:token_jsonpath"
    return found.display

/-- Logs in for a request and keeps the token. -/
def fetchToken (a : Login) (suite : Suite) (r : Request) : Run String := do
  let url ← Session.result ((Request.address (← get).store a.url).mapError fun text =>
    .requestData ("auth:url: " ++ text))
  let raw ← Session.send suite none (a.request url r)
  let token ← Session.result (a.tokenIn url raw.toReply)
  a.keepToken token
  return token

/-- The request with credentials. -/
def apply (a : Login) (suite : Suite) (r : Request) : Run Request := do
  if (r.header? a.header).isSome then return r
  let s ← get
  let token ← match s.store.lookupIn s.now Session.tokenKey .cache with
    | some token => pure token
    | none => a.fetchToken suite r
  return r.setHeader a.header (a.credentials token)

end Login

end CaseRunner
