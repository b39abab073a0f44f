import CaseRunner.Decimal.Reading
import CaseRunner.Sending.Retry
import CaseRunner.Text.Quoted
import CaseRunner.Text.Search

/-!
# What keeps a request from being sent

Before anything goes over a wire a request has to be put together: the proxies and
the address must make sense, the files must be there, and the headers must be such
as can be sent. `Request.obstacle?` finds the first reason why a request cannot be
put together. Connecting is not part of this library; a request without an obstacle
fails as one that nobody answers.
-/

namespace CaseRunner

/-- What an address can be. -/
inductive AddressKind where
  /-- No address. -/
  | malformed
  /-- An address without a scheme. -/
  | relative
  /-- An address without a host, or of another scheme than the web's. -/
  | foreign
  /-- An address on the web. -/
  | web
  deriving DecidableEq, Repr

namespace AddressKind

/-- A character that may follow the first one of a scheme. -/
def isSchemeChar (c : Char) : Bool := c.isAlphanum || c ∈ ['+', '-', '.']

/-- The scheme of an address, in lower case, and the rest behind the colon. -/
def scheme? (s : List Char) : Option (String × List Char) :=
  match s with
  | c :: _ =>
    let scheme := s.takeWhile isSchemeChar
    match s.drop scheme.length with
    | ':' :: rest =>
      if c.isAlpha then some (String.ofList (scheme.map Char.toLower), rest) else none
    | _ => none
  | [] => none

/-- A character that no host has. -/
def isForbiddenInHost (c : Char) : Bool :=
  c.toNat ≤ 0x20 || c.toNat = 0x7f || c ∈ "#/:<>?@[\\]^|%".toList

/-- Can a row of characters be the number behind the colon of a host? -/
def isHostNumber (s : List Char) : Bool :=
  s.all Char.isDigit && Decimal.digitsValue s < pow2 16

/-- Can a row of characters be a host, with or without a number? -/
def isHost (s : List Char) : Bool :=
  match s with
  | '[' :: rest =>
    match Text.splitOnce? ']' rest with
    | some (inside, behind) =>
      !inside.isEmpty && inside.all (fun c => c.isAlphanum || c == ':' || c == '.') &&
        (match behind with
          | [] => true
          | ':' :: number => isHostNumber number
          | _ => false)
    | none => false
  | s =>
    let (host, number) := (Text.splitOnce? ':' s).getD (s, [])
    !host.isEmpty && !host.any isForbiddenInHost && isHostNumber number

/-- The part of an address between the slashes that open it and its path, without
the name of a user. -/
def hostPart (s : List Char) : List Char :=
  let authority := (s.dropWhile fun c => c == '/' || c == '\\').takeWhile fun c =>
    c != '/' && c != '\\' && c != '?' && c != '#'
  (authority.reverse.takeWhile (· != '@')).reverse

/-- What an address is. -/
def ofText (url : String) : AddressKind :=
  let s := url.toList.filter fun c => c != '\t' && c != '\n' && c != '\r'
  match scheme? (s.dropWhile fun c => c.toNat ≤ 0x20) with
  | none => .relative
  | some (scheme, rest) =>
    if scheme = "http" || scheme = "https" then
      if isHost (hostPart rest) then .web else .malformed
    else .foreign

end AddressKind

/-- Can a text be the name of a header that is sent? -/
def isHeaderName (s : String) : Bool :=
  !s.isEmpty && s.toList.all fun c => c.isAlphanum || c ∈ "!#$%&'*+-.^_\x60|~".toList

/-- Can a text be the value of a header that is sent? -/
def isHeaderValue (s : String) : Bool :=
  s.toList.all fun c => (0x20 ≤ c.toNat && c.toNat != 0x7f) || c == '\t'

/-- Can a text be a proxy? A scheme may be left out. -/
def isProxy (s : String) : Bool :=
  match AddressKind.ofText s with
  | .web => true
  | .malformed => false
  | .relative | .foreign => AddressKind.ofText ("http://" ++ s) == .web

namespace Request

/-- The reason for a request that cannot be put together. -/
def unbuildable : String := "builder error"

/-- Is the body sent in several parts? -/
def isMultipart (r : Request) : Bool :=
  !r.files.isEmpty || match r.body with
    | .form _ => true
    | _ => false

/-- The headers that are sent: a body in several parts names its own type. -/
def sentHeaders (r : Request) : List (String × String) :=
  if r.isMultipart then
    r.headers.filter fun h => !Headers.sameName h.1 contentTypeHeader
  else r.headers

/-- Why a proxy cannot be used. -/
def proxyObstacle? (kind : String) (proxy? : Option String) : Option String :=
  (proxy?.filter fun p => !isProxy p).map fun p =>
    "invalid " ++ kind ++ " proxy '" ++ p ++ "': " ++ unbuildable

/-- Why the proxies cannot be used. -/
def proxiesObstacle? (r : Request) : Option String :=
  r.proxies.bind fun p => (proxyObstacle? "http" p.http).or (proxyObstacle? "https" p.https)

/-- Why the files cannot be sent. -/
def filesObstacle? (fs : FileSystem) (r : Request) : Option String :=
  r.files.findSome? fun (_, path) =>
    match fs.read path with
    | .ok _ => none
    | .error e => some ("cannot read " ++ Text.inQuotes path ++ ": " ++ e.reason)

/-- Why the address and the headers cannot be sent. -/
def headObstacle? (r : Request) : Option String :=
  let badHeader := r.sentHeaders.any fun h => !isHeaderName h.1 || !isHeaderValue h.2
  match AddressKind.ofText r.url with
  | .malformed | .relative => some unbuildable
  | .foreign => some (unbuildable ++ " for url (" ++ r.url ++ ")")
  | .web => if badHeader then some unbuildable else none

/-- The first reason why a request cannot be put together. -/
def obstacle? (fs : FileSystem) (r : Request) : Option String :=
  (r.proxiesObstacle?.or (r.filesObstacle? fs)).or r.headObstacle?

/-- A try without a connection. -/
def attempt (fs : FileSystem) (r : Request) : Except String RawReply :=
  .error ((r.obstacle? fs).getD ("error sending request for url (" ++ r.url ++ ")"))

end Request

/-- The transport without a connection. -/
def offline : Transport := fun fs _ r => deliver r fun _ => r.attempt fs

end CaseRunner
