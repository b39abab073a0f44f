import CaseRunner.Crash
import CaseRunner.Document.Reading
import CaseRunner.Error
import CaseRunner.FileSystem
import CaseRunner.Reply
import CaseRunner.Request.Basic

/-!
# Replies as they come

A transport hands back bytes. A reply is made of them once: the body is read as a
document if it is one, and shown as text in any case.
-/

namespace CaseRunner

/-- What a transport hands back. -/
structure RawReply where
  /-- The address that answered. -/
  url : String := ""
  /-- The status code. -/
  statusCode : Nat := 200
  /-- The headers, ascending in their names. -/
  headers : List (String × String) := []
  /-- The cookies, ascending in their names. -/
  cookies : List (String × String) := []
  /-- The body. -/
  body : List UInt8 := []
  /-- The nanoseconds that the answer took. -/
  elapsed : Nat := 0
  deriving DecidableEq, Repr

/-- The reply that the bytes make. -/
def RawReply.toReply (r : RawReply) : Reply :=
  let text := Text.decodeLossy r.body
  { url := r.url, statusCode := r.statusCode, elapsed := seconds r.elapsed
    headers := r.headers, cookies := r.cookies
    json := ((Text.decode? r.body).bind Document.ofText?).getD .null
    content := text, text }

/-- What comes of sending a request. -/
structure Delivery where
  /-- The nanoseconds that it took. -/
  duration : Nat
  /-- The answer, or why there is none. -/
  result : Except (Stop RunError) RawReply

/-- A transport: what comes of a request, given the files and the requests sent
before it, the last one first. -/
abbrev Transport := FileSystem → List Request → Request → Delivery

end CaseRunner
