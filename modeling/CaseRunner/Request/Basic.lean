import CaseRunner.Case.Config
import CaseRunner.Crash

/-!
# Requests

A request that is ready to be sent. Headers are a list of names and values;
letter case does not count in their names. Setting a header removes all that
stands under its name and puts it at the end.
-/

namespace CaseRunner

/-- The body of a request. -/
inductive Body where
  /-- No body. -/
  | none
  /-- Bytes as they are. -/
  | bytes (bs : List UInt8)
  /-- A text. -/
  | text (s : String)
  /-- Fields of a form in several parts. -/
  | form (pairs : List (String × String))
  /-- Fields of a form in one line. -/
  | urlEncoded (pairs : List (String × String))
  deriving DecidableEq, Repr

/-- A request. -/
structure Request where
  /-- The method. -/
  method : Method
  /-- The address. -/
  url : String
  /-- The parameters of the query. -/
  params : List (String × String)
  /-- The headers. -/
  headers : List (String × String)
  /-- The body. -/
  body : Body
  /-- The files to be sent, each with its field. -/
  files : List (String × String)
  /-- The nanoseconds that the request may take. -/
  timeout : Nat
  /-- Are certificates checked? -/
  verify : Bool
  /-- The proxies. -/
  proxies : Option Proxies
  /-- How often the request is tried again. -/
  retry : Nat
  /-- What sends the request. -/
  engine : Engine
  deriving DecidableEq, Repr

/-- Headers: names and values. -/
abbrev Headers := List (String × String)

/-- The header that says what a body is. -/
def contentTypeHeader : String := "Content-Type"

namespace Headers

/-- Do two names name one header? -/
def sameName (a b : String) : Bool := Text.eqIgnoringAsciiCase a b

/-- The value of the first header of a name. -/
def get? (hs : Headers) (name : String) : Option String :=
  (hs.find? fun h => sameName h.1 name).map (·.2)

/-- The headers with a header set. -/
def set (hs : Headers) (name value : String) : Headers :=
  hs.filter (fun h => !sameName h.1 name) ++ [(name, value)]

/-- The headers with a header added if there is none of its name. -/
def setIfAbsent (hs : Headers) (name value : String) : Headers :=
  if (hs.get? name).isSome then hs else hs ++ [(name, value)]

theorem sameName_comm (a b : String) : sameName a b = sameName b a :=
  Text.eqIgnoringAsciiCase_comm a b

theorem sameName_trans {a b c : String} (hab : sameName a b = true)
    (hbc : sameName b c = true) : sameName a c = true := by
  unfold sameName at *
  rw [Text.eqIgnoringAsciiCase_iff] at *
  exact hab.trans hbc

/-- A header that was set is found under every spelling of its name. -/
theorem get?_set_of_sameName (hs : Headers) {name other : String} (value : String)
    (h : sameName name other = true) : (hs.set name value).get? other = some value := by
  have gone : (hs.filter fun x => !sameName x.1 name).find?
      (fun x => sameName x.1 other) = none := by
    rw [List.find?_eq_none]
    intro x hx same
    have far := (List.mem_filter.1 hx).2
    have near := sameName_trans same (sameName_comm name other ▸ h)
    simp [near] at far
  simp [get?, set, gone, h]

/-- Setting a header leaves the others as they are. -/
theorem get?_set_of_not_sameName (hs : Headers) {name other : String} (value : String)
    (h : sameName name other = false) : (hs.set name value).get? other = hs.get? other := by
  have kept : (hs.filter fun x => !sameName x.1 name).find?
      (fun x => sameName x.1 other) = hs.find? fun x => sameName x.1 other := by
    induction hs with
    | nil => rfl
    | cons x rest ih =>
      cases hx : sameName x.1 name with
      | false => simp [List.find?_cons, hx, ih]
      | true =>
        have far : sameName x.1 other = false := by
          cases ho : sameName x.1 other with
          | false => rfl
          | true =>
            have near := sameName_trans (sameName_comm x.1 name ▸ hx) ho
            simp [near] at h
        simp [hx, far, ih]
  simp [get?, set, List.find?_append, kept, h]

end Headers

namespace Request

/-- The value of a header. -/
def header? (r : Request) (name : String) : Option String := Headers.get? r.headers name

/-- The request with a header set. -/
def setHeader (r : Request) (name value : String) : Request :=
  { r with headers := Headers.set r.headers name value }

end Request

/-- How requests are made where neither the step nor the configuration says. -/
structure RequestDefaults where
  /-- The seconds that a request may take. -/
  timeout : Binary64 := .ofInt 30
  /-- How often a request is tried again. -/
  retry : Nat := 3
  /-- The engine. -/
  engine : Engine := .standard
  /-- The directory of the files that are sent. -/
  filesDir : String := "files"

/-- A number of seconds as nanoseconds, rounded to the nearest, half to even; zero
for negative numbers, of which nobody asks. From 2 ^ 64 seconds on there is no room
for the span, nor for what is no number. -/
def nanoseconds {ε : Type} (x : Binary64) : Except (Stop ε) Nat := do
  (Quantity.span x).check
  match x with
  | .signed false rank =>
    let e := Binary64.exponent rank
    return Binary64.divRoundEven (Binary64.significand rank * pow2 e.toNat * 1000000000)
      (pow2 (-e).toNat)
  | _ => return 0

/-- A number of nanoseconds as seconds: the whole seconds and the rest of them,
each rounded, and their sum rounded. -/
def seconds (nanos : Nat) : Binary64 :=
  (Binary64.ofInt (nanos / 1000000000 : Nat)).add
    ((Binary64.ofInt (nanos % 1000000000 : Nat)).div (.ofInt 1000000000))

example : (nanoseconds (ε := Unit) (.ofDecimal false 15 (-1))).toOption = some 1500000000 := by
  decide +kernel
example : (nanoseconds (ε := Unit) (.ofDecimal false 5 (-10))).toOption = some 1 := by
  decide +kernel
example : (seconds 12000000).eq (.ofDecimal false 12 (-3)) = true := by decide +kernel

end CaseRunner
