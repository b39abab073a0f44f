import CaseRunner.Sending.RawReply

/-!
# Trying again

A request that gets no answer is tried again, as often as it says, with a wait
between two tries that doubles from try to try. What was done is kept as a list of
tries and waits, so that statements about their number and order are statements
about a list.

The number of tries is one more than that of repetitions, and it is counted before the
first try with no more room than these have. A request that is to be repeated as often as
can be said is one too often, and nothing is tried.
-/

namespace CaseRunner

/-- One thing that is done to get an answer. -/
inductive Effort where
  /-- The request is tried. -/
  | attempt
  /-- Some milliseconds pass. -/
  | pause (milliseconds : Nat)
  deriving DecidableEq, Repr

/-- The milliseconds of the first wait. -/
def firstPause : Nat := 100

/-- The milliseconds to wait after a try; tries are counted from 1. The wait stops
growing with the seventeenth. -/
def backoff (attempt : Nat) : Nat := firstPause * pow2 (min (attempt - 1) 16)

/-- What was done, and what came of it. -/
structure Tried (α : Type) where
  /-- What was done, in order. -/
  efforts : List Effort
  /-- The answer, or why the last try failed. -/
  outcome : Except String α

/-- Tries up to `left` times from the try number `n` on, until one succeeds. -/
def tryFrom {α : Type} (attempt : Nat → Except String α) : Nat → Nat → String → Tried α
  | 0, _, last => ⟨[], .error last⟩
  | left + 1, n, _ =>
    match attempt n with
    | .ok a => ⟨[.attempt], .ok a⟩
    | .error e =>
      let rest := tryFrom attempt left (n + 1) e
      ⟨.attempt :: (if left = 0 then [] else [.pause (backoff n)]) ++ rest.efforts,
        rest.outcome⟩

/-- How often a request is tried at most. -/
def Request.attemptLimit (r : Request) : Except (Stop RunError) Nat := do
  (Quantity.tries (r.retry + 1)).check
  return r.retry + 1

/-- Tries a request, if its tries can be counted. -/
def tryRequest (r : Request) (attempt : Nat → Except String RawReply) :
    Except (Stop RunError) (Tried RawReply) := do
  return tryFrom attempt (← r.attemptLimit) 1 ""

/-- The nanoseconds that were spent waiting. -/
def waited : List Effort → Nat
  | [] => 0
  | .attempt :: rest => waited rest
  | .pause ms :: rest => ms * 1000000 + waited rest

/-- What comes of a request that is tried. -/
def deliver (r : Request) (attempt : Nat → Except String RawReply) : Delivery :=
  match tryRequest r attempt with
  | .ok tried =>
    { duration := waited tried.efforts
      result := Stop.lift (tried.outcome.mapError fun last =>
        .send (r.method.spelling ++ " " ++ r.url ++ " failed after " ++
          toString (r.retry + 1) ++ " attempt(s): " ++ last)) }
  | .error stop => { duration := 0, result := .error stop }

example : backoff 1 = 100 ∧ backoff 4 = 800 ∧ backoff 40 = backoff 17 := by decide

end CaseRunner
