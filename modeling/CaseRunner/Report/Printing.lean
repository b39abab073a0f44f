import CaseRunner.Decimal.Notation
import CaseRunner.Report.Basic

/-!
# Printed reports

One line for each case and a last line that counts them, in colours if the terminal
has any. A colour that ends inside a line is taken up again, so that the whole line
has it.
-/

namespace CaseRunner

/-- How a line is shown. -/
inductive Paint where
  | bold | green | red | yellow
  deriving DecidableEq, Repr

namespace Paint

/-- The sequence with a number that tells a terminal what to show. -/
def sequence (code : Nat) : String := "\x1b[" ++ toString code ++ "m"

/-- The sequence that begins a paint. -/
def start : Paint → String
  | .bold => sequence 1
  | .green => sequence 32
  | .red => sequence 31
  | .yellow => sequence 33

/-- The sequence that ends every paint. -/
def stop : String := sequence 0

/-- A text with another one behind each occurrence of a part; so many characters
belong to an occurrence that has begun. -/
def putBehind (part more : List Char) : Nat → List Char → List Char
  | _, [] => []
  | 0, c :: rest =>
    if part.isPrefixOf (c :: rest) then
      if part.length ≤ 1 then c :: more ++ putBehind part more 0 rest
      else c :: putBehind part more (part.length - 1) rest
    else c :: putBehind part more 0 rest
  | n + 1, c :: rest =>
    c :: (if n = 0 then more else []) ++ putBehind part more n rest

/-- A line with a paint, if paint is used. -/
def apply (colour : Bool) (p : Paint) (line : String) : String :=
  if colour then
    p.start ++ String.ofList (putBehind stop.toList p.start.toList 0 line.toList) ++ stop
  else line

example : (Paint.apply true .red "a\x1b[0mb") = "\x1b[31ma\x1b[0m\x1b[31mb\x1b[0m" := by decide

end Paint

/-- The milliseconds that a case took. -/
def Report.duration (r : Report) : String :=
  (r.reply?.map fun reply => " (" ++ Decimal.roundedText reply.executeTime ++ "ms)").getD ""

/-- The line of a report. -/
def Report.line (colour : Bool) (r : Report) : String :=
  match r.verdict with
  | .passed => Paint.green.apply colour ("✓ " ++ r.caseId ++ " " ++ r.name ++ r.duration)
  | .skipped reason => Paint.yellow.apply colour ("- " ++ r.caseId ++ " skipped: " ++ reason)
  | .failed reason => Paint.red.apply colour ("✗ " ++ r.caseId ++ " failed: " ++ reason)
  | .error reason => Paint.red.apply colour ("✗ " ++ r.caseId ++ " error: " ++ reason)

/-- The line that counts the reports. -/
def summaryLine (colour : Bool) (reports : List Report) : String :=
  let passed := reports.countP fun r => r.verdict == .passed
  let skipped := reports.countP fun r =>
    match r.verdict with
    | .skipped _ => true
    | _ => false
  let failed := reports.length - passed - skipped
  (if failed = 0 then Paint.green else Paint.red).apply colour
    ("Summary: " ++ toString passed ++ " passed, " ++ toString failed ++ " failed, " ++
      toString skipped ++ " skipped")

/-- The printed reports. -/
def printReports (colour : Bool) (reports : List Report) : String :=
  let lines := Paint.bold.apply colour "=== Execution Results ===" ::
    reports.map (Report.line colour) ++ [summaryLine colour reports]
  "\n" ++ String.join (lines.map (· ++ "\n"))

end CaseRunner
