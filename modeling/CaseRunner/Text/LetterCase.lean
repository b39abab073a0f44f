import CaseRunner.Text.CaseTable

/-!
# Upper and lower case

Texts are compared, stored and shown in one letter case in several places. The
mappings are the full ones of Unicode, so a text may change its length, and a
sigma at the end of a word takes its final form.
-/

namespace CaseRunner.Text

/-- The simple mapping of a code point by a row of runs; itself when no run
holds it. -/
def shiftBy : List CaseRun → Nat → Nat
  | [], n => n
  | run :: rest, n =>
    if n < run.first then n
    else if n ≤ run.last && (n - run.first) % run.step == 0 then
      ((n : Int) + run.shift).toNat
    else shiftBy rest n

/-- The full mapping of one character: its expansion if it has one, else its
simple mapping. -/
def mapCase (expansions : List (Nat × List Nat)) (runs : List CaseRun)
    (c : Char) : List Char :=
  match expansions.find? (·.1 == c.toNat) with
  | some (_, codes) => codes.map Char.ofNat
  | none => [Char.ofNat (shiftBy runs c.toNat)]

/-- The upper case of a character. -/
def upperChar (c : Char) : List Char :=
  if c.toNat < 0x80 then [c.toUpper] else mapCase upperExpansions upperRuns c

/-- The lower case of a character outside any word. -/
def lowerChar (c : Char) : List Char :=
  if c.toNat < 0x80 then [c.toLower] else mapCase lowerExpansions lowerRuns c

/-- The first character that is not ignorable to letter case is a cased one. -/
def meetsCased (s : List Char) : Bool :=
  match s.dropWhile (fun c => inRanges caseIgnorableRanges c.toNat) with
  | [] => false
  | c :: _ => inRanges casedRanges c.toNat

/-- Lower case of the text `s`, where `before` is what stands in front of it,
last character first: a capital sigma behind a letter and before none is
final. -/
def lowerFrom (before : List Char) : List Char → List Char
  | [] => []
  | c :: rest =>
    (if c == 'Σ' then
      [if meetsCased before && !meetsCased rest then 'ς' else 'σ']
    else lowerChar c) ++ lowerFrom (c :: before) rest

/-- The text in upper case. -/
def toUpper (s : String) : String := String.ofList (s.toList.flatMap upperChar)

/-- The text in lower case. -/
def toLower (s : String) : String := String.ofList (lowerFrom [] s.toList)

/-- Are two texts the same up to the case of ASCII letters? -/
def eqIgnoringAsciiCase (s t : String) : Bool :=
  s.toList.map Char.toLower == t.toList.map Char.toLower

example : toUpper "straße" = "STRASSE" := by decide
example : toLower "ΑΣ ΑΣΑ" = "ας ασα" := by decide

theorem eqIgnoringAsciiCase_iff {s t : String} :
    eqIgnoringAsciiCase s t = true ↔
      s.toList.map Char.toLower = t.toList.map Char.toLower := by
  simp [eqIgnoringAsciiCase]

@[simp] theorem eqIgnoringAsciiCase_refl (s : String) :
    eqIgnoringAsciiCase s s = true := by
  simp [eqIgnoringAsciiCase]

theorem eqIgnoringAsciiCase_comm (s t : String) :
    eqIgnoringAsciiCase s t = eqIgnoringAsciiCase t s := by
  rw [Bool.eq_iff_iff, eqIgnoringAsciiCase_iff, eqIgnoringAsciiCase_iff, eq_comm]

end CaseRunner.Text
