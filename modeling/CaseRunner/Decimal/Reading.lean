import CaseRunner.Binary64

/-!
# Reading a number

The general form of a number in a text: a sign, digits with a point somewhere
among them, an exponent; or one of the words for infinity and NaN, in any
letter case. Nothing may stand before or behind it.
-/

namespace CaseRunner.Decimal

/-- The value of a row of ASCII digits. -/
def digitsValue (ds : List Char) : Nat :=
  ds.foldl (fun n d => 10 * n + (d.toNat - '0'.toNat)) 0

/-- An optional sign, and the rest: is the sign a minus? -/
def takeSign : List Char → Bool × List Char
  | '-' :: rest => (true, rest)
  | '+' :: rest => (false, rest)
  | s => (false, s)

/-- The exponent that the text is, if it is one: nothing, or `e` with a sign and
digits. -/
def readExponent? : List Char → Option Int
  | [] => some 0
  | c :: rest =>
    if c == 'e' || c == 'E' then
      let (negative, ds) := takeSign rest
      if ds.isEmpty || !ds.all Char.isDigit then none
      else some (if negative then -(digitsValue ds : Int) else digitsValue ds)
    else none

/-- A number without its sign and not one of the words. -/
def readUnsigned? (negative : Bool) (s : List Char) : Option Binary64 :=
  let whole := s.takeWhile Char.isDigit
  let (fraction, rest) := match s.dropWhile Char.isDigit with
    | '.' :: r => (r.takeWhile Char.isDigit, r.dropWhile Char.isDigit)
    | r => ([], r)
  if whole.isEmpty && fraction.isEmpty then none
  else
    (readExponent? rest).map fun e =>
      Binary64.ofDecimal negative (digitsValue (whole ++ fraction))
        (e - fraction.length)

/-- The number that a text is, if it is one. -/
def readNumber? (s : List Char) : Option Binary64 :=
  let (negative, body) := takeSign s
  match String.ofList (body.map Char.toLower) with
  | "inf" => some (.infinity negative)
  | "infinity" => some (.infinity negative)
  | "nan" => some .nan
  | _ => readUnsigned? negative body

/-- `readNumber?` on strings. -/
def ofText? (s : String) : Option Binary64 := readNumber? s.toList

example : ofText? "+5." = some (.ofInt 5) := by decide +kernel
example : ofText? ".5e1" = some (.ofInt 5) := by decide +kernel
example : ofText? "1_000" = none ∧ ofText? "." = none ∧ ofText? "1e" = none := by
  decide +kernel
example : ofText? "-Infinity" = some (.infinity true) := by decide +kernel

end CaseRunner.Decimal
