import CaseRunner.Decimal.Shortest

/-!
# How a number is written

Two notations are in use. Numbers inside documents are written so that they
read back as fractions: at least one digit behind the point, and an exponent
once the number is very large or very small (`documentText`). A number that a
message or a function shows by itself is written out in full, without a point
if it is whole (`plainText`).
-/

namespace CaseRunner.Decimal

/-- The digits with a point behind the first `whole` of them; `whole` may lie
outside the digits, and zeros fill the gap. A whole number gets the ending
`bare`. -/
def positional (digits : String) (whole : Int) (bare : String) : String :=
  let n := digits.length
  if whole ≤ 0 then "0." ++ String.ofList (List.replicate (-whole).toNat '0') ++ digits
  else if n ≤ whole.toNat then
    digits ++ String.ofList (List.replicate (whole.toNat - n) '0') ++ bare
  else
    String.ofList (digits.toList.take whole.toNat) ++ "." ++
      String.ofList (digits.toList.drop whole.toNat)

/-- The digits with a point behind the first one, and an exponent whose sign is
always written. -/
def scientific (digits : String) (e : Int) : String :=
  let mantissa := match digits.toList with
    | [] => ""
    | [d] => String.singleton d
    | d :: rest => String.singleton d ++ "." ++ String.ofList rest
  mantissa ++ "e" ++ (if e < 0 then "-" else "+") ++ toString e.natAbs

/-- The text of a number in a document: positional while the first digit stands
between `10 ^ -5` and `10 ^ 15`, with an exponent otherwise. Numbers that
documents cannot hold are null. -/
def documentText : Binary64 → String
  | .nan => "null"
  | .signed negative rank =>
    if rank.val = infiniteRank then "null"
    else
      let d := shortest .toEven rank.val
      let digits := toString d.digits
      let e := d.exponent + digits.length - 1
      (if negative then "-" else "") ++
        if rank.val = 0 then "0.0"
        else if -5 ≤ e && e ≤ 15 then positional digits (e + 1) ".0"
        else scientific digits e

/-- The text of a number shown by itself: never an exponent, no point in a
whole number. -/
def plainText : Binary64 → String
  | .nan => "NaN"
  | .signed negative rank =>
    let sign := if negative then "-" else ""
    if rank.val = infiniteRank then sign ++ "inf"
    else if rank.val = 0 then sign ++ "0"
    else
      let d := shortest .up rank.val
      let digits := toString d.digits
      sign ++ positional digits (d.exponent + digits.length) ""

/-- The number rounded to a whole one, a half to the even neighbour, as text. -/
def roundedText : Binary64 → String
  | .nan => "NaN"
  | .signed negative rank =>
    let sign := if negative then "-" else ""
    if rank.val = infiniteRank then sign ++ "inf"
    else
      let e := Binary64.exponent rank.val
      sign ++ toString (Binary64.divRoundEven
        (Binary64.significand rank.val * pow2 e.toNat) (pow2 (-e).toNat))

example : documentText (.ofDecimal false 1 16) = "1e+16" := by decide +kernel
example : documentText (.ofDecimal true 15 (-11)) = "-1.5e-10" := by decide +kernel
example : documentText (.ofDecimal false 1 (-5)) = "0.00001" := by decide +kernel
example : plainText (.ofDecimal false 1 17) = "100000000000000000" := by decide +kernel

end CaseRunner.Decimal
