import CaseRunner.Text.VisibleTable

/-!
# Texts in quotes

Paths and found texts are shown in messages between double quotes, with escapes
for the quote, the backslash and whatever would not be seen.
-/

namespace CaseRunner.Text

/-- The digits of a number to base 16. -/
def hexDigits (n : Nat) : List Char := Nat.toDigits 16 n

/-- One character between quotes. -/
def showChar (c : Char) : List Char :=
  match c with
  | '"' => ['\\', '"']
  | '\\' => ['\\', '\\']
  | '\n' => ['\\', 'n']
  | '\r' => ['\\', 'r']
  | '\t' => ['\\', 't']
  | '\x00' => ['\\', '0']
  | c =>
    if inRanges invisibleRanges c.toNat || inRanges graphemeExtendRanges c.toNat then
      ['\\', 'u', '\x7b'] ++ hexDigits c.toNat ++ ['\x7d']
    else [c]

/-- A text in quotes. -/
def inQuotes (s : String) : String :=
  String.ofList ('"' :: s.toList.flatMap showChar ++ ['"'])

example : inQuotes "a\"b\u200b" = "\"a\\\"b\\u\x7b200b\x7d\"" := by decide +kernel

end CaseRunner.Text
