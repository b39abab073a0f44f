import CaseRunner.Document.Basic
import CaseRunner.Decimal.Notation

/-!
# Documents as text

A document is written without blanks, the members of a mapping in the order of
their names. Inside a text only the quote, the backslash and the control
characters below the space are escaped.

`Document.display` is the text that stands for a document where a text is
wanted: a text stands for itself and null is `None`; anything else is written
out.
-/

namespace CaseRunner

/-- A whole number or a number with a fraction, as it stands in a document. -/
def Number.render : Number → String
  | .int n => toString n
  | .float x => Decimal.documentText x

namespace Document

/-- A digit of a hexadecimal number in lower case. -/
def hexDigit (n : Nat) : Char :=
  if n < 10 then Char.ofNat ('0'.toNat + n) else Char.ofNat ('a'.toNat + (n - 10))

/-- One character inside quotes. -/
def escapeChar (c : Char) : List Char :=
  if c = '"' then ['\\', '"']
  else if c = '\\' then ['\\', '\\']
  else if 0x20 ≤ c.toNat then [c]
  else if c = '\n' then ['\\', 'n']
  else if c = '\r' then ['\\', 'r']
  else if c = '\t' then ['\\', 't']
  else if c.toNat = 8 then ['\\', 'b']
  else if c.toNat = 12 then ['\\', 'f']
  else ['\\', 'u', '0', '0', hexDigit (c.toNat / 16), hexDigit (c.toNat % 16)]

/-- A text in quotes. -/
def quoted (s : String) : String :=
  String.ofList ('"' :: s.toList.flatMap escapeChar ++ ['"'])

mutual

/-- A document written out. -/
def render : Document → String
  | .null => "null"
  | .bool true => "true"
  | .bool false => "false"
  | .number n => n.render
  | .text s => quoted s
  | .list [] => "[]"
  | .list (d :: ds) => "[" ++ render d ++ renderItems ds ++ "]"
  | .mapping [] => "\x7b\x7d"
  | .mapping ((k, d) :: fs) =>
    "\x7b" ++ quoted k ++ ":" ++ render d ++ renderFields fs ++ "\x7d"

/-- The further items of a list, each behind a comma. -/
def renderItems : List Document → String
  | [] => ""
  | d :: ds => "," ++ render d ++ renderItems ds

/-- The further members of a mapping, each behind a comma. -/
def renderFields : List (String × Document) → String
  | [] => ""
  | (k, d) :: fs => "," ++ quoted k ++ ":" ++ render d ++ renderFields fs

end

/-- The text that stands for a document: itself for a text, `None` for null,
the document written out for anything else. -/
def display : Document → String
  | .text s => s
  | .null => "None"
  | d => d.render

@[simp] theorem display_text (s : String) : display (.text s) = s := rfl

@[simp] theorem display_null : display .null = "None" := rfl

/-- The beginning of the text of a document, at most 200 characters of it. -/
def preview (d : Document) : String :=
  let s := d.render
  if 200 < s.length then String.ofList (s.toList.take 200) ++ "..." else s

end Document

end CaseRunner
