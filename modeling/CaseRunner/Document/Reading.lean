import CaseRunner.Document.Text
import CaseRunner.Decimal.Reading

/-!
# Documents from text

Reads a document as `Document.render` writes it, with blanks allowed between
the parts. The reader is strict: nothing may stand behind the document, a
number has the one form of the format, a text holds no bare control character
and no half of a surrogate pair, and lists and mappings nest at most 127 deep.
A name that is given twice in a mapping has its last value.

Every reader takes the text and answers what it has read and the text behind
it. The fuel of the readers that call each other is the length of the text,
which no document needs more steps than.
-/

namespace CaseRunner.Document

/-- Blank between the parts of a document. -/
def isSeparator (c : Char) : Bool := c == ' ' || c == '\n' || c == '\t' || c == '\r'

/-- The text without the blanks in front. -/
def skip (s : List Char) : List Char := s.dropWhile isSeparator

/-- The value of a hexadecimal digit. -/
def hexValue? (c : Char) : Option Nat :=
  if c.isDigit then some (c.toNat - '0'.toNat)
  else if 'a' ≤ c && c ≤ 'f' then some (c.toNat - 'a'.toNat + 10)
  else if 'A' ≤ c && c ≤ 'F' then some (c.toNat - 'A'.toNat + 10)
  else none

/-- Four hexadecimal digits. -/
def readHex4 : List Char → Option (Nat × List Char)
  | a :: b :: c :: d :: rest => do
    let a ← hexValue? a
    let b ← hexValue? b
    let c ← hexValue? c
    let d ← hexValue? d
    return (((a * 16 + b) * 16 + c) * 16 + d, rest)
  | _ => none

/-- The character of an escape, without its backslash. A code unit of the first
half of a surrogate pair must be followed by the second half. -/
def readEscape : List Char → Option (Char × List Char)
  | '"' :: rest => some ('"', rest)
  | '\\' :: rest => some ('\\', rest)
  | '/' :: rest => some ('/', rest)
  | 'b' :: rest => some (Char.ofNat 8, rest)
  | 'f' :: rest => some (Char.ofNat 12, rest)
  | 'n' :: rest => some ('\n', rest)
  | 'r' :: rest => some ('\r', rest)
  | 't' :: rest => some ('\t', rest)
  | 'u' :: rest => do
    let (unit, rest) ← readHex4 rest
    if 0xd800 ≤ unit && unit < 0xdc00 then
      match rest with
      | '\\' :: 'u' :: rest => do
        let (second, rest) ← readHex4 rest
        if 0xdc00 ≤ second && second < 0xe000 then
          return (Char.ofNat (0x10000 + (unit - 0xd800) * 0x400 + (second - 0xdc00)), rest)
        else none
      | _ => none
    else if 0xdc00 ≤ unit && unit < 0xe000 then none
    else return (Char.ofNat unit, rest)
  | _ => none

/-- The rest of a text behind its opening quote; `done` holds what was read,
last character first. -/
def readQuoted : Nat → List Char → List Char → Option (String × List Char)
  | 0, _, _ => none
  | _ + 1, _, [] => none
  | _ + 1, done, '"' :: rest => some (String.ofList done.reverse, rest)
  | fuel + 1, done, '\\' :: rest => do
    let (c, rest) ← readEscape rest
    readQuoted fuel (c :: done) rest
  | fuel + 1, done, c :: rest =>
    if c.toNat < 0x20 then none else readQuoted fuel (c :: done) rest

/-- The whole number with the given sign and digits, if documents hold it. -/
def wholeNumber? (negative : Bool) (digits : List Char) : Option Number :=
  let n : Int := Decimal.digitsValue digits
  let n := if negative then -n else n
  if negative && n == 0 then none
  else if Number.least ≤ n && n ≤ Number.greatest then some (.int n) else none

/-- Digits behind a mark that calls for at least one. -/
def readDigits (s : List Char) : Option ((List Char) × List Char) :=
  let ds := s.takeWhile Char.isDigit
  if ds.isEmpty then none else some (ds, s.dropWhile Char.isDigit)

/-- The fraction behind a number, if there is one. -/
def readFraction : List Char → Option ((List Char) × List Char)
  | '.' :: rest => readDigits rest
  | s => some ([], s)

/-- The exponent behind a number, if there is one. -/
def readPower : List Char → Option ((Option Int) × List Char)
  | 'e' :: rest | 'E' :: rest => do
    let (negative, rest) := Decimal.takeSign rest
    let (ds, rest) ← readDigits rest
    let e : Int := Decimal.digitsValue ds
    return (some (if negative then -e else e), rest)
  | s => some (none, s)

/-- A number: no zero in front of other digits, no sign but a minus. One without
point and exponent that is too large to be whole is read as a fraction; one
that is too large for the format is none. -/
def readNumber (s : List Char) : Option (Number × List Char) := do
  let (negative, s) := match s with
    | '-' :: rest => (true, rest)
    | _ => (false, s)
  let (whole, s) ← readDigits s
  if whole.head? == some '0' && 1 < whole.length then none
  else
    let (fraction, s) ← readFraction s
    let hasFraction := !fraction.isEmpty
    let (power, s) ← readPower s
    let float :=
      Binary64.ofDecimal negative (Decimal.digitsValue (whole ++ fraction))
        (power.getD 0 - fraction.length)
    if hasFraction || power.isSome then
      if float.isFinite then return (.float float, s) else none
    else
      match wholeNumber? negative whole with
      | some n => return (n, s)
      | none => if float.isFinite then return (.float float, s) else none

/-- The given word in front of the text. -/
def readWord (word : String) (value : Document) (s : List Char) : Option (Document × List Char) :=
  if word.toList.isPrefixOf s then some (value, s.drop word.length) else none

mutual

/-- A document, blanks in front of it allowed; `depth` is how many lists and
mappings may still be opened. -/
def readValue : Nat → Nat → List Char → Option (Document × List Char)
  | 0, _, _ => none
  | fuel + 1, depth, s =>
    match skip s with
    | 'n' :: rest => readWord "null" .null ('n' :: rest)
    | 't' :: rest => readWord "true" (.bool true) ('t' :: rest)
    | 'f' :: rest => readWord "false" (.bool false) ('f' :: rest)
    | '"' :: rest => (readQuoted (rest.length + 1) [] rest).map fun (t, r) => (.text t, r)
    | '[' :: rest =>
      match depth, skip rest with
      | 0, _ => none
      | _ + 1, ']' :: rest => some (.list [], rest)
      | depth + 1, rest => readItems fuel depth [] rest
    | '\x7b' :: rest =>
      match depth, skip rest with
      | 0, _ => none
      | _ + 1, '\x7d' :: rest => some (.mapping [], rest)
      | depth + 1, rest => readMembers fuel depth [] rest
    | s => (readNumber s).map fun (n, r) => (.number n, r)

/-- The items of a list up to its bracket. -/
def readItems : Nat → Nat → List Document → List Char → Option (Document × List Char)
  | 0, _, _, _ => none
  | fuel + 1, depth, done, s => do
    let (d, s) ← readValue fuel depth s
    match skip s with
    | ',' :: rest => readItems fuel depth (d :: done) rest
    | ']' :: rest => some (.list (d :: done).reverse, rest)
    | _ => none

/-- The members of a mapping up to its brace. -/
def readMembers : Nat → Nat → Fields → List Char → Option (Document × List Char)
  | 0, _, _, _ => none
  | fuel + 1, depth, done, s =>
    match skip s with
    | '"' :: rest => do
      let (name, s) ← readQuoted (rest.length + 1) [] rest
      match skip s with
      | ':' :: rest => do
        let (d, s) ← readValue fuel depth rest
        match skip s with
        | ',' :: rest => readMembers fuel depth (insertField name d done) rest
        | '\x7d' :: rest => some (.mapping (insertField name d done), rest)
        | _ => none
      | _ => none
    | _ => none

end

/-- The document that a text is, if it is one. -/
def ofText? (s : String) : Option Document :=
  let cs := s.toList
  match readValue (2 * cs.length + 2) 127 cs with
  | some (d, rest) => if (skip rest).isEmpty then some d else none
  | none => none

end CaseRunner.Document
