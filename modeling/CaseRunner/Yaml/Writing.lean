import CaseRunner.Text.LetterCase
import CaseRunner.Yaml.Scalar

/-!
# Writing texts by name as YAML

A mapping from texts to texts is written one member a line. A text is written
plain unless a reader could take it for something else: texts that look like
values of other types are put into single quotes, as are those with signs of the
format in them; texts with characters that do not show are put into double
quotes with escapes; texts of several lines become blocks.
-/

namespace CaseRunner.Yaml

/-- A character that is written as it is. -/
def isShown (c : Char) : Bool :=
  let n := c.toNat
  n = 0x0a || (0x20 ≤ n && n ≤ 0x7e) || (0xa0 ≤ n && n ≤ 0xd7ff) ||
    (0xe000 ≤ n && n ≤ 0xfffd && n != 0xfeff) || 0x10000 ≤ n

/-- Could a reader take the plain text for a value of another type? Whatever
begins like a number is taken for one here. -/
def looksTyped (s : String) : Bool :=
  let lower := Text.toLower s
  isNullText lower || (truth? lower).isSome ||
    match lower.toList with
    | c :: _ => c.isDigit || c = '-' || c = '.' || c = '+'
    | [] => true

/-- Does a sign of the format stand in the text, where the first argument is the
character before it? -/
def hasIndicator : Option Char → List Char → Bool
  | _, [] => false
  | before, c :: rest =>
    (match before with
      | none =>
        c ∈ "#,[]\x7b\x7d&*!|>'\"%@\x60".toList || ((c = '?' || c = ':' || c = '-') && atBlank rest)
      | some b => (c = ':' && atBlank rest) || (c = '#' && (isSpace b || b = '\n'))) ||
      hasIndicator (some c) rest

/-- Does a blank stand before a line break? -/
def hasBlankBeforeBreak : List Char → Bool
  | ' ' :: '\n' :: _ => true
  | _ :: rest => hasBlankBeforeBreak rest
  | [] => false

/-- May the text be written plain? -/
def allowsPlain (s : List Char) : Bool :=
  !(s.head? = some ' ' || s.getLast? = some ' ' || s.contains '\n' || hasIndicator none s ||
    "---".toList.isPrefixOf s || "...".toList.isPrefixOf s)

/-- May the text be written as a block? -/
def allowsBlock (s : List Char) : Bool :=
  !(s.getLast? = some ' ' || hasBlankBeforeBreak s || !s.all isShown)

/-- The digit of a number to base 16. -/
def upperHexDigit (n : Nat) : Char :=
  if n < 10 then Char.ofNat ('0'.toNat + n) else Char.ofNat ('A'.toNat + (n - 10))

/-- A number to base 16 with so many digits. -/
def hexText : Nat → Nat → List Char
  | 0, _ => []
  | width + 1, n => hexText width (n / 16) ++ [upperHexDigit (n % 16)]

/-- A character between double quotes. -/
def escapeChar (c : Char) : List Char :=
  let n := c.toNat
  if c = '"' || c = '\\' then ['\\', c]
  else if isShown c && c != '\n' && n != 0x2028 && n != 0x2029 then [c]
  else if n = 0 then ['\\', '0']
  else if n = 7 then ['\\', 'a']
  else if n = 8 then ['\\', 'b']
  else if n = 9 then ['\\', 't']
  else if n = 10 then ['\\', 'n']
  else if n = 11 then ['\\', 'v']
  else if n = 12 then ['\\', 'f']
  else if n = 13 then ['\\', 'r']
  else if n = 27 then ['\\', 'e']
  else if n = 0x85 then ['\\', 'N']
  else if n = 0x2028 then ['\\', 'L']
  else if n = 0x2029 then ['\\', 'P']
  else if n ≤ 0xff then '\\' :: 'x' :: hexText 2 n
  else if n ≤ 0xffff then '\\' :: 'u' :: hexText 4 n
  else '\\' :: 'U' :: hexText 8 n

/-- The text between double quotes. -/
def doubleQuoted (s : List Char) : List Char := '"' :: s.flatMap escapeChar ++ ['"']

/-- The text between single quotes. -/
def singleQuoted (s : List Char) : List Char :=
  '\'' :: s.flatMap (fun c => if c = '\'' then ['\'', '\''] else [c]) ++ ['\'']

/-- A text in one line. -/
def inlineText (s : String) : List Char :=
  let cs := s.toList
  if !cs.all isShown then doubleQuoted cs
  else if !looksTyped s && allowsPlain cs then cs
  else singleQuoted cs

/-- A line of a block. -/
def blockLine (line : List Char) : List Char :=
  if line.isEmpty then ['\n'] else ' ' :: ' ' :: line ++ ['\n']

/-- A text as a block: the header with the sign for the line breaks at the end,
and the lines. A block that begins with a blank says its indentation. -/
def blockOf (s : List Char) : List Char :=
  let hint := if s.head? = some ' ' || s.head? = some '\n' then ['2'] else []
  let trailing := (s.reverse.takeWhile (· == '\n')).length
  let sign :=
    if trailing = 0 then ['-']
    else if trailing = 1 && s.length ≠ 1 then []
    else ['+']
  let lines := Text.splitBy (· == '\n') s
  let lines := if trailing = 0 then lines else lines.dropLast
  '|' :: hint ++ sign ++ ['\n'] ++ lines.flatMap blockLine

/-- A text as a value, up to the end of its last line. -/
def valueText (s : String) : List Char :=
  if s.toList.contains '\n' then
    if allowsBlock s.toList then blockOf s.toList else doubleQuoted s.toList ++ ['\n']
  else inlineText s ++ ['\n']

/-- May the text stand before a colon? -/
def isSimpleKey (s : String) : Bool := s.utf8ByteSize ≤ 128 && !s.toList.contains '\n'

/-- One member. -/
def memberText (member : String × String) : List Char :=
  let (key, value) := member
  if isSimpleKey key then inlineText key ++ [':', ' '] ++ valueText value
  else ['?', ' '] ++ valueText key ++ [':', ' '] ++ valueText value

/-- The members of a mapping as a YAML text. -/
def writeTexts (members : List (String × String)) : String :=
  if members.isEmpty then "\x7b\x7d\n" else String.ofList (members.flatMap memberText)

end CaseRunner.Yaml
