import CaseRunner.Text.Search
import CaseRunner.Yaml.Node

/-!
# Scalars in a YAML text

A scalar is written plain, between quotes, or as a block of lines. In plain and
quoted scalars lines are folded: one line break between two lines is a blank,
each further one is a line break. A block keeps its line breaks or folds them.

A `Cursor` is a place in a text: what is left of it, and the column.
-/

namespace CaseRunner.Yaml

/-- A place in a text. -/
structure Cursor where
  /-- The text from here on. -/
  rest : List Char
  /-- How many characters stand before it in its line. -/
  column : Nat

/-- Why a text is no YAML. -/
inductive Fault where
  /-- A character that no YAML text holds. -/
  | badCharacter
  /-- A character that nothing begins with. -/
  | badToken
  /-- A tab where the columns count. -/
  | tab
  /-- The text ends within something. -/
  | unclosed
  /-- An escape that does not exist. -/
  | badEscape
  /-- A name and a value where none may stand. -/
  | misplacedKey
  /-- Something where only the end of the line may be. -/
  | trailing
  /-- Something else was expected. -/
  | unexpected
  /-- A reference to a node that has not been named. -/
  | unknownAlias
  /-- More than one document. -/
  | manyDocuments
  deriving DecidableEq, Repr

/-- The fault in words. -/
def Fault.message : Fault → String
  | .badCharacter => "control characters are not allowed"
  | .badToken => "found character that cannot start any token"
  | .tab => "found a tab character where indentation is expected"
  | .unclosed => "found unexpected end of stream"
  | .badEscape => "found unknown escape character"
  | .misplacedKey => "mapping values are not allowed in this context"
  | .trailing => "did not find expected end of line"
  | .unexpected => "did not find expected node content"
  | .unknownAlias => "unknown anchor"
  | .manyDocuments =>
    "deserializing from YAML containing more than one document is not supported"

/-- A blank within a line. -/
def isSpace (c : Char) : Bool := c == ' ' || c == '\t'

/-- Does the text begin with a blank, a line break or its end? -/
def atBlank : List Char → Bool
  | [] => true
  | c :: _ => isSpace c || c == '\n'

/-- Does a line with a document marker begin here? -/
def atMarker : List Char → Bool
  | '-' :: '-' :: '-' :: rest => atBlank rest
  | '.' :: '.' :: '.' :: rest => atBlank rest
  | _ => false

/-- A character that separates the parts of a flow collection. -/
def isFlowMark (c : Char) : Bool :=
  c == ',' || c == '[' || c == ']' || c == '{' || c == '}'

/-! ## Plain scalars -/

/-- Does a plain scalar end before this text? -/
def endsPlain (inFlow : Bool) : List Char → Bool
  | [] => true
  | ':' :: rest => atBlank rest
  | c :: _ => inFlow && isFlowMark c

/-- What has been read of a plain scalar. -/
structure Plain where
  /-- The text, backwards. -/
  text : List Char := []
  /-- The blanks since the text, backwards. -/
  blanks : List Char := []
  /-- The line breaks since the text. -/
  breaks : Nat := 0
  /-- Does the text go over several lines? -/
  multiline : Bool := false
  /-- The place behind the text. -/
  stop : Cursor

/-- The line breaks between two lines, folded; backwards. -/
def folded (breaks : Nat) : List Char :=
  if breaks = 1 then [' '] else List.replicate (breaks - 1) '\n'

/-- Reads a plain scalar. The lines after the first must begin behind the column
that is given, if there is one. -/
def scanPlain (inFlow : Bool) (indent : Nat) (column : Nat) (p : Plain) :
    List Char → Except Fault Plain
  | [] => .ok p
  | c :: rest =>
    if c = '\n' then scanPlain inFlow indent 0 { p with breaks := p.breaks + 1 } rest
    else if isSpace c then
      let p := if p.breaks = 0 then { p with blanks := c :: p.blanks } else p
      scanPlain inFlow indent (column + 1) p rest
    else if column = 0 && atMarker (c :: rest) then .ok p
    else if 0 < p.breaks && !inFlow && column < indent then .ok p
    else if c = '#' && (0 < p.breaks || !p.blanks.isEmpty) then .ok p
    else if endsPlain inFlow (c :: rest) then .ok p
    else if inFlow && c = ':' && rest.head?.any isFlowMark then .error .unexpected
    else
      let gap := if p.breaks = 0 then p.blanks else folded p.breaks
      scanPlain inFlow indent (column + 1)
        { text := c :: (gap ++ p.text), multiline := p.multiline || 0 < p.breaks
          stop := ⟨rest, column + 1⟩ } rest

/-! ## Quoted scalars -/

/-- The column behind a character. -/
def columnBehind (column : Nat) (c : Char) : Nat := if c = '\n' then 0 else column + 1

/-- Splits a text at the closing single quote: what stands before it, backwards,
and the place behind it. A quote that is written twice does not close. -/
def toSingleQuote (column : Nat) (before : List Char) :
    List Char → Except Fault (List Char × Cursor)
  | [] => .error .unclosed
  | '\'' :: '\'' :: rest => toSingleQuote (column + 2) ('\'' :: '\'' :: before) rest
  | c :: rest =>
    if c = '\'' then .ok (before, ⟨rest, column + 1⟩)
    else if column = 0 && atMarker (c :: rest) then .error .unexpected
    else toSingleQuote (columnBehind column c) (c :: before) rest

/-- Splits a text at the closing double quote. A quote behind a backslash does
not close. -/
def toDoubleQuote (column : Nat) (before : List Char) :
    List Char → Except Fault (List Char × Cursor)
  | [] => .error .unclosed
  | '\\' :: c :: rest => toDoubleQuote (columnBehind (column + 1) c) (c :: '\\' :: before) rest
  | c :: rest =>
    if c = '"' then .ok (before, ⟨rest, column + 1⟩)
    else if column = 0 && atMarker (c :: rest) then .error .unexpected
    else toDoubleQuote (columnBehind column c) (c :: before) rest

/-- Hexadecimal digits of the given number, as a character. -/
def escapedCode (count : Nat) (s : List Char) : Except Fault (Char × List Char) :=
  let ds := s.take count
  match natOfBase? 16 ds with
  | some n =>
    if ds.length = count && (n < 0xd800 || 0xdfff < n) && n ≤ 0x10ffff then
      .ok (Char.ofNat n, s.drop count)
    else .error .badEscape
  | none => .error .badEscape

/-- The character of an escape, without its backslash. -/
def escaped : List Char → Except Fault (Char × List Char)
  | [] => .error .badEscape
  | 'x' :: rest => escapedCode 2 rest
  | 'u' :: rest => escapedCode 4 rest
  | 'U' :: rest => escapedCode 8 rest
  | c :: rest =>
    match c with
    | '0' => .ok (Char.ofNat 0, rest)
    | 'a' => .ok (Char.ofNat 7, rest)
    | 'b' => .ok (Char.ofNat 8, rest)
    | 't' | '\t' => .ok ('\t', rest)
    | 'n' => .ok ('\n', rest)
    | 'v' => .ok (Char.ofNat 11, rest)
    | 'f' => .ok (Char.ofNat 12, rest)
    | 'r' => .ok ('\r', rest)
    | 'e' => .ok (Char.ofNat 27, rest)
    | ' ' | '"' | '/' | '\\' => .ok (c, rest)
    | 'N' => .ok (Char.ofNat 0x85, rest)
    | '_' => .ok (Char.ofNat 0xa0, rest)
    | 'L' => .ok (Char.ofNat 0x2028, rest)
    | 'P' => .ok (Char.ofNat 0x2029, rest)
    | _ => .error .badEscape

/-- A line of a text in double quotes with its escapes resolved. The fuel is the
length of the line. -/
def unescape : Nat → List Char → Except Fault (List Char)
  | 0, _ => .ok []
  | _ + 1, [] => .ok []
  | fuel + 1, '\\' :: rest => do
    let (c, rest) ← escaped rest
    return c :: (← unescape fuel rest)
  | fuel + 1, c :: rest => do return c :: (← unescape fuel rest)

/-- A line of a text in single quotes with its doubled quotes resolved. -/
def undouble : List Char → List Char
  | '\'' :: '\'' :: rest => '\'' :: undouble rest
  | c :: rest => c :: undouble rest
  | [] => []

/-- Does a line in double quotes end with a backslash that is not escaped? -/
def continues (line : List Char) : Bool :=
  (line.reverse.takeWhile (· == '\\')).length % 2 == 1

/-- The text without the blanks behind. -/
def dropBlanksBehind (s : List Char) : List Char := (s.reverse.dropWhile isSpace).reverse

/-- The lines of a quoted text after the first, folded. The second argument says
how many line breaks stand before them, the first whether the line before ended
with a backslash. -/
def foldLines (double : Bool) (continued : Bool) (breaks : Nat) :
    List (List Char) → Except Fault (List Char)
  | [] => .ok []
  | line :: rest => do
    let line := line.dropWhile isSpace
    if line.isEmpty && !rest.isEmpty then foldLines double continued (breaks + 1) rest
    else
      let goesOn := double && continues line && !rest.isEmpty
      let shown := if goesOn then line.dropLast
        else if rest.isEmpty then line else dropBlanksBehind line
      let text ← if double then unescape (shown.length + 1) shown else pure (undouble shown)
      let gap := if continued then List.replicate (breaks - 1) '\n' else folded breaks
      return gap ++ text ++ (← foldLines double goesOn 1 rest)

/-- The text of a quoted scalar from what stands between the quotes. -/
def quotedText (double : Bool) (raw : List Char) : Except Fault (List Char) := do
  match Text.splitBy (· == '\n') raw with
  | [] => return []
  | [line] => if double then unescape (line.length + 1) line else return undouble line
  | line :: rest =>
    let goesOn := double && continues line
    let shown := if goesOn then line.dropLast else dropBlanksBehind line
    let text ← if double then unescape (shown.length + 1) shown else pure (undouble shown)
    return text ++ (← foldLines double goesOn 1 rest)

/-- Reads a quoted scalar behind its opening quote. -/
def scanQuoted (double : Bool) (start : Cursor) : Except Fault (List Char × Cursor) := do
  let (before, stop) ←
    if double then toDoubleQuote start.column [] start.rest
    else toSingleQuote start.column [] start.rest
  return (← quotedText double before.reverse, stop)

/-! ## Blocks -/

/-- What becomes of the line breaks at the end of a block. -/
inductive Chomping where
  | strip | clip | keep
  deriving DecidableEq

/-- The sign of a block header. -/
def chomping? : List Char → Option (Chomping × List Char)
  | '+' :: rest => some (.keep, rest)
  | '-' :: rest => some (.strip, rest)
  | _ => none

/-- The header of a block: its chomping, the indentation if it gives one, and the
text from the next line on. -/
def blockHeader (s : List Char) : Except Fault (Chomping × Option Nat × List Char) :=
  let (before?, s) := match chomping? s with
    | some (c, rest) => (some c, rest)
    | none => (none, s)
  let (indent, s) := match s with
    | d :: rest => if d.isDigit then (some (d.toNat - '0'.toNat), rest) else (none, s)
    | [] => (none, s)
  let (chomping, s) := match before?, chomping? s with
    | some c, _ => (c, s)
    | none, some (c, rest) => (c, rest)
    | none, none => (.clip, s)
  let s := s.dropWhile isSpace
  let s := if s.head? = some '#' then s.dropWhile (· != '\n') else s
  if indent = some 0 then .error .unexpected
  else match s with
    | [] => .ok (chomping, indent, [])
    | '\n' :: rest => .ok (chomping, indent, rest)
    | _ => .error .trailing

/-- How many blanks a line begins with. -/
def indentOf (line : List Char) : Nat := (line.takeWhile (· == ' ')).length

/-- The indentation of a block that does not give it: that of its first line with
text, but at least that of a blank line before it. -/
def foundIndent (least : Nat) (lines : List (List Char)) : Nat :=
  let blank := lines.takeWhile fun l => l.all (· == ' ')
  let first := (lines.drop blank.length).head?.map indentOf
  (blank.map List.length ++ first.toList).foldl max least

/-- The lines of a block at an indentation, without it, and the lines behind the
block. -/
def blockLines (indent : Nat) : List (List Char) →
    Except Fault (List (List Char) × List (List Char))
  | [] => .ok ([], [])
  | line :: rest =>
    if line.all (· == ' ') && line.length ≤ indent then
      (blockLines indent rest).map fun (a, b) => ([] :: a, b)
    else if indent ≤ indentOf line then
      (blockLines indent rest).map fun (a, b) => (line.drop indent :: a, b)
    else if (line.drop (indentOf line)).head? = some '\t' then .error .tab
    else .ok ([], line :: rest)

/-- The lines of a block behind the first joined and folded; so many line breaks
stand before them. Lines that begin with a blank keep the breaks around them. -/
def foldBlock (literal : Bool) (previousBlank : Bool) (breaks : Nat) :
    List (List Char) → List Char
  | [] => []
  | line :: rest =>
    if line.isEmpty then foldBlock literal previousBlank (breaks + 1) rest
    else
      let blank := isSpace (line.headD 'x')
      let gap :=
        if literal || previousBlank || blank then List.replicate breaks '\n'
        else folded breaks
      gap ++ line ++ foldBlock literal blank 1 rest

/-- The text of a block from its lines; does a line break end the last one? -/
def blockText (literal : Bool) (chomping : Chomping) (ended : Bool)
    (lines : List (List Char)) : List Char :=
  let front := List.replicate (lines.takeWhile List.isEmpty).length '\n'
  let behind := List.replicate (lines.reverse.takeWhile List.isEmpty).length '\n'
  match lines.dropWhile List.isEmpty with
  | [] => if chomping = .keep then front else []
  | first :: rest =>
    let final := if ended then ['\n'] else []
    front ++ first ++ foldBlock literal (isSpace (first.headD 'x')) 1 rest ++
      match chomping with
      | .strip => []
      | .clip => final
      | .keep => final ++ behind

/-- Reads a block behind its sign, within a node at an indentation: the text, and
the text behind the block, which begins a line. -/
def scanBlock (literal : Bool) (outer : Option Nat) (s : List Char) :
    Except Fault (List Char × List Char) := do
  let (chomping, given, s) ← blockHeader s
  let lines := Text.splitBy (· == '\n') s
  let least := match outer with
    | some n => n + 1
    | none => 1
  let indent := match given, outer with
    | some d, some n => n + d
    | some d, none => d
    | none, _ => foundIndent least lines
  let (inside, behind) ← blockLines indent lines
  let ended := !behind.isEmpty || inside.getLast? = some []
  let inside := if behind.isEmpty && inside.getLast? = some [] then inside.dropLast else inside
  return (blockText literal chomping ended inside, List.intercalate ['\n'] behind)

end CaseRunner.Yaml
