import CaseRunner.Document.Text
import CaseRunner.Decimal.Reading
import CaseRunner.Text.Blank
import CaseRunner.Text.Letters

/-!
# Words of the assertion language

Assertions and conditions are cut into names, texts, numbers, comparison signs
and punctuation. Blanks separate words and mean nothing else; a text stands in
either kind of quotes, and a backslash in it takes the next character as it is.
-/

namespace CaseRunner.Expression

/-- A sign that compares two operands. -/
inductive Sign where
  | eq | ne | gt | lt | ge | le
  deriving DecidableEq, Repr

/-- A word of the language. -/
inductive Token where
  | name (s : String)
  | text (s : String)
  | number (n : Number)
  | sign (s : Sign)
  | dot
  | comma
  | openParen
  | closeParen
  | openBracket
  | closeBracket
  deriving DecidableEq, Repr

/-- Why a text cannot be cut into words. -/
inductive LexFault where
  /-- A text lacks its closing quote. -/
  | unterminated
  /-- Digits and points that are no number. -/
  | badNumber (raw : String)
  /-- The beginning of a comparison sign, and no sign. -/
  | badSign (c : Char)
  /-- A character that begins no word. -/
  | badChar (c : Char)
  deriving DecidableEq, Repr

/-- The spelling of a sign. -/
def Sign.spelling : Sign → String
  | .eq => "=="
  | .ne => "!="
  | .gt => ">"
  | .lt => "<"
  | .ge => ">="
  | .le => "<="

/-- A word as messages show it: texts always in single quotes. -/
def Token.spelling : Token → String
  | .name s => s
  | .text s => "'" ++ s ++ "'"
  | .number n => n.render
  | .sign s => s.spelling
  | .dot => "."
  | .comma => ","
  | .openParen => "("
  | .closeParen => ")"
  | .openBracket => "["
  | .closeBracket => "]"

/-- The rest of a text behind its opening quote, and what stands behind the
closing one. -/
def readText (quote : Char) : List Char → Option (List Char × List Char)
  | [] => none
  | '\\' :: c :: rest => (readText quote rest).map fun (s, r) => (c :: s, r)
  | c :: rest =>
    if c = quote then some ([], rest)
    else (readText quote rest).map fun (s, r) => (c :: s, r)

/-- The whole number that a word of digits stands for: at least `-2 ^ 63`, less
than `2 ^ 63`. -/
def wholeNumber? (raw : List Char) : Option Number :=
  let (negative, digits) := Decimal.takeSign raw
  let n : Int := Decimal.digitsValue digits
  let n := if negative then -n else n
  if -pow2 63 ≤ n && n < pow2 63 then some (.int n) else none

/-- The number that a word of digits and points stands for. -/
def number? (raw : List Char) : Option Number :=
  if raw.contains '.' then
    (Decimal.readNumber? raw).bind fun x => if x.isFinite then some (.float x) else none
  else wholeNumber? raw

/-- A digit or a point. -/
def isNumberChar (c : Char) : Bool := c.isDigit || c == '.'

/-- A character inside a name. -/
def isNameChar (c : Char) : Bool := Text.isAlphanumeric c || c == '_'

/-- The number that begins with `c`. -/
def readNumberToken (c : Char) (rest : List Char) :
    Except LexFault (Token × List Char) :=
  let raw := c :: rest.takeWhile isNumberChar
  match number? raw with
  | some n => .ok (.number n, rest.dropWhile isNumberChar)
  | none => .error (.badNumber (String.ofList raw))

/-- The name that begins with `c`. -/
def readNameToken (c : Char) (rest : List Char) : Token × List Char :=
  (.name (String.ofList (c :: rest.takeWhile isNameChar)), rest.dropWhile isNameChar)

/-- The sign that begins with `c`. -/
def readSign (c : Char) (rest : List Char) : Except LexFault (Token × List Char) :=
  match c, rest with
  | '=', '=' :: r => .ok (.sign .eq, r)
  | '!', '=' :: r => .ok (.sign .ne, r)
  | '<', '=' :: r => .ok (.sign .le, r)
  | '>', '=' :: r => .ok (.sign .ge, r)
  | '<', r => .ok (.sign .lt, r)
  | '>', r => .ok (.sign .gt, r)
  | c, _ => .error (.badSign c)

/-- The word that a character is by itself. -/
def punctuation? : Char → Option Token
  | '.' => some .dot
  | ',' => some .comma
  | '(' => some .openParen
  | ')' => some .closeParen
  | '[' => some .openBracket
  | ']' => some .closeBracket
  | _ => none

/-- Does a comparison sign begin with the character? -/
def isSignStart (c : Char) : Bool := c == '=' || c == '!' || c == '<' || c == '>'

/-- Does a number begin here: with a digit, or with a minus and a digit? -/
def isNumberStart (c : Char) (rest : List Char) : Bool :=
  c.isDigit || (c == '-' && rest.head?.any Char.isDigit)

/-- Does a name begin with the character? -/
def isNameStart (c : Char) : Bool := Text.isAlphabetic c || c == '_'

/-- The text behind the opening quote `c`. -/
def readTextToken (c : Char) (rest : List Char) : Except LexFault (Token × List Char) :=
  match readText c rest with
  | some (s, r) => .ok (.text (String.ofList s), r)
  | none => .error .unterminated

/-- The word that begins with the character `c`, which is no blank, and what
stands behind it. -/
def readToken (c : Char) (rest : List Char) : Except LexFault (Token × List Char) :=
  match punctuation? c with
  | some t => .ok (t, rest)
  | none =>
    if isSignStart c then readSign c rest
    else if c == '\'' || c == '"' then readTextToken c rest
    else if isNumberStart c rest then readNumberToken c rest
    else if isNameStart c then .ok (readNameToken c rest)
    else .error (.badChar c)

theorem length_readText {quote : Char} {s t r : List Char}
    (h : readText quote s = some (t, r)) : r.length ≤ s.length := by
  fun_induction readText quote s generalizing t r with
  | case1 => simp at h
  | case2 c rest ih =>
    obtain ⟨x, hx, e⟩ := Option.map_eq_some_iff.1 h
    grind
  | case3 => grind
  | case4 c rest _ _ ih =>
    obtain ⟨x, hx, e⟩ := Option.map_eq_some_iff.1 h
    grind

private theorem length_dropWhile_le (p : Char → Bool) (s : List Char) :
    (s.dropWhile p).length ≤ s.length :=
  (List.dropWhile_sublist p).length_le

theorem length_readSign {c : Char} {rest r : List Char} {t : Token}
    (h : readSign c rest = .ok (t, r)) : r.length ≤ rest.length := by
  unfold readSign at h
  split at h <;> simp_all

theorem length_readNumberToken {c : Char} {rest r : List Char} {t : Token}
    (h : readNumberToken c rest = .ok (t, r)) : r.length ≤ rest.length := by
  have := length_dropWhile_le isNumberChar rest
  simp only [readNumberToken] at h
  split at h <;> grind

theorem length_readTextToken {c : Char} {rest r : List Char} {t : Token}
    (h : readTextToken c rest = .ok (t, r)) : r.length ≤ rest.length := by
  unfold readTextToken at h
  split at h
  · rename_i h'
    have := length_readText h'
    grind
  · simp at h

/-- A word takes at least the character that it begins with. -/
theorem length_readToken {c : Char} {rest r : List Char} {t : Token}
    (h : readToken c rest = .ok (t, r)) : r.length ≤ rest.length := by
  have := length_dropWhile_le isNameChar rest
  unfold readToken at h
  split at h
  · grind
  · split at h
    · exact length_readSign h
    · split at h
      · exact length_readTextToken h
      · split at h
        · exact length_readNumberToken h
        · split at h
          · simp only [readNameToken, Except.ok.injEq, Prod.mk.injEq] at h
            obtain ⟨-, rfl⟩ := h
            assumption
          · simp at h

/-- A text cut into words. -/
def tokenize : List Char → Except LexFault (List Token)
  | [] => .ok []
  | c :: rest =>
    if Text.isBlank c then tokenize rest
    else
      match h : readToken c rest with
      | .error e => .error e
      | .ok (t, after) =>
        have : after.length ≤ rest.length := length_readToken h
        (tokenize after).map (t :: ·)
  termination_by s => s.length

end CaseRunner.Expression
