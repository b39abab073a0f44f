import CaseRunner.Document.Basic
import CaseRunner.Text.Blank
import CaseRunner.Text.LetterCase
import CaseRunner.Text.Search

/-!
# Environment files

An environment file assigns values to keys, one line each. Reading it allows
comments, blanks around the parts, `export` in front and one pair of quotes
around a value, and ignores other lines; writing it quotes the values that hold
blanks or a comment sign. Keys are upper case.
-/

namespace CaseRunner.DotEnv

/-- The variables of an environment, ascending in the keys. -/
abbrev Entries := List (String × String)

/-- The value without one pair of the given quotes around it. -/
def stripQuotes? (quote : Char) (value : List Char) : Option (List Char) :=
  (Text.stripFront? [quote] value).bind (Text.stripLast? quote)

/-- The value without the quotes around it. -/
def unquote (value : List Char) : List Char :=
  ((stripQuotes? '"' value).or (stripQuotes? '\'' value)).getD value

/-- The key and the value that a line assigns, if it assigns one. -/
def readLine? (line : List Char) : Option (String × String) :=
  let line := Text.trim line
  if line.isEmpty || line.head? = some '#' then none
  else
    let line := (Text.stripFront? "export ".toList line).getD line
    (Text.splitOnce? '=' line).map fun (key, value) =>
      (Text.toUpper (String.ofList (Text.trim key)),
        String.ofList (unquote (Text.trim value)))

/-- The variables that a text assigns; the last assignment of a key counts. -/
def read (content : String) : Entries :=
  Document.ofPairs ((Text.lines content.toList).filterMap readLine?)

/-- Must the value be written in quotes? -/
def needsQuotes (value : String) : Bool :=
  value.toList.any fun c => Text.isBlank c || c == '#'

/-- The line that assigns a value to a key. -/
def writeLine (entry : String × String) : String :=
  let (key, value) := entry
  if needsQuotes value then key ++ "=\"" ++ value ++ "\"\n" else key ++ "=" ++ value ++ "\n"

/-- The text that assigns the variables. -/
def write (entries : Entries) : String := String.join (entries.map writeLine)

example : read "# c\nhost=x\nexport T=\"a b\"\n\nbroken\n" = [("HOST", "x"), ("T", "a b")] := by
  decide +kernel

end CaseRunner.DotEnv
