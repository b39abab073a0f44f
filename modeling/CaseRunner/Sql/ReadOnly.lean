import CaseRunner.Error
import CaseRunner.Text.LetterCase
import CaseRunner.Text.Letters
import CaseRunner.Text.Search

/-!
# Statements that only read

A case may look into the database but not change it. A statement is let through
if none of its words is a write keyword, where the words are those outside
quoted literals: a literal opens at a quote character and runs to the next
occurrence of the same character, and it separates words.
-/

namespace CaseRunner.Sql

/-- The words that change data or the shape of the data. -/
def writeKeywords : List String :=
  ["insert", "update", "delete", "drop", "alter", "truncate", "create", "replace",
    "grant", "revoke", "merge"]

/-- A character that opens, and closes, a quoted literal. -/
def isQuote (c : Char) : Bool := c == '\'' || c == '"' || c == '\x60'

/-- A character that words are made of. -/
def isWordChar (c : Char) : Bool := Text.isAlphanumeric c || c == '_'

/-- The text outside quoted literals, a blank in place of each literal; the first
argument is the quote that is open. -/
def unquoted : Option Char → List Char → List Char
  | _, [] => []
  | some q, c :: rest => if c = q then unquoted none rest else unquoted (some q) rest
  | none, c :: rest =>
    if isQuote c then ' ' :: unquoted (some c) rest else c :: unquoted none rest

/-- The words of a text, in lower case; between two separators stands an empty
one. -/
def words (s : List Char) : List String :=
  (Text.splitBy (fun c => !isWordChar c) s).map fun w => Text.toLower (String.ofList w)

/-- The first write keyword of a statement. -/
def writeKeyword? (sql : String) : Option String :=
  (words (unquoted none sql.toList)).find? writeKeywords.contains

/-- Lets a statement through if it only reads. -/
def ensureReadOnly (sql : String) : Except RunError Unit :=
  match writeKeyword? sql with
  | some keyword =>
    .error (.sqlSyntax ("'" ++ sql ++ "' contains the write keyword '" ++ keyword ++
      "'; only read-only statements are allowed"))
  | none => .ok ()

theorem ensureReadOnly_eq_ok_iff (sql : String) :
    ensureReadOnly sql = .ok () ↔ writeKeyword? sql = none := by
  unfold ensureReadOnly
  split <;> simp_all

end CaseRunner.Sql
