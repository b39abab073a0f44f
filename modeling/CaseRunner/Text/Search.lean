/-!
# Finding and cutting

Small operations on texts as lists of characters: does one text lie in
another, what stands before and behind a mark, what are the lines.
-/

namespace CaseRunner.Text

/-- Does the second text occur in the first? -/
def contains (text part : List Char) : Bool :=
  part.isPrefixOf text ||
    match text with
    | [] => false
    | _ :: rest => contains rest part

/-- The text without what it must begin with. -/
def stripFront? (front text : List Char) : Option (List Char) :=
  if front.isPrefixOf text then some (text.drop front.length) else none

/-- The text without the one character it must end with. -/
def stripLast? (last : Char) (text : List Char) : Option (List Char) :=
  if text.getLast? = some last then some text.dropLast else none

/-- What stands before and behind the first occurrence of a mark. -/
def splitOnce? (mark : Char) : List Char → Option (List Char × List Char)
  | [] => none
  | c :: rest =>
    if c = mark then some ([], rest)
    else (splitOnce? mark rest).map fun (a, b) => (c :: a, b)

/-- The pieces between the characters that satisfy a test, the empty ones too;
there is always at least one. -/
def splitBy (test : Char → Bool) : List Char → List (List Char)
  | [] => [[]]
  | c :: rest =>
    if test c then [] :: splitBy test rest
    else match splitBy test rest with
      | [] => [[c]]
      | piece :: pieces => (c :: piece) :: pieces

/-- The lines of a text without their ends; a line ends with a line feed, which
a carriage return may precede. An end of line at the very end opens no further
line. -/
def lines (text : List Char) : List (List Char) :=
  let pieces := splitBy (· == '\n') text
  let pieces := if pieces.getLast? = some [] then pieces.dropLast else pieces
  let last := pieces.length - 1
  pieces.mapIdx fun i piece =>
    if i < last || text.getLast? = some '\n' then
      (stripLast? '\r' piece).getD piece
    else piece

theorem splitBy_ne_nil (test : Char → Bool) (s : List Char) : splitBy test s ≠ [] := by
  cases s with
  | nil => simp [splitBy]
  | cons c rest =>
    unfold splitBy
    split
    · simp
    · split <;> simp

example : lines "a\r\nb\r".toList = ["a".toList, "b\r".toList] := by decide

end CaseRunner.Text
