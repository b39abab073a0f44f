import CaseRunner.Text.LetterTable

/-!
# Letters, numerals and words

Which characters a name, a number or a word may be made of. All classes are
those of Unicode; the ASCII classes of `Char` (`isDigit`, `isAlpha`) are used
where a format admits ASCII only.
-/

namespace CaseRunner.Text

/-- A letter, or a mark that counts as one (the property Alphabetic). -/
def isAlphabetic (c : Char) : Bool := inRanges alphabeticRanges c.toNat

/-- A numeral of any script (the general category N). -/
def isNumeral (c : Char) : Bool := inRanges numeralRanges c.toNat

/-- A letter or a numeral. -/
def isAlphanumeric (c : Char) : Bool := isAlphabetic c || isNumeral c

/-- A character that may stand inside a word: letters, marks, decimal digits,
connector punctuation such as `_`, and join controls. -/
def isWordChar (c : Char) : Bool := inRanges wordRanges c.toNat

/-- A character that may begin a bare name: an ASCII letter or `_`. -/
def isNameStart (c : Char) : Bool := c.isAlpha || c == '_'

example : isAlphabetic 'é' = true ∧ isAlphabetic '1' = false := by decide
example : isWordChar '_' = true ∧ isWordChar '-' = false := by decide
example : isAlphanumeric '٣' = true := by decide

end CaseRunner.Text
