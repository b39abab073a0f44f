import CaseRunner.Functions.Calendar
import CaseRunner.Powers

/-!
# Time formats

How a moment is written. A format is text with specifiers, a percent sign and a
letter, with an optional sign for the padding of numbers between them. A format
with a specifier that does not exist is refused as a whole, before anything is
written.
-/

namespace CaseRunner.TimeFormat

open Calendar

/-- How a number is filled up to its width. -/
inductive Padding where
  | zero | space | none
  deriving DecidableEq, Repr

/-- A part of a format. -/
inductive Item where
  /-- Text that stands for itself. -/
  | literal (s : String)
  /-- A number with its usual width and padding. -/
  | number (width : Nat) (padding : Padding) (value : Date → Int)
  /-- A year, signed when it has not four digits. -/
  | year (padding : Padding) (value : Date → Int)
  /-- A text taken from the date. -/
  | words (value : Date → String)

/-- The names of the months. -/
def monthNames : List String :=
  ["January", "February", "March", "April", "May", "June", "July", "August",
    "September", "October", "November", "December"]

/-- The names of the days of the week. -/
def dayNames : List String :=
  ["Sunday", "Monday", "Tuesday", "Wednesday", "Thursday", "Friday", "Saturday"]

/-- The first three letters of a name. -/
def short (name : String) : String := String.ofList (name.toList.take 3)

/-- The name of the month of a date. -/
def monthName (d : Date) : String := monthNames.getD (d.month - 1) ""

/-- The name of the day of the week of a date. -/
def dayName (d : Date) : String := dayNames.getD d.weekDay ""

/-- A number filled up to a width. A minus counts towards the width. -/
def pad (width : Nat) (padding : Padding) (n : Int) : String :=
  let digits := toString n.natAbs
  let sign := if n < 0 then "-" else ""
  let missing := width - (sign.length + digits.length)
  match padding with
  | .none => sign ++ digits
  | .zero => sign ++ String.ofList (List.replicate missing '0') ++ digits
  | .space => String.ofList (List.replicate missing ' ') ++ sign ++ digits

/-- A number of two digits. -/
def two (n : Nat) : String := pad 2 .zero n

/-- A year: four digits, and a sign in front of one outside them, which does not
count towards the four. -/
def yearText (padding : Padding) (y : Int) : String :=
  if 0 ≤ y && y ≤ 9999 then pad 4 padding y
  else if y < 0 then pad 5 padding y
  else "+" ++ toString y

/-- The first digits of the nanoseconds. -/
def fraction (places : Nat) (nano : Nat) : String :=
  pad places .zero (nano / pow10 (9 - places))

/-- The fraction of the second with as many places, of 0, 3, 6 and 9, as it
needs. -/
def shortestFraction (nano : Nat) : String :=
  if nano = 0 then ""
  else if nano % 1000000 = 0 then "." ++ fraction 3 nano
  else if nano % 1000 = 0 then "." ++ fraction 6 nano
  else "." ++ fraction 9 nano

/-- The hour on a dial of twelve. -/
def hour12 (d : Date) : Nat := if d.hour % 12 = 0 then 12 else d.hour % 12

/-- Month, day and year of the century. -/
def dateText (d : Date) : String :=
  two d.month ++ "/" ++ two d.day ++ "/" ++ two (d.year.fmod 100).toNat

/-- The time of day to the second. -/
def timeText (d : Date) : String := two d.hour ++ ":" ++ two d.minute ++ ":" ++ two d.second

/-- A date with the year first. -/
def isoDate (d : Date) : String :=
  yearText .zero d.year ++ "-" ++ two d.month ++ "-" ++ two d.day

/-- A number with zeros in front. -/
def zeros (width : Nat) (value : Date → Nat) : Item :=
  .number width .zero fun d => value d

/-- A number with blanks in front. -/
def blanks (width : Nat) (value : Date → Nat) : Item :=
  .number width .space fun d => value d

/-- The item of a specifier of one letter. Local time is universal time. -/
def itemOf? : Char → Option Item
  | 'A' => some (.words dayName)
  | 'B' => some (.words monthName)
  | 'C' => some (.number 2 .zero fun d => d.year.fdiv 100)
  | 'D' => some (.words dateText)
  | 'F' => some (.words isoDate)
  | 'G' => some (.year .zero fun d => d.isoWeek.1)
  | 'H' => some (zeros 2 (·.hour))
  | 'I' => some (zeros 2 hour12)
  | 'M' => some (zeros 2 (·.minute))
  | 'P' => some (.words fun d => if d.hour < 12 then "am" else "pm")
  | 'R' => some (.words fun d => two d.hour ++ ":" ++ two d.minute)
  | 'S' => some (zeros 2 (·.second))
  | 'T' => some (.words timeText)
  | 'U' => some (zeros 2 (·.weekFrom 0))
  | 'V' => some (zeros 2 (·.isoWeek.2))
  | 'W' => some (zeros 2 (·.weekFrom 1))
  | 'X' => some (.words timeText)
  | 'Y' => some (.year .zero (·.year))
  | 'Z' => some (.words fun _ => "+00:00")
  | 'a' => some (.words fun d => short (dayName d))
  | 'b' => some (.words fun d => short (monthName d))
  | 'c' => some (.words fun d => short (dayName d) ++ " " ++ short (monthName d) ++ " " ++
      pad 2 .space d.day ++ " " ++ timeText d ++ " " ++ yearText .zero d.year)
  | 'd' => some (zeros 2 (·.day))
  | 'e' => some (blanks 2 (·.day))
  | 'f' => some (zeros 9 (·.nano))
  | 'g' => some (.number 2 .zero fun d => d.isoWeek.1.fmod 100)
  | 'h' => some (.words fun d => short (monthName d))
  | 'j' => some (zeros 3 (·.yearDay))
  | 'k' => some (blanks 2 (·.hour))
  | 'l' => some (blanks 2 hour12)
  | 'm' => some (zeros 2 (·.month))
  | 'n' => some (.literal "\n")
  | 'p' => some (.words fun d => if d.hour < 12 then "AM" else "PM")
  | 'q' => some (zeros 1 fun d => (d.month + 2) / 3)
  | 'r' => some (.words fun d => two (hour12 d) ++ ":" ++ two d.minute ++ ":" ++
      two d.second ++ (if d.hour < 12 then " AM" else " PM"))
  | 's' => some (.number 9 .none (·.stamp))
  | 't' => some (.literal "\t")
  | 'u' => some (zeros 1 fun d => if d.weekDay = 0 then 7 else d.weekDay)
  | 'v' => some (.words fun d => pad 2 .space d.day ++ "-" ++ short (monthName d) ++ "-" ++
      yearText .zero d.year)
  | 'w' => some (zeros 1 (·.weekDay))
  | 'x' => some (.words dateText)
  | 'y' => some (.number 2 .zero fun d => d.year.fmod 100)
  | 'z' => some (.words fun _ => "+0000")
  | '+' => some (.words fun d => isoDate d ++ "T" ++ timeText d ++
      shortestFraction d.nano ++ "+00:00")
  | '%' => some (.literal "%")
  | _ => none

/-- A specifier behind its percent sign, the longer ones first. -/
def readSpecifier : List Char → Option (Item × List Char)
  | ':' :: ':' :: ':' :: 'z' :: rest => some (.words fun _ => "+00", rest)
  | ':' :: ':' :: 'z' :: rest => some (.words fun _ => "+00:00:00", rest)
  | ':' :: 'z' :: rest => some (.words fun _ => "+00:00", rest)
  | '.' :: '3' :: 'f' :: rest => some (.words fun d => "." ++ fraction 3 d.nano, rest)
  | '.' :: '6' :: 'f' :: rest => some (.words fun d => "." ++ fraction 6 d.nano, rest)
  | '.' :: '9' :: 'f' :: rest => some (.words fun d => "." ++ fraction 9 d.nano, rest)
  | '.' :: 'f' :: rest => some (.words fun d => shortestFraction d.nano, rest)
  | '3' :: 'f' :: rest => some (.words fun d => fraction 3 d.nano, rest)
  | '6' :: 'f' :: rest => some (.words fun d => fraction 6 d.nano, rest)
  | '9' :: 'f' :: rest => some (.words fun d => fraction 9 d.nano, rest)
  | c :: rest => (itemOf? c).map fun item => (item, rest)
  | [] => none

/-- A specifier with a sign for its padding, which only single numbers take. -/
def readPadded (padding : Padding) (rest : List Char) : Option (Item × List Char) :=
  match readSpecifier rest with
  | some (.number width _ value, rest) => some (.number width padding value, rest)
  | some (.year _ value, rest) => some (.year padding value, rest)
  | _ => none

/-- The items of a format; nothing if one of its specifiers does not exist. The
fuel is the length of the format. -/
def readItems : Nat → List Char → Option (List Item)
  | 0, _ => some []
  | _ + 1, [] => some []
  | fuel + 1, '%' :: rest => do
    let (item, rest) ← match rest with
      | '-' :: rest => readPadded .none rest
      | '_' :: rest => readPadded .space rest
      | '0' :: rest => readPadded .zero rest
      | rest => readSpecifier rest
    return item :: (← readItems fuel rest)
  | fuel + 1, c :: rest => (readItems fuel rest).map (.literal (String.singleton c) :: ·)

/-- An item as text. -/
def Item.text (d : Date) : Item → String
  | .literal s => s
  | .year padding value => yearText padding (value d)
  | .number width padding value => pad width padding (value d)
  | .words value => value d

/-- A moment in a format; nothing if the format is refused. -/
def format? (fmt : String) (moment : Moment) : Option String :=
  (readItems (fmt.length + 1) fmt.toList).map fun items =>
    String.join (items.map (Item.text (Date.ofMoment moment)))

/-- The format of a moment when none is given. -/
def standard : String := "%Y-%m-%d %H:%M:%S"

example : format? "%d.%m.%y %H:%M" 951782400000000000 = some "29.02.00 00:00" := by decide +kernel
example : format? "%Q" 0 = none := by decide +kernel

end CaseRunner.TimeFormat
