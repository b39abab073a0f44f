import CaseRunner.Decimal.Notation
import CaseRunner.Decimal.Reading
import CaseRunner.Functions.Registry
import CaseRunner.Functions.TimeFormat
import CaseRunner.Text.Blank
import CaseRunner.Text.LetterCase

/-!
# The functions every run knows

Time, random values, arithmetic and texts. Arguments are texts; one that is
wanted as a number is read without the blanks around it, and one that is empty
counts as absent where it is optional.
-/

namespace CaseRunner.Builtin

/-- The error of a function. -/
def fault (name text : String) : RunError := .function (name ++ ": " ++ text)

/-- An argument that may be left out or empty. -/
def optional? (args : List String) (index : Nat) : Option String :=
  args[index]?.filter fun s => !s.isEmpty

/-- An argument that must be given. -/
def required (name : String) (args : List String) (index : Nat) : Except RunError String :=
  match args[index]? with
  | some s => .ok s
  | none => .error (fault name ("missing argument #" ++ toString (index + 1)))

/-- An argument that is a number. -/
def number (name : String) (args : List String) (index : Nat) :
    Except RunError Binary64 := do
  let raw ← required name args index
  match Decimal.ofText? (Text.trimmed raw) with
  | some x => return x
  | none => throw (fault name ("argument '" ++ raw ++ "' is not a number"))

/-- The least and the greatest integer of 64 bits. -/
def leastInt : Int := -pow2 63

/-- See `leastInt`. -/
def greatestInt : Int := pow2 63 - 1

/-- A number without its fraction, as an integer of 64 bits. -/
def toInt (x : Binary64) : Int := x.truncate leastInt greatestInt

/-- Is the magnitude of a number below `10 ^ 15`? -/
def isModerate (x : Binary64) : Bool :=
  match x with
  | .nan => false
  | .signed _ rank => (Binary64.signed false rank).lt (.ofInt (pow10 15))

/-- A number as text: whole ones of moderate size without a fraction. -/
def formatNumber (x : Binary64) : String :=
  if x.isWhole && isModerate x then toString (toInt x) else Decimal.plainText x

/-- Two numbers and an operation on them. -/
def arithmetic (name : String) (op : Binary64 → Binary64 → Except RunError Binary64)
    (args : List String) : Except RunError String := do
  if args.length ≠ 2 then
    throw (fault name ("expected 2 arguments, got " ++ toString args.length))
  let a ← number name args 0
  let b ← number name args 1
  return formatNumber (← op a b)

/-- A moment in the format that is asked for. -/
def formatMoment (name : String) (moment : Moment) (fmt : Option String) :
    Except RunError String :=
  let fmt := fmt.getD TimeFormat.standard
  match TimeFormat.format? fmt moment with
  | some s => .ok s
  | none => .error (fault name ("invalid time format '" ++ fmt ++ "'"))

/-- How many seconds an offset may have. -/
def greatestOffset : Int := (pow2 63 - 1) / 1000

/-- The years that moments may lie in: -262143 to 262142. -/
def momentInRange (moment : Moment) : Bool :=
  let year := (Calendar.Date.ofMoment moment).year
  year ≤ 262142 && -262143 ≤ year

/-- The moment some seconds away, if there is one. -/
def offsetMoment? (moment : Moment) (seconds : Binary64) : Option Moment :=
  let n := toInt seconds
  if n < -greatestOffset || greatestOffset < n then none
  else
    let shifted := moment + n * 1000000000
    if momentInRange shifted then some shifted else none

/-- The moment of the call. -/
def now : MacroFunction := fun c args => formatMoment "now" c.moment (optional? args 0)

/-- The date of the call. -/
def today : MacroFunction := fun c _ => formatMoment "today" c.moment (some "%Y-%m-%d")

/-- The seconds from the beginning of 1970. -/
def timestamp : MacroFunction := fun c _ => .ok (toString (c.moment.fdiv 1000000000))

/-- The milliseconds from the beginning of 1970. -/
def timestampMs : MacroFunction := fun c _ => .ok (toString (c.moment.fdiv 1000000))

/-- The moment some seconds from the call. -/
def timeOffset : MacroFunction := fun c args => do
  let seconds ← number "time_offset" args 0
  match offsetMoment? c.moment seconds with
  | some moment => formatMoment "time_offset" moment (optional? args 1)
  | none => throw (fault "time_offset"
      ("offset of " ++ Decimal.plainText seconds ++ " seconds is out of range"))

/-- A whole number between two, both included. -/
def randomInt : MacroFunction := fun c args => do
  let lo := toInt (← number "random_int" args 0)
  let hi := toInt (← number "random_int" args 1)
  if hi < lo then
    throw (.function ("random_int(" ++ toString lo ++ ", " ++ toString hi ++
      "): min is greater than max"))
  return toString (lo + (c.random 0 : Int) % (hi - lo + 1))

/-- The beginnings of telephone numbers. -/
def phonePrefixes : List String :=
  ["130", "131", "132", "135", "136", "137", "138", "150", "186", "188"]

/-- A telephone number of eleven digits. -/
def randomPhone : MacroFunction := fun c _ =>
  .ok (phonePrefixes.getD (c.random 0 % 10) "" ++
    String.join ((List.range 8).map fun i => toString (c.random (i + 1) % 10)))

/-- ASCII letters and digits. -/
def alphanumerics : List Char :=
  "ABCDEFGHIJKLMNOPQRSTUVWXYZabcdefghijklmnopqrstuvwxyz0123456789".toList

/-- Letters and digits, eight of them if no number is given. -/
def randomString : MacroFunction := fun c args => do
  let length ← match optional? args 0 with
    | some _ => (number "random_string" args 0).map fun x => (toInt x).toNat
    | none => pure 8
  return String.ofList ((List.range length).map fun i =>
    alphanumerics.getD (c.random i % 62) 'a')

/-- The functions and their names. -/
def all : List (String × MacroFunction) :=
  [("now", now), ("today", today), ("timestamp", timestamp),
    ("timestamp_ms", timestampMs), ("time_offset", timeOffset),
    ("random_int", randomInt), ("random_phone", randomPhone),
    ("random_string", randomString),
    ("add", fun _ => arithmetic "add" fun a b => .ok (a.add b)),
    ("sub", fun _ => arithmetic "sub" fun a b => .ok (a.sub b)),
    ("mul", fun _ => arithmetic "mul" fun a b => .ok (a.mul b)),
    ("div", fun _ => arithmetic "div" fun a b =>
      if b.eq (.zero false) then .error (fault "div" "division by zero") else .ok (a.div b)),
    ("concat", fun _ args => .ok (String.join args)),
    ("upper", fun _ args => (required "upper" args 0).map Text.toUpper),
    ("lower", fun _ args => (required "lower" args 0).map Text.toLower)]

/-- The registry that a run starts with. -/
def registry : Registry := ⟨all⟩

end CaseRunner.Builtin
