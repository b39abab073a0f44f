/-!
# Dates

Moments are counted in nanoseconds from the beginning of 1970 in universal time,
and dates are those of the Gregorian calendar, carried on before its adoption.
The day numbers follow from years that begin in March, so that the leap day is
the last day of a year.
-/

namespace CaseRunner

/-- A moment, in nanoseconds from the beginning of 1970. -/
abbrev Moment := Int

namespace Calendar

/-- A moment as a date and a time of day. -/
structure Date where
  /-- The year. -/
  year : Int
  /-- The month, from 1. -/
  month : Nat
  /-- The day of the month, from 1. -/
  day : Nat
  /-- The day of the year, from 1. -/
  yearDay : Nat
  /-- The day of the week, 0 for Sunday. -/
  weekDay : Nat
  /-- The hour of the day. -/
  hour : Nat
  /-- The minute of the hour. -/
  minute : Nat
  /-- The second of the minute. -/
  second : Nat
  /-- The nanosecond of the second. -/
  nano : Nat
  /-- The seconds from the beginning of 1970. -/
  stamp : Int

/-- Does the year have a leap day? -/
def isLeap (year : Int) : Bool :=
  year % 4 == 0 && (year % 100 != 0 || year % 400 == 0)

/-- The year, month and day of a day number, 0 being the first of January 1970. -/
def civil (days : Int) : Int × Nat × Nat :=
  let z := days + 719468
  let era := z.fdiv 146097
  let dayOfEra := (z - era * 146097).toNat
  let yearOfEra :=
    (dayOfEra - dayOfEra / 1460 + dayOfEra / 36524 - dayOfEra / 146096) / 365
  let dayOfYear := dayOfEra - (365 * yearOfEra + yearOfEra / 4 - yearOfEra / 100)
  let shifted := (5 * dayOfYear + 2) / 153
  let day := dayOfYear - (153 * shifted + 2) / 5 + 1
  let month := if shifted < 10 then shifted + 3 else shifted - 9
  let year : Int := yearOfEra + era * 400
  (if month ≤ 2 then year + 1 else year, month, day)

/-- The days of a year before the first of a month. -/
def daysBefore (leap : Bool) (month : Nat) : Nat :=
  let days := [0, 31, 59, 90, 120, 151, 181, 212, 243, 273, 304, 334].getD (month - 1) 0
  if leap && 2 < month then days + 1 else days

/-- The date of a moment in universal time. -/
def Date.ofMoment (moment : Moment) : Date :=
  let stamp := moment.fdiv 1000000000
  let nano := (moment.fmod 1000000000).toNat
  let days := stamp.fdiv 86400
  let rest := (stamp.fmod 86400).toNat
  let (year, month, day) := civil days
  { year, month, day, yearDay := daysBefore (isLeap year) month + day
    weekDay := ((days + 4).fmod 7).toNat
    hour := rest / 3600, minute := rest / 60 % 60, second := rest % 60, nano, stamp }

/-- The weeks of the year so far, weeks beginning on the given day of the week
and the days before the first such day being week 0. -/
def Date.weekFrom (d : Date) (firstDay : Nat) : Nat :=
  (d.yearDay + 6 - (d.weekDay + 7 - firstDay) % 7) / 7

/-- How many weeks a year has whose first Thursday is in week 1. -/
def weeksIn (year : Int) : Nat :=
  let p (y : Int) : Int := (y + y.fdiv 4 - y.fdiv 100 + y.fdiv 400).fmod 7
  if p year == 4 || p (year - 1) == 3 then 53 else 52

/-- The year and the number of the week that holds a date, weeks beginning on
Monday and week 1 holding the first Thursday of the year. -/
def Date.isoWeek (d : Date) : Int × Nat :=
  let weekDay := if d.weekDay = 0 then 7 else d.weekDay
  let week : Int := ((d.yearDay : Int) - weekDay + 10).fdiv 7
  if week < 1 then (d.year - 1, weeksIn (d.year - 1))
  else if weeksIn d.year < week then (d.year + 1, 1)
  else (d.year, week.toNat)

example : (Date.ofMoment 0).weekDay = 4 ∧ (Date.ofMoment 0).year = 1970 := by decide
example : civil 19782 = (2024, 2, 29) := by decide

end Calendar

end CaseRunner
