/-!
The proleptic Gregorian calendar.

Days are numbered from 1970-01-01, which is day 0.  `Date.toDays` counts the days before a date;
`Date.ofDays` finds the date of a day by taking out cycles of 400, 100 and 4 years.
-/

namespace IncidentDigest

/-- A calendar date.  Years before the year 1 are 0, -1 and so on; months and days count from 1. -/
structure Date where
  year : Int
  month : Nat
  day : Nat
  deriving DecidableEq, Repr

namespace Date

def isLeapYear (year : Int) : Bool := year % 4 == 0 && (year % 100 != 0 || year % 400 == 0)

def monthLengths (leap : Bool) : List Nat :=
  [31, if leap then 29 else 28, 31, 30, 31, 30, 31, 31, 30, 31, 30, 31]

/-- The number of days from 0001-01-01 to the first day of a year. -/
def daysBeforeYear (year : Int) : Int :=
  let y := year - 1
  365 * y + y / 4 - y / 100 + y / 400

/-- The number of days from 0001-01-01 to 1970-01-01. -/
def epochDays : Int := 719162

def isValid (d : Date) : Bool :=
  match (monthLengths (isLeapYear d.year))[d.month - 1]? with
  | some length => 1 ≤ d.month && 1 ≤ d.day && d.day ≤ length
  | none => false

def toDays (d : Date) : Int :=
  let before : Nat := ((monthLengths (isLeapYear d.year)).take (d.month - 1)).foldr (· + ·) 0
  daysBeforeYear d.year + before + (d.day - 1 : Nat) - epochDays

/-- The month and the day in it, for a day of the year counted from 0. -/
def findMonth : (lengths : List Nat) → (month dayOfYear : Nat) → Nat × Nat
  | [], month, day => (month, day + 1)
  | length :: rest, month, day =>
    if day < length then (month, day + 1) else findMonth rest (month + 1) (day - length)

def ofDays (days : Int) : Date :=
  let n := days + epochDays
  let era := n / 146097
  let inEra := (n % 146097).toNat
  let century := min (inEra / 36524) 3
  let inCentury := inEra - century * 36524
  let olympiad := inCentury / 1461
  let inOlympiad := inCentury - olympiad * 1461
  let yearOf := min (inOlympiad / 365) 3
  let year := 400 * era + (100 * century + 4 * olympiad + yearOf + 1 : Nat)
  let (month, day) := findMonth (monthLengths (isLeapYear year)) 1 (inOlympiad - yearOf * 365)
  ⟨year, month, day⟩

/-- The earliest year that an instant can lie in. -/
def minYear : Int := -262143

/-- The latest year that an instant can lie in. -/
def maxYear : Int := 262142

end Date
end IncidentDigest
