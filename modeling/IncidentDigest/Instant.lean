import IncidentDigest.Calendar
import IncidentDigest.Numeral

/-!
Instants of Coordinated Universal Time and their text.

An instant is a count of seconds from 1970-01-01 and nanoseconds after it.  Nanoseconds of a thousand
million and more say that the instant lies in a leap second, which follows the second that is counted.
-/

namespace IncidentDigest

structure Instant where
  seconds : Int
  nanos : Nat
  deriving DecidableEq, Repr

namespace Instant

def second : Nat := 1000000000

def daySeconds : Int := 86400

/-- The first second of the earliest year. -/
def minSeconds : Int := Date.toDays ⟨Date.minYear, 1, 1⟩ * daySeconds

/-- The last second of the latest year. -/
def maxSeconds : Int := Date.toDays ⟨Date.maxYear, 12, 31⟩ * daySeconds + 86399

def inRange (seconds : Int) : Bool := minSeconds ≤ seconds && seconds ≤ maxSeconds

/-- Four digits for the years 0 to 9999; other years bear a sign. -/
def yearText (year : Int) : List Char :=
  if 0 ≤ year && year ≤ 9999 then Numeral.padded 4 year.natAbs
  else (if year < 0 then '-' else '+') :: Numeral.padded 4 year.natAbs

/-- Date and time with the offset `+00:00`.  Microseconds are written only where the instant is not a
whole second; what is finer is cut off.  A leap second is second 60. -/
def formatChars (t : Instant) : List Char :=
  let date := Date.ofDays (t.seconds / daySeconds)
  let inDay := (t.seconds % daySeconds).toNat
  let leap := second ≤ t.nanos
  let sec := inDay % 60 + (if leap then 1 else 0)
  let fraction := if leap then t.nanos - second else t.nanos
  yearText date.year ++ '-' :: Numeral.padded 2 date.month ++ '-' :: Numeral.padded 2 date.day ++
    'T' :: Numeral.padded 2 (inDay / 3600) ++ ':' :: Numeral.padded 2 (inDay / 60 % 60) ++
    ':' :: Numeral.padded 2 sec ++
    (if t.nanos = 0 then [] else '.' :: Numeral.padded 6 (fraction / 1000)) ++
    ['+', '0', '0', ':', '0', '0']

/-- The text of an instant. -/
def format (t : Instant) : String := String.ofList t.formatChars

end Instant
end IncidentDigest
