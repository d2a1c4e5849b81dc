import IncidentDigest.Instant.Reader

/-!
Time windows.

A window is given by its end and its length in minutes.  It exists if the length is positive and the
start is still an instant.
-/

namespace IncidentDigest

/-- Both ends of a window, as text. -/
structure TimeWindow where
  start : String
  stop : String
  deriving DecidableEq, Repr

namespace TimeWindow

/-- The longest span of time, in seconds. -/
def maxSpanSeconds : Int := (Numeral.signedBound - 1) / 1000

/-- The instant a number of minutes before another one.  Going back from a leap second counts it as the
first second of the next minute. -/
def minutesBefore? (stop : Instant) (minutes : Int) : Option Instant :=
  if 0 < minutes && minutes * 60 ≤ maxSpanSeconds then
    let (seconds, nanos) :=
      if Instant.second ≤ stop.nanos then (stop.seconds + 1, stop.nanos - Instant.second)
      else (stop.seconds, stop.nanos)
    let start := seconds - minutes * 60
    if Instant.inRange start then some ⟨start, nanos⟩ else none
  else none

/-- The window of some minutes that ends at an instant. -/
def endingAt (stop : Instant) (minutes : Int) : Except TimestampError TimeWindow :=
  match minutesBefore? stop minutes with
  | some start => .ok ⟨start.format, stop.format⟩
  | none => .error (.windowOutOfRange minutes)

end TimeWindow
end IncidentDigest
