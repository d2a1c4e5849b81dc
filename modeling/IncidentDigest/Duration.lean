import IncidentDigest.Binary64.Extended

/-!
Spans of time, in whole nanoseconds.

The seconds of a span are counted in 64 bits.  Multiplication stays at the longest span where the product
would not fit (`times_toNanos`).
-/

namespace IncidentDigest

/-- A span of time; `nanos` is below a second. -/
structure Duration where
  seconds : Nat
  nanos : Nat
  deriving DecidableEq, Repr

namespace Duration

def second : Nat := 1000000000

def zero : Duration := ⟨0, 0⟩

def longest : Duration := ⟨Numeral.unsignedBound - 1, second - 1⟩

def toNanos (d : Duration) : Nat := d.seconds * second + d.nanos

/-- The span of a number of nanoseconds, at most the longest one. -/
def ofNanos (n : Nat) : Duration :=
  if n / second < Numeral.unsignedBound then ⟨n / second, n % second⟩ else longest

/-- A multiple of a span, at most the longest one. -/
def times (d : Duration) (factor : Nat) : Duration := ofNanos (d.toNanos * factor)

/-- The span nearest to a number of seconds, a half nanosecond going to the even neighbour; `none` for a
number that is negative, undefined or too large. -/
def ofSeconds? : Binary64.Extended → Option Duration
  | .finite x =>
    if x.negative && !x.isZero then none
    else
      let n := roundDiv (x.numerator * second) x.denominator .toEven
      if n / second < Numeral.unsignedBound then some (ofNanos n) else none
  | _ => none

/-- The span in seconds as a floating-point number: the whole seconds plus the rounded fraction. -/
def toSeconds? (d : Duration) : Option Binary64 := do
  let whole ← Binary64.ofNat? d.seconds
  let fraction ← Binary64.ofRatio? false d.nanos second
  Binary64.ofRatio? false
    (whole.numerator * fraction.denominator + fraction.numerator * whole.denominator)
    (whole.denominator * fraction.denominator)

/-- The span in seconds with one decimal place. -/
def label (d : Duration) : String :=
  match d.toSeconds? with
  | some x => String.ofList (Binary64.fixedPlaces 1 x.numerator x.denominator)
  | none => "inf"

/-- Waiting times grow with the number of the attempt, which is counted in 32 bits. -/
def afterAttempt (step : Duration) (attempt : Nat) : Duration := step.times (min attempt 0xFFFFFFFF)

theorem toNanos_ofNanos (n : Nat) : (ofNanos n).toNanos = min n longest.toNanos := by
  unfold ofNanos
  split
  · simp only [toNanos, longest, second, Numeral.unsignedBound] at *
    omega
  · simp only [toNanos, longest, second, Numeral.unsignedBound] at *
    omega

/-- A multiple is exact up to the longest span. -/
theorem times_toNanos (d : Duration) (factor : Nat) :
    (d.times factor).toNanos = min (d.toNanos * factor) longest.toNanos :=
  toNanos_ofNanos _

end Duration
end IncidentDigest
