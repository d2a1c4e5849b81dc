/-!
Finite numbers of 64-bit binary floating point.

A value is a sign, a mantissa below `2 ^ 53` and a power of two, kept in the one form that the
format gives it.  Arithmetic is exact on ratios of whole numbers and rounds once at the end
(`ofRatio?`), so every result is the representable number nearest to the exact one, a tie going to
the even mantissa.  A result beyond the largest finite number is `none`.
-/

namespace IncidentDigest

/-- Where a value half-way between two neighbours goes. -/
inductive Tie where
  | toEven
  | awayFromZero
  deriving DecidableEq, Repr

/-- The quotient `num / den` rounded to the nearest whole number. -/
def roundDiv (num den : Nat) (tie : Tie) : Nat :=
  let q := num / den
  let twice := 2 * (num % den)
  if twice < den then q
  else if den < twice then q + 1
  else match tie with
    | .toEven => q + q % 2
    | .awayFromZero => q + 1

/-- The number `± mantissa * 2 ^ exponent`.  Either the mantissa has its full 53 bits or the exponent
is the least one, -1074. -/
structure Binary64 where
  negative : Bool
  mantissa : Nat
  exponent : Int
  deriving DecidableEq, Repr

namespace Binary64

def minExponent : Int := -1074

def maxExponent : Int := 971

/-- The size of a full mantissa: mantissas lie below it, normal ones at or above its half. -/
def mantissaBound : Nat := 0x20000000000000

def zero (negative : Bool) : Binary64 := ⟨negative, 0, minExponent⟩

/-- The greatest `k` with `2 ^ k ≤ num / den`, for positive numbers. -/
def binaryOrder (num den : Nat) : Int :=
  let k : Int := (num.log2 : Int) - (den.log2 : Int)
  if den * Nat.pow 2 k.toNat ≤ num * Nat.pow 2 (-k).toNat then k else k - 1

/-- The representable number nearest to `num / den`, or `none` where that is not finite. -/
def ofRatio? (negative : Bool) (num den : Nat) : Option Binary64 :=
  if num = 0 then some (zero negative)
  else
    let e := max (binaryOrder num den - 52) minExponent
    let m := roundDiv (num * Nat.pow 2 (-e).toNat) (den * Nat.pow 2 e.toNat) .toEven
    let r : Binary64 :=
      if m < mantissaBound then ⟨negative, m, e⟩ else ⟨negative, m / 2, e + 1⟩
    if r.exponent ≤ maxExponent then some r else none

/-- Numerator of the magnitude as a ratio of whole numbers. -/
def numerator (x : Binary64) : Nat := x.mantissa * Nat.pow 2 x.exponent.toNat

/-- Denominator of the magnitude as a ratio of whole numbers: a power of two. -/
def denominator (x : Binary64) : Nat := Nat.pow 2 (-x.exponent).toNat

def isZero (x : Binary64) : Bool := x.mantissa == 0

def negate (x : Binary64) : Binary64 := { x with negative := !x.negative }

def ofNat? (n : Nat) : Option Binary64 := ofRatio? false n 1

def ofInt? (n : Int) : Option Binary64 := ofRatio? (n < 0) n.natAbs 1

def mul? (x y : Binary64) : Option Binary64 :=
  ofRatio? (x.negative != y.negative) (x.numerator * y.numerator) (x.denominator * y.denominator)

/-- The rounded quotient, for a divisor that is not zero. -/
def div? (x y : Binary64) : Option Binary64 :=
  ofRatio? (x.negative != y.negative) (x.numerator * y.denominator) (x.denominator * y.numerator)

/-- The nearest whole number to the magnitude, a half going up. -/
def roundMagnitude (x : Binary64) : Nat := roundDiv x.numerator x.denominator .awayFromZero

end Binary64
end IncidentDigest
