import IncidentDigest.Binary64

/-!
The shortest decimal that identifies a number.

Around each representable number lies the interval of reals that round to it.  `shortest` looks for
a decimal of as few digits as possible inside that interval and takes the one nearest to the number.
On a grid of powers of ten only the two neighbours of the number can be nearest, so the search tests
those two, on ever finer grids.
-/

namespace IncidentDigest

/-- The number `digits * 10 ^ exponent`. -/
structure Decimal where
  digits : Nat
  exponent : Int
  deriving DecidableEq, Repr

namespace Decimal

/-- Compares a decimal with `n * 2 ^ j`, exactly. -/
def compareDyadic (d : Decimal) (n : Nat) (j : Int) : Ordering :=
  compare (d.digits * Nat.pow 10 d.exponent.toNat * Nat.pow 2 (-j).toNat)
    (n * Nat.pow 2 j.toNat * Nat.pow 10 (-d.exponent).toNat)

def strip (d : Decimal) : Decimal :=
  if h : d.digits % 10 = 0 ∧ d.digits ≠ 0 then strip ⟨d.digits / 10, d.exponent + 1⟩ else d
termination_by d.digits
decreasing_by omega

end Decimal

namespace Binary64

/-- Whether the neighbour below is only half as far away as the neighbour above. -/
def narrowBelow (x : Binary64) : Bool :=
  x.mantissa * 2 == mantissaBound && x.exponent != minExponent

/-- Whether a decimal lies among the reals that round to the magnitude of `x`.  The ends of that
interval belong to it exactly when the mantissa is even. -/
def admits (x : Binary64) (d : Decimal) : Bool :=
  let j := x.exponent - 2
  let low := d.compareDyadic (4 * x.mantissa - (if x.narrowBelow then 1 else 2)) j
  let high := d.compareDyadic (4 * x.mantissa + 2) j
  let closed := x.mantissa % 2 == 0
  (low == .gt || (closed && low == .eq)) && (high == .lt || (closed && high == .eq))

/-- Whether the magnitude reaches `10 ^ k`. -/
def reachesPowerOfTen (x : Binary64) (k : Int) : Bool :=
  Decimal.compareDyadic ⟨1, k⟩ x.mantissa x.exponent != .gt

/-- The exponent of the leading decimal digit of a magnitude that is not zero.  The binary order
gives it up to one; exact comparisons settle it. -/
def decimalOrder (x : Binary64) : Int :=
  let guess : Int := ((x.exponent + x.mantissa.log2) * 30103).fdiv 100000
  ([guess + 1, guess, guess - 1].find? x.reachesPowerOfTen).getD (guess - 2)

/-- The decimal nearest to the magnitude among the multiples of `10 ^ k` that identify it. -/
def nearestOnGrid? (tie : Tie) (x : Binary64) (k : Int) : Option Decimal :=
  let num := x.numerator * Nat.pow 10 (-k).toNat
  let den := x.denominator * Nat.pow 10 k.toNat
  let below : Decimal := ⟨num / den, k⟩
  let above : Decimal := ⟨num / den + 1, k⟩
  match x.admits below, x.admits above with
  | true, true => some ⟨roundDiv num den tie, k⟩
  | true, false => some below
  | false, true => some above
  | false, false => none

def exactDecimal (x : Binary64) : Decimal :=
  ⟨x.mantissa * Nat.pow 2 x.exponent.toNat * Nat.pow 5 (-x.exponent).toNat, min x.exponent 0⟩

/-- The fewest digits that identify the magnitude, and of those the nearest.  Seventeen digits are
always enough. -/
def shortest (tie : Tie) (x : Binary64) : Decimal :=
  if x.isZero then ⟨0, 0⟩
  else
    let order := x.decimalOrder
    let found := (List.range 17).findSome? fun i : Nat => x.nearestOnGrid? tie (order - i)
    (found.getD x.exactDecimal).strip

end Binary64
end IncidentDigest
