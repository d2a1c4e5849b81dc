import IncidentDigest.Binary64.Layout

/-!
Binary floating point with its values beyond the finite ones.

A setting may be written as an infinity or as an undefined number; arithmetic never produces one.
-/

namespace IncidentDigest.Binary64

inductive Extended where
  | finite (x : Binary64)
  | infinite (negative : Bool)
  | undefined
  deriving DecidableEq, Repr

namespace Extended

/-- The value in running text. -/
def plainText : Extended → String
  | .finite x => String.ofList (x.format .plain)
  | .infinite negative => if negative then "-inf" else "inf"
  | .undefined => "NaN"

/-- Decimals of this many digits before the point, or of this many zeros after it, are beyond every
finite number. -/
def orderBound : Int := 400

/-- The number nearest to a decimal `± digits * 10 ^ exponent`, infinite beyond the largest finite
one. -/
def ofDecimal (negative : Bool) (d : Decimal) : Extended :=
  let order : Int := (Numeral.digits d.digits).length + d.exponent
  if d.digits = 0 || order < -orderBound then .finite (zero negative)
  else if orderBound < order then .infinite negative
  else match ofRatio? negative (d.digits * Nat.pow 10 d.exponent.toNat) (Nat.pow 10 (-d.exponent).toNat) with
    | some x => .finite x
    | none => .infinite negative

end Extended
end IncidentDigest.Binary64
