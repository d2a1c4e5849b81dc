import IncidentDigest.Numeral
import IncidentDigest.Binary64.Shortest

/-!
How the digits of a number are set out.

A `NumberStyle` holds the decisions of one output format; `Binary64.format` carries them out.  Fixed
places round the exact value and do not go through the shortest decimal.
-/

namespace IncidentDigest

/-- The decisions of a number format. -/
structure NumberStyle where
  /-- Leading exponents `e` with `fst ≤ e < snd` are written positionally, others with an exponent;
  without a range every number is positional. -/
  positional : Option (Int × Int)
  /-- Whether a whole number is written with `.0` after it. -/
  pointZero : Bool
  /-- Which of two equally near decimals is taken. -/
  tie : Tie
  deriving DecidableEq, Repr

namespace Decimal

/-- Digits with the point in its place and zeros filled in. -/
def positional (d : Decimal) (pointZero : Bool) : List Char :=
  let ds := Numeral.digits d.digits
  let before : Int := ds.length + d.exponent
  if 0 ≤ d.exponent then
    ds ++ List.replicate d.exponent.toNat '0' ++ (if pointZero then ['.', '0'] else [])
  else if 0 < before then
    ds.take before.toNat ++ '.' :: ds.drop before.toNat
  else
    '0' :: '.' :: (List.replicate (-before).toNat '0' ++ ds)

/-- One digit before the point, and an exponent that always bears a sign. -/
def scientific (d : Decimal) : List Char :=
  let ds := Numeral.digits d.digits
  let order : Int := ds.length - 1 + d.exponent
  let tail := ds.drop 1
  ds.take 1 ++ (if tail.isEmpty then [] else '.' :: tail) ++
    'e' :: (if order < 0 then '-' else '+') :: Numeral.digits order.natAbs

def format (style : NumberStyle) (d : Decimal) : List Char :=
  let order : Int := (Numeral.digits d.digits).length - 1 + d.exponent
  match style.positional with
  | none => d.positional style.pointZero
  | some (low, high) =>
    if low ≤ order ∧ order < high then d.positional style.pointZero else d.scientific

end Decimal

namespace Binary64

/-- The shortest digits of a number in the given style, with its sign. -/
def format (style : NumberStyle) (x : Binary64) : List Char :=
  (if x.negative then ['-'] else []) ++ (x.shortest style.tie).format style

/-- The exact quotient `num / den` with a fixed number of places, ties to even. -/
def fixedPlaces (places num den : Nat) : List Char :=
  let scaled := Numeral.padded (places + 1) (roundDiv (num * Nat.pow 10 places) den .toEven)
  let whole := scaled.length - places
  scaled.take whole ++ (if places = 0 then [] else '.' :: scaled.drop whole)

end Binary64

/-- Running text: never an exponent, and no point in a whole number. -/
def NumberStyle.plain : NumberStyle where
  positional := none
  pointZero := false
  tie := .awayFromZero

end IncidentDigest
