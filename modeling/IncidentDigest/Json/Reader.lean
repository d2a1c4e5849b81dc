import IncidentDigest.Json.Basic
import IncidentDigest.Json.Written

/-!
From written JSON to values.

A numeral is taken in two steps.  As many digits as stay below `2 ^ 64` form its significand; the digits
left over only shift the decimal point.  The significand then becomes the nearest floating-point number
and is multiplied or divided by one power of ten.  A numeral without point and exponent whose digits all
fit stays an exact integer if it is one of 64 bits.

Values nest at most `maxDepth` containers.
-/

namespace IncidentDigest.Json

/-- How many containers a value may nest, the outermost one included. -/
def maxDepth : Nat := 127

namespace Numeral

/-- Extends a significand by leading digits of a list as long as it stays below `2 ^ 64`, and gives the
digits that are left over. -/
def extendSignificand (significand : Nat) : List Char → Nat × List Char
  | [] => (significand, [])
  | c :: rest =>
    let next := significand * 10 + IncidentDigest.Numeral.digitValue c
    if next < IncidentDigest.Numeral.unsignedBound then extendSignificand next rest
    else (significand, c :: rest)

/-- A power of ten as a floating-point number. -/
def powerOfTen? (k : Nat) : Option Binary64 := Binary64.ofNat? (Nat.pow 10 k)

/-- Divides by `10 ^ k`, in steps of the greatest power of ten that the format holds. -/
def divideByPowerOfTen? (x : Binary64) (k : Nat) : Option Binary64 :=
  if x.isZero then some x
  else if k ≤ 308 then do x.div? (← powerOfTen? k)
  else do divideByPowerOfTen? (← x.div? (← powerOfTen? 308)) (k - 308)
termination_by k
decreasing_by omega

/-- Scales by `10 ^ e`; `none` beyond the largest finite number. -/
def scale? (x : Binary64) (e : Int) : Option Binary64 :=
  if e < 0 then divideByPowerOfTen? x e.natAbs
  else if x.isZero then some x
  else if e ≤ 308 then do x.mul? (← powerOfTen? e.natAbs)
  else none

/-- A written exponent beyond 31 bits makes zero of any numeral with a negative exponent or a zero
significand, and is out of range for the others. -/
def magnitude? (significand : Nat) (shift : Int) (n : Numeral) : Option Binary64 := do
  let x ← Binary64.ofNat? significand
  match n.scale with
  | none => scale? x shift
  | some (positive, ds) =>
    let e := IncidentDigest.Numeral.value ds
    if 0x80000000 ≤ e then
      if significand ≠ 0 && positive then none else some (.zero false)
    else scale? x (if positive then shift + e else shift - e)

/-- The value of a numeral; `none` where it is beyond the largest finite number. -/
def value? (n : Numeral) : Option Json :=
  let (significand, surplus) := extendSignificand 0 n.whole
  if surplus.isEmpty && n.fraction.isEmpty && n.scale.isNone
      && !(n.negative && (significand == 0 || IncidentDigest.Numeral.signedBound < significand)) then
    some (.int (if n.negative then -significand else significand))
  else
    let (full, unused) := extendSignificand significand n.fraction
    let shift : Int := surplus.length - (n.fraction.length - unused.length : Nat)
    (magnitude? full shift n).map fun x => .float (if n.negative then x.negate else x)

end Numeral

/-- The text that a written string stands for. -/
def pieceText? (pieces : List Piece) : Option String := (textOfPieces? pieces).map String.ofList

mutual
/-- The value of a written text that may open `room` more containers. -/
def ofWritten? (room : Nat) : Written → Option Json
  | .null => some .null
  | .bool b => some (.bool b)
  | .number n => n.value?
  | .str pieces => (pieceText? pieces).map .str
  | .arr items => if room = 0 then none else (ofWrittenItems? (room - 1) items).map .arr
  | .obj members =>
    if room = 0 then none else (ofWrittenMembers? (room - 1) members).map ofMembers

def ofWrittenItems? (room : Nat) : List Written → Option (List Json)
  | [] => some []
  | w :: rest => do
    let v ← ofWritten? room w
    let vs ← ofWrittenItems? room rest
    return v :: vs

/-- The members of a written object, in the order of the text. -/
def ofWrittenMembers? (room : Nat) : List (List Piece × Written) → Option (List (String × Json))
  | [] => some []
  | (key, w) :: rest => do
    let k ← pieceText? key
    let v ← ofWritten? room w
    let ms ← ofWrittenMembers? room rest
    return (k, v) :: ms
end

/-- Reads a text as one JSON value. -/
def read? (text : String) : Option Json := do ofWritten? maxDepth (← Written.ofText? text)

end IncidentDigest.Json
