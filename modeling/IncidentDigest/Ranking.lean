import IncidentDigest.Counter
import IncidentDigest.Json.Shape
import IncidentDigest.Json.Writer

/-!
Ranked entries and shares.

The share of a count in a total is a percentage with two decimals: the quotient is taken in
floating-point steps, each rounded once, and the result of the last rounding to hundredths is the nearest
floating-point number.
-/

namespace IncidentDigest

/-- The percentage that `count` is of `total`, to two decimals, a half going up.  A total of zero counts
as one. -/
def percentage (count total : Nat) : Binary64 :=
  let share : Option Binary64 := do
    let hundred ← Binary64.ofNat? 100
    let whole ← Binary64.ofNat? (max total 1)
    let raw ← (← hundred.mul? (← Binary64.ofNat? count)).div? whole
    let hundredths ← Binary64.ofNat? (← raw.mul? hundred).roundMagnitude
    hundredths.div? hundred
  share.getD (.zero false)

/-- A value with its count and its share of all observations. -/
structure RankedEntry where
  value : String
  count : Nat
  percent : Binary64
  deriving DecidableEq, Repr

namespace RankedEntry

open Json.Shape in
def shape : Json.Shape RankedEntry := record ["value", "count", "pct"] fun room slots =>
  match slots with
  | [value, count, percent] => do
    return ⟨← required text room value, ← required natural room count, ← required float room percent⟩
  | _ => none

def toJson (e : RankedEntry) : Json :=
  .obj [("value", .str e.value), ("count", .int e.count), ("pct", .float e.percent)]

end RankedEntry

structure NamedCount where
  name : String
  count : Nat
  deriving DecidableEq, Repr

namespace NamedCount

open Json.Shape in
def shape : Json.Shape NamedCount := record ["name", "count"] fun room slots =>
  match slots with
  | [name, count] => do return ⟨← required text room name, ← required natural room count⟩
  | _ => none

def toJson (e : NamedCount) : Json := .obj [("name", .str e.name), ("count", .int e.count)]

end NamedCount

namespace Counter

/-- The `k` most frequent values with their shares of all observations, those of other values
included. -/
def rankedEntries (c : Counter) (k : Nat) : List RankedEntry :=
  (c.mostCommon k).map fun e => ⟨e.1, e.2, percentage e.2 (max c.total 1)⟩

def namedCounts (c : Counter) (k : Nat) : List NamedCount :=
  (c.mostCommon k).map fun e => ⟨e.1, e.2⟩

end Counter
end IncidentDigest
