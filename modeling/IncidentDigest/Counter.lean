import Std.Data.HashMap

/-!
Counters that remember the order of first observation.

`entries` lists the distinct values with their counts in the order in which they were first observed;
`slots` says where in that list each value stands, so that an observation does not search it.
-/

namespace IncidentDigest

structure Counter where
  entries : Array (String × Nat)
  slots : Std.HashMap String Nat
  deriving BEq

namespace Counter

def empty : Counter := ⟨#[], ∅⟩

def add (c : Counter) (value : String) : Counter :=
  match c.slots[value]? with
  | some slot => { c with entries := c.entries.modify slot fun e => (e.1, e.2 + 1) }
  | none => ⟨c.entries.push (value, 1), c.slots.insert value c.entries.size⟩

def add? (c : Counter) : Option String → Counter
  | some value => c.add value
  | none => c

def ofList (values : List String) : Counter := values.foldl add empty

/-- The distinct values with their counts, in the order of first observation. -/
def toList (c : Counter) : List (String × Nat) := c.entries.toList

def count (c : Counter) (value : String) : Nat :=
  match c.slots[value]? with
  | some slot => (c.entries[slot]?.map (·.2)).getD 0
  | none => 0

def total (c : Counter) : Nat := c.toList.foldr (fun e n => e.2 + n) 0

def size (c : Counter) : Nat := c.entries.size

def isEmpty (c : Counter) : Bool := c.entries.isEmpty

/-- All entries, the most frequent first; equal counts keep the order of first observation. -/
def ranking (c : Counter) : List (String × Nat) := c.toList.mergeSort fun a b => b.2 ≤ a.2

def mostCommon (c : Counter) (k : Nat) : List (String × Nat) := c.ranking.take k

def top (c : Counter) : Option (String × Nat) := (c.mostCommon 1).head?

end Counter
end IncidentDigest
