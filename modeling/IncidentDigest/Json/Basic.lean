import IncidentDigest.Binary64

/-!
JSON values.

Integers within 64 bits, signed or unsigned, are kept exactly; every other number is a binary
floating-point number.  The members of an object form a list: the reader sorts it by key, so that a
value read from text has one representation, and the writer keeps whatever order it is given.
-/

namespace IncidentDigest

inductive Json where
  | null
  | bool (b : Bool)
  | int (n : Int)
  | float (x : Binary64)
  | str (s : String)
  | arr (items : List Json)
  | obj (members : List (String × Json))
  deriving BEq, Repr, Inhabited

namespace Json

/-- Enters a member into a list sorted by key.  A member of the same key is replaced. -/
def insertMember {α : Type} (key : String) (value : α) : List (String × α) → List (String × α)
  | [] => [(key, value)]
  | (k, v) :: rest =>
    if key < k then (key, value) :: (k, v) :: rest
    else if key = k then (key, value) :: rest
    else (k, v) :: insertMember key value rest

/-- Sorts members by key; of repeated keys the last one counts. -/
def sortMembers {α : Type} (members : List (String × α)) : List (String × α) :=
  members.foldl (fun sorted m => insertMember m.1 m.2 sorted) []

/-- The object with the given members, sorted by key. -/
def ofMembers (members : List (String × Json)) : Json := .obj (sortMembers members)

/-- The first member of a key. -/
def member? {α : Type} (key : String) (members : List (String × α)) : Option α :=
  (members.find? fun m => m.1 == key).map (·.2)

/-- The member of an object; `none` for a missing member and for a value that is no object. -/
def get? (key : String) : Json → Option Json
  | .obj members => member? key members
  | _ => none

mutual
/-- Whether no number in the value is a floating-point number. -/
def isFloatFree : Json → Bool
  | .float _ => false
  | .arr items => allFloatFree items
  | .obj members => allMembersFloatFree members
  | _ => true

def allFloatFree : List Json → Bool
  | [] => true
  | v :: rest => v.isFloatFree && allFloatFree rest

def allMembersFloatFree : List (String × Json) → Bool
  | [] => true
  | (_, v) :: rest => v.isFloatFree && allMembersFloatFree rest
end

mutual
/-- How many containers are nested at the deepest place, the outermost one included. -/
def depth : Json → Nat
  | .arr items => depthOfItems items + 1
  | .obj members => depthOfMembers members + 1
  | _ => 0

def depthOfItems : List Json → Nat
  | [] => 0
  | v :: rest => max v.depth (depthOfItems rest)

def depthOfMembers : List (String × Json) → Nat
  | [] => 0
  | (_, v) :: rest => max v.depth (depthOfMembers rest)
end

end Json
end IncidentDigest
