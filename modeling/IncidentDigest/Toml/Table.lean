import IncidentDigest.Binary64.Extended

/-!
Values of TOML, the format of the settings file, and its tables while a document is put together.

A table is a list of members in the order of the text; keys are unique.  Dates and times are kept as
they are written.  A table is opened by a header, implied by a header further down, or made by a dotted
key, and only some of these may be added to later: a header may open a table that was only implied, and a
dotted key may not enter a table that a header opened.  No key is given twice.
-/

namespace IncidentDigest.Toml

/-! ### Values -/

inductive Value where
  | text (s : String)
  | integer (n : Int)
  | float (x : Binary64.Extended)
  | flag (b : Bool)
  | moment (written : String)
  | list (items : List Value)
  | table (members : List (String × Value))
  deriving Repr, Inhabited

abbrev Members := List (String × Value)

def member? {α : Type} (key : String) (members : List (String × α)) : Option α :=
  (members.find? fun m => m.1 == key).map (·.2)

/-! ### Growing tables -/

/-- How a table came to be. -/
inductive Origin where
  | header
  | implied
  | dotted
  deriving DecidableEq, Repr

/-- What stands under a key.  Of a list of tables the last one comes first. -/
inductive Node where
  | value (v : Value)
  | table (origin : Origin) (members : List (String × Node))
  | tables (items : List (List (String × Node)))
  deriving Inhabited

/-- The members of a table that may still grow. -/
abbrev Branch := List (String × Node)

/-- Puts another node under a key that is there. -/
def replace (key : String) (node : Node) (b : Branch) : Branch :=
  b.map fun m => if m.1 = key then (key, node) else m

/-- Changes the table that a path of keys leads to.  Missing tables on the way are made; of a list of
tables the last one is entered. -/
def changeAt (dotted : Bool) (change : Origin → Branch → Option Branch) :
    List String → Origin → Branch → Option Branch
  | [], origin, b => change origin b
  | key :: path, _, b =>
    match member? key b with
    | none => do
      let origin : Origin := if dotted then .dotted else .implied
      return b ++ [(key, .table origin (← changeAt dotted change path origin []))]
    | some (.table origin inner) =>
      if dotted && origin = .header then none
      else do return replace key (.table origin (← changeAt dotted change path origin inner)) b
    | some (.tables (last :: earlier)) => do
      return replace key (.tables ((← changeAt dotted change path .header last) :: earlier)) b
    | some (.tables []) => none
    | some (.value _) => none

structure Assignment where
  path : List String
  key : String
  value : Value
  deriving Repr

/-- Enters a value.  The last table on the way must be one that dotted keys make. -/
def assign (b : Branch) (a : Assignment) : Option Branch :=
  changeAt true (fun origin inner =>
    if (origin = .dotted) = (a.path = []) || (member? a.key inner).isSome then none
    else some (inner ++ [(a.key, .value a.value)])) a.path .header b

/-- The header of a section: a table, or one more table of a list. -/
structure Header where
  path : List String
  key : String
  listed : Bool
  deriving Repr

/-- Enters a section with its assignments. -/
def openSection (root : Branch) (h : Header) (body : List Assignment) : Option Branch :=
  changeAt false (fun _ b =>
    match h.listed, member? h.key b with
    | false, none => do return b ++ [(h.key, .table .header (← body.foldlM assign []))]
    | false, some (.table .implied inner) => do
      return replace h.key (.table .header (← body.foldlM assign inner)) b
    | true, none => do return b ++ [(h.key, .tables [← body.foldlM assign []])]
    | true, some (.tables items) => do
      return replace h.key (.tables ((← body.foldlM assign []) :: items)) b
    | _, _ => none) h.path .header root

mutual
def Node.toValue : Node → Value
  | .value v => v
  | .table _ b => .table (toMembers b)
  | .tables items => .list (toTables [] items)

def toMembers : List (String × Node) → Members
  | [] => []
  | (key, node) :: rest => (key, node.toValue) :: toMembers rest

/-- The finished tables of a list, in the order of the text. -/
def toTables (done : List Value) : List (List (String × Node)) → List Value
  | [] => done
  | b :: rest => toTables (.table (toMembers b) :: done) rest
end

end IncidentDigest.Toml
