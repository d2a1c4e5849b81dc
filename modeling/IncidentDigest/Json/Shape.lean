import IncidentDigest.Json.Reader
import IncidentDigest.Text.Utf8

/-!
Reading written JSON straight into a type.

A `Shape` takes a value of some type out of a written text, given how many containers may still be
opened.  A record with a fixed list of fields may be written as an object, where other members are only
skipped, or as a list of the fields in order.  A record that keeps its other members is written as an
object only, and its members are handed over in the order of the text.
-/

namespace IncidentDigest.Json

/-- A way to read written JSON as a value of `α`, with room for some more containers. -/
abbrev Shape (α : Type) := Nat → Written → Option α

namespace Shape

variable {α : Type}

def readText? (shape : Shape α) (text : String) : Option α := do
  shape maxDepth (← Written.ofText? text)

/-- What stands for a fault in the bytes of a text: a surrogate without its partner.  No string that is
read may hold one, but a string that is only skipped may, and outside of strings nothing like it may stand. -/
def fault : List Char := ['\uFFFD', '\\', 'u', 'd', 'c', '0', '0']

/-- Reads a whole text given by its bytes. -/
def readBytes? (shape : Shape α) (bytes : List UInt8) : Option α :=
  shape.readText? (String.ofList ((Text.Utf8.decode bytes).flatMap fun c => (c.map ([·])).getD fault))

def value : Shape Json := ofWritten?

def text : Shape String
  | _, .str pieces => pieceText? pieces
  | _, _ => none

def flag : Shape Bool
  | _, .bool b => some b
  | _, _ => none

/-- A whole number between two bounds, written without point and exponent. -/
def integer (low high : Int) : Shape Int
  | _, .number n =>
    match n.value? with
    | some (.int i) => if low ≤ i && i ≤ high then some i else none
    | _ => none
  | _, _ => none

/-- A number that is not negative, within 64 bits. -/
def natural (room : Nat) (w : Written) : Option Nat :=
  (integer 0 (IncidentDigest.Numeral.unsignedBound - 1) room w).map Int.toNat

/-- A signed number of 64 bits. -/
def signed : Shape Int :=
  integer (-IncidentDigest.Numeral.signedBound) (IncidentDigest.Numeral.signedBound - 1)

/-- A floating-point number; a whole number stands for the nearest one. -/
def float : Shape Binary64
  | _, .number n =>
    match n.value? with
    | some (.int i) => Binary64.ofInt? i
    | some (.float x) => some x
    | _ => none
  | _, _ => none

/-- A value or `null`. -/
def nullable (shape : Shape α) : Shape (Option α)
  | _, .null => some none
  | room, w => (shape room w).map some

/-- A list, each item read by the same shape. -/
def list (shape : Shape α) : Shape (List α)
  | room, .arr items => if room = 0 then none else items.mapM (shape (room - 1))
  | _, _ => none

/-- A pair written as a list of two. -/
def pair {β : Type} (first : Shape α) (second : Shape β) : Shape (α × β)
  | room, .arr [a, b] =>
    if room = 0 then none
    else do return (← first (room - 1) a, ← second (room - 1) b)
  | _, _ => none

/-- The members of an object in the order of the text, repeated ones included. -/
def members : Shape (List (String × Json))
  | room, .obj ms => if room = 0 then none else ofWrittenMembers? (room - 1) ms
  | _, _ => none

/-! ### Records with a fixed list of fields -/

/-- What a record says about one of its fields. -/
inductive Slot where
  /-- The field is there. -/
  | filled (w : Written)
  /-- The object has no such member. -/
  | absent
  /-- The list of fields ends before this one. -/
  | cut
  deriving Repr

def named? (ms : List (List Piece × Written)) : Option (List (String × Written)) :=
  ms.mapM fun m => (pieceText? m.1).map fun k => (k, m.2)

/-- One slot for each declared field.  A repeated field and a list that is too long are refused. -/
def slots? (fields : List String) : Written → Option (List Slot)
  | .obj ms => do
    let ms ← named? ms
    fields.mapM fun f =>
      match ms.filter fun m => m.1 == f with
      | [] => some .absent
      | [m] => some (.filled m.2)
      | _ => none
  | .arr items =>
    if fields.length < items.length then none
    else some (items.map .filled ++ List.replicate (fields.length - items.length) .cut)
  | _ => none

/-- A field that has to be there. -/
def required (shape : Shape α) (room : Nat) : Slot → Option α
  | .filled w => shape room w
  | _ => none

/-- A field that may be `null`, and that an object may leave out. -/
def optional (shape : Shape α) (room : Nat) : Slot → Option (Option α)
  | .filled w => nullable shape room w
  | .absent => some none
  | .cut => none

/-- A field with a value of its own where it is left out. -/
def defaulted (default : α) (shape : Shape α) (room : Nat) : Slot → Option α
  | .filled w => shape room w
  | _ => some default

/-- A record: its slots are handed to `build` with the room that is left inside it. -/
def record (fields : List String) (build : Nat → List Slot → Option α) : Shape α :=
  fun room w =>
    if room = 0 then none
    else do build (room - 1) (← slots? fields w)

end Shape
end IncidentDigest.Json
