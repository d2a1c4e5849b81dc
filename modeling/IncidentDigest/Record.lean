import IncidentDigest.Json.Shape
import IncidentDigest.Json.Writer

/-!
Records that keep what they do not know.

A record of this kind has a few known fields, read leniently, and carries every other member along
unchanged.  A known field may not be repeated in a text; of other repeated members the last one counts.
Written, the known fields come first and the others follow in the order of their keys.
-/

namespace IncidentDigest

/-- The members of an object, sorted by key. -/
abbrev Extras := List (String × Json)

namespace Extras

/-- Splits members into the values of the known fields and the others.  A repeated known field is
refused. -/
def split? (known : List String) (members : List (String × Json)) :
    Option (List (Option Json) × Extras) :=
  let values := known.mapM fun field =>
    match members.filter fun m => m.1 == field with
    | [] => some none
    | [m] => some (some m.2)
    | _ => none
  values.map fun vs =>
    (vs, Json.sortMembers (members.filter fun m => !known.contains m.1))

/-- A known field that is left out where it has no value. -/
def member (field : String) (value : Option String) : List (String × Json) :=
  match value with
  | some s => [(field, .str s)]
  | none => []

end Extras

/-- A label of a known field: a string or the text of a number; any other value counts as absent. -/
def labelOf (value : Option Json) : Option String := value.bind Json.label?

/-- A monitoring record: tags, a name, and other members. -/
structure MonitoringRecord where
  tags : List String
  name : Option String
  extras : Extras
  deriving BEq, Repr

namespace MonitoringRecord

/-- The strings of a list; anything that is no list has none. -/
def tagsOf : Option Json → List String
  | some (.arr items) => items.filterMap fun
    | .str s => some s
    | _ => none
  | _ => []

def ofMembers? (members : List (String × Json)) : Option MonitoringRecord :=
  match Extras.split? ["tags", "name"] members with
  | some ([tags, name], extras) => some ⟨tagsOf tags, labelOf name, extras⟩
  | _ => none

def shape : Json.Shape MonitoringRecord := fun room w =>
  (Json.Shape.members room w).bind ofMembers?

def toJson (r : MonitoringRecord) : Json :=
  .obj (("tags", .arr (r.tags.map .str)) :: (Extras.member "name" r.name ++ r.extras))

end MonitoringRecord

structure ScenarioSummary where
  id : Option String
  title : Option String
  extras : Extras
  deriving BEq, Repr

namespace ScenarioSummary

def ofMembers? (members : List (String × Json)) : Option ScenarioSummary :=
  match Extras.split? ["scenario_id", "title"] members with
  | some ([id, title], extras) => some ⟨labelOf id, labelOf title, extras⟩
  | _ => none

def shape : Json.Shape ScenarioSummary := fun room w =>
  (Json.Shape.members room w).bind ofMembers?

/-- An entry that has already been read as a value. -/
def ofJson? : Json → Option ScenarioSummary
  | .obj members => ofMembers? members
  | _ => none

def toJson (s : ScenarioSummary) : Json :=
  .obj (Extras.member "scenario_id" s.id ++ Extras.member "title" s.title ++ s.extras)

end ScenarioSummary

structure ChatMessage where
  user : Option String
  text : Option String
  time : Option String
  extras : Extras
  deriving BEq, Repr

namespace ChatMessage

def ofMembers? (members : List (String × Json)) : Option ChatMessage :=
  match Extras.split? ["user", "text", "ts"] members with
  | some ([user, text, time], extras) => some ⟨labelOf user, labelOf text, labelOf time, extras⟩
  | _ => none

def shape : Json.Shape ChatMessage := fun room w =>
  (Json.Shape.members room w).bind ofMembers?

def toJson (m : ChatMessage) : Json :=
  .obj (Extras.member "user" m.user ++ Extras.member "text" m.text ++ Extras.member "ts" m.time ++
    m.extras)

end ChatMessage
end IncidentDigest
