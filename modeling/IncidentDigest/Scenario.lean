import IncidentDigest.Report.Compact
import IncidentDigest.Text.Character

/-!
Scenarios: their payloads, their times, and dumps of their conversations.
-/

namespace IncidentDigest

/-- A full scenario, kept as it came. -/
structure ScenarioPayload where
  body : Json
  deriving BEq, Repr

namespace ScenarioPayload

/-- The id of the scenario, if it is a string or a number. -/
def id? (p : ScenarioPayload) : Option String := labelOf (p.body.get? "scenario_id")

/-- The name of the file that holds the scenario. -/
def fileName (p : ScenarioPayload) : String := p.id?.getD "unknown" ++ ".json"

end ScenarioPayload

/-- When a scenario was created and last changed, as written by its source. -/
structure ScenarioTimes where
  created : Option String
  updated : Option String
  deriving DecidableEq, Repr

namespace ScenarioTimes

open Json.Shape in
def shape : Json.Shape ScenarioTimes := record ["created_at", "updated_at"] fun room slots =>
  match slots with
  | [created, updated] => do
    let created ← defaulted .null value room created
    let updated ← defaulted .null value room updated
    return ⟨created.label?, updated.label?⟩
  | _ => none

end ScenarioTimes

/-- A scenario's conversation with what is known of the scenario. -/
structure ScenarioDump where
  id : Option String
  title : Option String
  started : Option String
  updated : Option String
  conversation : List ChatMessage
  deriving BEq, Repr

namespace ScenarioDump

open Json.Shape in
def shape : Json.Shape ScenarioDump :=
  record ["scenario_id", "title", "started_at_utc", "updated_at_utc", "slack_conversation"]
    fun room slots =>
      match slots with
      | [id, title, started, updated, conversation] => do
        return ⟨← optional text room id, ← optional text room title, ← optional text room started,
          ← optional text room updated, ← required (list ChatMessage.shape) room conversation⟩
      | _ => none

def toJson (d : ScenarioDump) : Json :=
  .obj [("scenario_id", .ofOption d.id), ("title", .ofOption d.title),
    ("started_at_utc", .ofOption d.started), ("updated_at_utc", .ofOption d.updated),
    ("slack_conversation", .arr (d.conversation.map ChatMessage.toJson))]

def messageLine (m : ChatMessage) : String :=
  m.time.getD "" ++ " - " ++ m.user.getD "Unknown" ++ ": " ++ m.text.getD "" ++ "\n"

def transcript (d : ScenarioDump) : String :=
  "Scenario: " ++ d.title.getD "Untitled" ++ " (ID: " ++ d.id.getD "" ++ ")\nCreated: " ++
    d.started.getD "None" ++ "\nUpdated: " ++ d.updated.getD "None" ++ "\n" ++
    (if d.conversation.isEmpty then "No Slack messages found for this scenario.\n"
     else "Slack Conversation:\n" ++ String.join (d.conversation.map messageLine))

/-- The transcripts of all conversations, with a rule between them. -/
def renderText (dumps : List ScenarioDump) : String :=
  Text.joinWith "\n\n---\n\n" (dumps.map transcript)

end ScenarioDump

/-- The answer that carries a scenario's monitoring records, which it may lack. -/
def recordsEnvelope : Json.Shape (Option (List MonitoringRecord)) :=
  Json.Shape.record ["datadog_payloads"] fun room slots =>
    match slots with
    | [records] =>
      Json.Shape.defaulted none (Json.Shape.nullable (Json.Shape.list MonitoringRecord.shape)) room records
    | _ => none

/-- The answer that carries a scenario's conversation, which it may lack. -/
def conversationEnvelope : Json.Shape (Option (List ChatMessage)) :=
  Json.Shape.record ["slack_conversation"] fun room slots =>
    match slots with
    | [messages] =>
      Json.Shape.defaulted none (Json.Shape.nullable (Json.Shape.list ChatMessage.shape)) room messages
    | _ => none

end IncidentDigest
