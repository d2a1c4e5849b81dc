import IncidentDigest.Export
import IncidentDigest.Service.Client

/-!
What is collected from the scenario service.

Each collection starts with the listing, which must succeed.  A download fails with the first scenario
that cannot be had; a dump keeps the failures of one scenario to that scenario.
-/

namespace IncidentDigest.Client

/-- The id of an entry, unless it is empty. -/
def usableId? (s : ScenarioSummary) : Option String := s.id.filter fun id => !id.isEmpty

def payloads (c : Client) : List String → Call (List ScenarioPayload)
  | [] => return []
  | id :: rest => do
    let p ← c.payload id
    return p :: (← c.payloads rest)

/-- The payloads of all listed scenarios that have an id, in the order of the listing. -/
def fetchAll (c : Client) : Call (List ScenarioPayload) := do
  c.payloads ((← c.list).filterMap usableId?)

/-! ### Dumps -/

/-- A time in its normal form.  One that cannot be read is dropped with a warning. -/
def normalizedTime (id field : String) (raw : Option String) : Call (Option String) :=
  match Instant.normalize raw with
  | .ok t => return t
  | .error e => do
    Call.warn (.timeDropped id field e)
    return none

/-- Both times of a scenario, as far as they can be had. -/
def dumpTimes (c : Client) (id title : String) : Call (Option String × Option String) := do
  match ← (c.times id).outcome with
  | .ok times =>
    let created ← normalizedTime id "created_at" times.created
    let updated ← normalizedTime id "updated_at" times.updated
    return (created, updated)
  | .error e =>
    Call.warn (.detailsMissing id title e)
    return (none, none)

/-- The conversation of a scenario, empty if it cannot be had. -/
def dumpConversation (c : Client) (id title : String) : Call (List ChatMessage) := do
  match ← (c.conversation id).outcome with
  | .ok messages => return messages
  | .error e =>
    Call.warn (.conversationMissing id title e)
    return []

def dumpOne (c : Client) (s : ScenarioSummary) (id : String) : Call ScenarioDump := do
  let title := s.title.getD ""
  let (started, updated) ← c.dumpTimes id title
  let conversation ← c.dumpConversation id title
  return { id := s.id, title := s.title, started, updated, conversation }

/-- The dumps of listed scenarios, in order; of one scenario only, the first of its id, if one is wanted.
Entries without an id are passed over with a warning. -/
def dumpEntries (c : Client) (only : Option String) : List ScenarioSummary → Call (List ScenarioDump)
  | [] => return []
  | s :: rest =>
    match usableId? s with
    | none => do
      Call.warn (.withoutId s.title)
      c.dumpEntries only rest
    | some id =>
      match only with
      | none => do
        let d ← c.dumpOne s id
        return d :: (← c.dumpEntries only rest)
      | some wanted =>
        if wanted = id then do return [← c.dumpOne s id]
        else c.dumpEntries only rest

/-- The scenario that is wanted; blanks do not count. -/
def wanted? (only : Option String) : Option String :=
  (only.map Text.trimmed).filter fun id => !id.isEmpty

/-- The dumps of all scenarios, or of the one that is wanted. -/
def dump (c : Client) (only : Option String) : Call (List ScenarioDump) := do
  c.dumpEntries (wanted? only) (← c.list)

/-! ### Monitoring records -/

/-- The monitoring records of a scenario.  Where the service does not give them, a local file stands in. -/
def recordsOrLocal (c : Client) (files : FileTree) (id path : String) :
    Call (Except StorageError (List MonitoringRecord)) := do
  match ← (c.records id).outcome with
  | .ok records => return .ok records
  | .error e =>
    Call.warn (.localRecords e path)
    return files.readMockRecords path

end IncidentDigest.Client
