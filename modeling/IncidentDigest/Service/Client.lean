import IncidentDigest.Scenario
import IncidentDigest.Service.Session

/-!
The client of the scenario service.

Reading requests are tried several times, with a delay that grows by one step after each failure; every
failure counts, also an answer that cannot be read.  Writing requests are tried once.
-/

namespace IncidentDigest

structure Client where
  baseUrl : String
  userAgent : String
  authorization : Option String
  timeoutSeconds : Nat
  /-- How often a reading request is tried, at least once. -/
  attempts : Nat
  /-- By how much the delay grows after each failure. -/
  step : Duration
  deriving DecidableEq, Repr

namespace Client

/-- Why no client can be made. -/
inductive Fault where
  | authorization
  | userAgent
  deriving DecidableEq, Repr

def Fault.message : Fault → String
  | .authorization => "Invalid Authorization header value"
  | .userAgent => "Failed to create HTTP client"

def Fault.cause : Fault → String
  | .authorization => "failed to parse header value"
  | .userAgent => "builder error"

def ofSettings (s : ApiSettings) : Except Fault Client :=
  if s.authorization.any (fun a => !Http.isHeaderText a) then .error .authorization
  else if !Http.isHeaderText s.userAgent then .error .userAgent
  else .ok {
    baseUrl := Settings.withoutTrailingSlashes s.baseUrl
    userAgent := s.userAgent
    authorization := s.authorization
    timeoutSeconds := s.timeoutSeconds
    attempts := max 1 s.attempts
    step := (Duration.ofSeconds? s.backoffSeconds).getD .zero }

def url (c : Client) (path : String) : String := c.baseUrl ++ path

/-- A request with the client's headers.  A name and a password in the address take the place of what
authorizes the client elsewhere. -/
def request (c : Client) (method : Http.Method) (contentType : Option String) (body : String)
    (address : Http.Url) : Http.Request where
  method
  url := address
  userAgent := some c.userAgent
  accept := Http.MediaType.json
  authorization := ((address.credentials.map Http.Credentials.authorization).or c.authorization).toList
  contentType
  referer := none
  body

/-- Sends a request with the client's headers and takes the reply if it says success. -/
def send (c : Client) (method : Http.Method) (url : String) (contentType : Option String) (body : String) :
    Call Http.Reply := do
  let reply ← Call.send method url c.timeoutSeconds true (c.request method contentType body)
  if reply.isSuccess then return reply else throw (.status url reply.status reply.text)

/-! ### Reading requests -/

variable {α : Type}

def decode (shape : Json.Shape α) (reply : Http.Reply) : Option α :=
  reply.content?.bind shape.readBytes?

def attempt (c : Client) (url : String) (shape : Json.Shape α) : Call α := do
  let reply ← c.send .get url none ""
  match decode shape reply with
  | some v => return v
  | none => throw (.decode url)

/-- Tries to read a value, with some more tries in reserve.  `number` counts the tries from 1. -/
def retry (c : Client) (url : String) (shape : Json.Shape α) : (reserve number : Nat) → Call α
  | 0, _ => c.attempt url shape
  | reserve + 1, number => do
    match ← (c.attempt url shape).outcome with
    | .ok v => return v
    | .error e =>
      Call.warn (.retry url number c.attempts e (c.step.afterAttempt number))
      c.retry url shape reserve (number + 1)

def get (c : Client) (path : String) (shape : Json.Shape α) : Call α :=
  c.retry (c.url path) shape (c.attempts - 1) 1

def scenarios : String := "/hackathon/scenarios"

def scenarioPath (id : String) : String := scenarios ++ "/" ++ id

def list (c : Client) : Call (List ScenarioSummary) := do
  match ← c.get scenarios Json.Shape.value with
  | .arr items =>
    match items.mapM ScenarioSummary.ofJson? with
    | some summaries => return summaries
    | none => throw (.decode (c.url scenarios))
  | _ => throw (.unexpectedShape (c.url scenarios))

def payload (c : Client) (id : String) : Call ScenarioPayload := do
  return ⟨← c.get (scenarioPath id) Json.Shape.value⟩

/-- When a scenario was created and last changed. -/
def times (c : Client) (id : String) : Call ScenarioTimes :=
  c.get (scenarioPath id) ScenarioTimes.shape

def conversation (c : Client) (id : String) : Call (List ChatMessage) := do
  return (← c.get (scenarioPath id ++ "/slack") conversationEnvelope).getD []

def records (c : Client) (id : String) : Call (List MonitoringRecord) := do
  return (← c.get (scenarioPath id ++ "/datadog") recordsEnvelope).getD []

/-! ### Writing requests -/

/-- Sends a value.  An answer that is no JSON, or that is empty, is wrapped. -/
def post (c : Client) (path : String) (value : Json) : Call Json := do
  let url := c.url path
  let reply ← c.send .post url (some Http.MediaType.json) value.compact
  match reply.text? with
  | none => throw (.decode url)
  | some text =>
    if reply.declaresJson && !text.isEmpty then
      match Json.read? text with
      | some v => return v
      | none => throw (.decode url)
    else return .obj [("raw", .str text), ("status", .str "ok")]

/-- Puts the scenarios back to their start. -/
def reset (c : Client) : Call Json := c.post "/hackathon/reset" (.obj [])

end Client
end IncidentDigest
