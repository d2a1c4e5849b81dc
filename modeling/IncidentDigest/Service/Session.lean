import IncidentDigest.Duration
import IncidentDigest.Http.Redirect
import IncidentDigest.Instant.Reader
import IncidentDigest.Service.Error
import IncidentDigest.Settings.Reader
import IncidentDigest.Text.Quoted

/-!
A session with the services: the network, what has been sent, and the warnings that have been given.

A call runs in a session and ends in a value or in a failure; what it has sent and the warnings that it has
given stay either way.  What is sent counts once, whether no request can be made of it or its replies lead
from one request to the next.
-/

namespace IncidentDigest

/-- What the user is told without the program giving up. -/
inductive Warning where
  /-- A try has failed, and another one follows after a delay. -/
  | retry (url : String) (attempt attempts : Nat) (cause : ServiceError) (delay : Duration)
  | withoutId (title : Option String)
  | detailsMissing (id title : String) (cause : ServiceError)
  | conversationMissing (id title : String) (cause : ServiceError)
  | timeDropped (id field : String) (cause : TimestampError)
  | localRecords (cause : ServiceError) (path : String)
  | settingsIgnored (cause : Settings.FileFault)
  deriving DecidableEq, Repr

def Warning.message : Warning → String
  | .retry url attempt attempts cause delay =>
    "GET " ++ url ++ " failed (attempt " ++ String.ofList (Numeral.digits attempt) ++ "/" ++
      String.ofList (Numeral.digits attempts) ++ "): " ++ cause.message ++ ". Retrying in " ++
      delay.label ++ "s"
  | .withoutId title => "Skipping scenario without id (" ++ Text.quotedOption title ++ ")"
  | .detailsMissing id title cause =>
    "Failed to fetch meta for " ++ id ++ " (" ++ title ++ "): " ++ cause.message
  | .conversationMissing id title cause =>
    "Failed to fetch slack for " ++ id ++ " (" ++ title ++ "): " ++ cause.message
  | .timeDropped id field cause =>
    "Scenario " ++ id ++ ": " ++ field ++ " dropped: " ++ cause.message
  | .localRecords cause path =>
    "API request failed (" ++ cause.message ++ "). Falling back to local mock file " ++ path
  | .settingsIgnored cause => "Failed to load config: " ++ cause.message

/-- What the program sets out to send: a method, and an address as it was put together. -/
structure Sending where
  method : Http.Method
  url : String
  deriving DecidableEq, Repr

structure Session where
  network : Http.Network
  /-- What has been sent, in order, whatever has come of it. -/
  sent : List Sending
  warnings : List Warning

namespace Session

def ofScript (script : Http.Script) : Session := ⟨.ofScript script, [], []⟩

def warn (s : Session) (w : Warning) : Session := { s with warnings := s.warnings ++ [w] }

def note (s : Session) (x : Sending) : Session := { s with sent := s.sent ++ [x] }

/-- The reply that a request has come to.  Failures bear the address as it was put together. -/
def replyOf (url : String) (timeoutSeconds : Nat) (u : Http.Url) :
    Http.Delivery → Except ServiceError Http.Reply
  | .ended (.reply r) => .ok r
  | .ended .closed => .error (.request url (.interrupted u.shown))
  | .ended .silence => .error (.timeout url timeoutSeconds)
  | .ended .refusal => .error (.connect url)
  | .stranded shown => .error (.request url (.unusable (some shown)))
  | .astray shown => .error (.request url (.astray shown))

/-- Makes a request, follows where its replies lead, and classifies what comes of it. -/
def deliver (s : Session) (url : String) (timeoutSeconds : Nat) (request : Http.Request) :
    Except ServiceError Http.Reply × Session :=
  let (delivery, network) := s.network.deliver request
  (replyOf url timeoutSeconds request.url delivery, { s with network })

end Session

abbrev Call (α : Type) := ExceptT ServiceError (StateM Session) α

namespace Call

variable {α : Type}

def runIn (c : Call α) (s : Session) : Except ServiceError α × Session := c.run.run s

def warn (w : Warning) : Call Unit := fun s => (.ok (), s.warn w)

/-- Sends a request to an address.  Nothing goes out if the address cannot be requested, or if the headers
cannot be used. -/
def send (method : Http.Method) (url : String) (timeoutSeconds : Nat) (isUsable : Bool)
    (request : Http.Url → Http.Request) : Call Http.Reply := fun s =>
  let s := s.note ⟨method, url⟩
  match Http.Address.ofText? url, isUsable with
  | none, _ => (.error (.request url (.unusable none)), s)
  | some _, false => (.error (.request url (.unusable none)), s)
  | some (.web u), true => s.deliver url timeoutSeconds (request u)
  | some (.unfit shown), true => (.error (.request url (.unusable (some shown))), s)
  | some (.other shown), true => (.error (.request url (.unusable (some shown))), s)

/-- Hands the outcome of a call over as a value. -/
def outcome (c : Call α) : Call (Except ServiceError α) := fun s =>
  match c s with
  | (result, s) => (.ok result, s)

end Call
end IncidentDigest
