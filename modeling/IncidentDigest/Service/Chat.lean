import IncidentDigest.Service.Client

/-!
Posting messages to the chat service.

A message is posted once.  The service answers every request with status 200 and says in the body
whether it has taken the message.
-/

namespace IncidentDigest

structure ChatClient where
  url : String
  token : String
  timeoutSeconds : Nat
  deriving DecidableEq, Repr

structure ChatAnswer where
  accepted : Bool
  error : Option String
  /-- The name that the message has got. -/
  timestamp : Option String
  deriving DecidableEq, Repr

open Json.Shape in
def ChatAnswer.shape : Json.Shape ChatAnswer := record ["ok", "error", "ts"] fun room slots =>
  match slots with
  | [accepted, error, timestamp] => do
    return ⟨← defaulted false flag room accepted, ← defaulted none (nullable text) room error,
      ← defaulted none (nullable text) room timestamp⟩
  | _ => none

namespace ChatClient

def message (channel text : String) : Json := .obj [("channel", .str channel), ("text", .str text)]

def authorization (c : ChatClient) : String := "Bearer " ++ c.token

/-- The request that posts a message.  A name and a password in the address come before the token. -/
def request (c : ChatClient) (channel text : String) (address : Http.Url) : Http.Request where
  method := .post
  url := address
  userAgent := none
  accept := "*/*"
  authorization := (address.credentials.map Http.Credentials.authorization).toList ++ [c.authorization]
  contentType := some Http.MediaType.json
  referer := none
  body := (message channel text).compact

/-- Posts a message.  The result is the message's timestamp, if the service gives one. -/
def post (c : ChatClient) (channel text : String) : Call (Option String) := do
  let reply ← Call.send .post c.url c.timeoutSeconds (Http.isHeaderText c.token) (c.request channel text)
  if reply.status ≠ 200 then throw (.status c.url reply.status reply.text)
  match Client.decode ChatAnswer.shape reply with
  | none => throw (.decode c.url)
  | some answer =>
    if answer.accepted then return answer.timestamp
    else throw (.refused (answer.error.getD "unknown_error"))

end ChatClient
end IncidentDigest
