import IncidentDigest.Export
import IncidentDigest.Service.Client

/-!
Why a command fails.

A failure has a message and, where there is more to say, causes behind it.  Only failures of a service end
the program with exit code 2.
-/

namespace IncidentDigest

inductive Failure where
  | service (e : ServiceError)
  | storage (e : StorageError)
  | client (f : Client.Fault)
  | settingsFile (f : Settings.FileFault)
  | settings (f : Settings.Fault)
  | window (e : TimestampError)
  /-- No scenario is listed, or not the one that is wanted. -/
  | noScenario (wanted : Option String)
  | noToken
  | noChannel
  /-- The settings file that should be made is there already. -/
  | settingsFileExists
  | settingsFileNotWritten (cause : FileError)
  deriving DecidableEq, Repr

namespace Failure

def message : Failure → String
  | .service e => e.message
  | .storage e => e.message
  | .client f => f.message
  | .settingsFile f => f.message
  | .settings f => f.message
  | .window e => e.message
  | .noScenario (some id) => "No scenario found with ID: " ++ id
  | .noScenario none => "No scenarios found."
  | .noToken => "No Slack bot token: set SLACK_BOT_TOKEN or [slack].bot_token"
  | .noChannel => "No Slack channel: pass --channel or set [slack].channel_id"
  | .settingsFileExists =>
    Settings.fileName ++ " already exists. Remove it first or edit it manually."
  | .settingsFileNotWritten _ => "Failed to write " ++ Settings.fileName

def causes : Failure → List String
  | .service (.request _ fault) => [fault.message]
  | .storage e => e.cause?.toList
  | .client f => [f.cause]
  | .settingsFile f => [f.cause]
  | .settingsFileNotWritten e => [e.message]
  | _ => []

def text (f : Failure) : String := ": ".intercalate (f.message :: f.causes)

def exitCode : Failure → Nat
  | .service _ => 2
  | _ => 1

end Failure
end IncidentDigest
