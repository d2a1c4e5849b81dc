import IncidentDigest.CommandLine.Arguments
import IncidentDigest.FileTree
import IncidentDigest.Settings.Basic
import IncidentDigest.Toml.Reader

/-!
Reading settings from a file, and the settings that are in force.

The file has a section for each group of settings.  A section is a table, or a list of its settings in
order; a date or a time stands for a section without any settings.  Settings that are left out keep their
defaults, and unknown ones are passed over.
-/

namespace IncidentDigest.Settings

/-! ### Single settings -/

def asText? : Toml.Value → Option String
  | .text s => some s
  | _ => none

def asFlag? : Toml.Value → Option Bool
  | .flag b => some b
  | _ => none

def asInteger? : Toml.Value → Option Int
  | .integer n => some n
  | _ => none

/-- A whole number that is not negative. -/
def asNatural? : Toml.Value → Option Nat
  | .integer n => if n < 0 then none else some n.toNat
  | _ => none

/-- A floating-point number; a whole number stands for the nearest one. -/
def asFloat? : Toml.Value → Option Binary64.Extended
  | .float x => some x
  | .integer n => (Binary64.ofInt? n).map .finite
  | _ => none

/-- A setting with a default. -/
def setting {α : Type} (default : α) (read? : Toml.Value → Option α) : Option Toml.Value → Option α
  | some v => read? v
  | none => some default

/-- The values of the settings of a section, in order. -/
def slots? (names : List String) : Toml.Value → Option (List (Option Toml.Value))
  | .table members => some (names.map fun name => Toml.member? name members)
  | .list items => some ((List.range names.length).map fun i => items[i]?)
  | .moment _ => some (names.map fun _ => none)
  | _ => none

/-! ### Sections -/

def readApi? (v : Toml.Value) : Option ApiSettings := do
  let d := ApiSettings.default
  match ← slots? ["base_url", "user_agent", "auth", "timeout_seconds", "retries", "backoff_seconds"] v with
  | [baseUrl, userAgent, authorization, timeout, attempts, backoff] =>
    return {
      baseUrl := ← setting d.baseUrl asText? baseUrl
      userAgent := ← setting d.userAgent asText? userAgent
      authorization := ← setting none (fun v => (asText? v).map some) authorization
      timeoutSeconds := ← setting d.timeoutSeconds asNatural? timeout
      attempts := ← setting d.attempts asNatural? attempts
      backoffSeconds := ← setting d.backoffSeconds asFloat? backoff }
  | _ => none

def readAnalysis? (v : Toml.Value) : Option AnalysisSettings := do
  let d := AnalysisSettings.default
  match ← slots? ["scenario_id", "env", "window_minutes", "mock_file"] v with
  | [scenarioId, environment, windowMinutes, mockFile] =>
    return {
      scenarioId := ← setting d.scenarioId asText? scenarioId
      environment := ← setting d.environment asText? environment
      windowMinutes := ← setting d.windowMinutes asInteger? windowMinutes
      mockFile := ← setting d.mockFile asText? mockFile }
  | _ => none

def readChat? (v : Toml.Value) : Option ChatSettings := do
  match ← slots? ["api_url", "bot_token", "channel_id"] v with
  | [url, token, channel] =>
    return {
      url := ← setting ChatSettings.default.url asText? url
      token := ← setting none (fun v => (asText? v).map some) token
      channel := ← setting none (fun v => (asText? v).map some) channel }
  | _ => none

def readOutput? (v : Toml.Value) : Option OutputSettings := do
  match ← slots? ["pretty"] v with
  | [indented] => return { indented := ← setting OutputSettings.default.indented asFlag? indented }
  | _ => none

def read? (text : String) : Option Settings := do
  let members ← Toml.read? text
  let part {α : Type} (name : String) (default : α) (read? : Toml.Value → Option α) : Option α :=
    setting default read? (Toml.member? name members)
  return {
    api := ← part "api" .default readApi?
    analysis := ← part "datadog" .default readAnalysis?
    chat := ← part "slack" .default readChat?
    output := ← part "output" .default readOutput? }

/-! ### Files -/

inductive FileFault where
  | unreadable (path : String) (cause : FileError)
  | malformed (path : String)
  deriving DecidableEq, Repr

namespace FileFault

def message : FileFault → String
  | .unreadable path _ => "Failed to read config file: " ++ path
  | .malformed path => "Failed to parse config file: " ++ path

def cause : FileFault → String
  | .unreadable _ cause => cause.message
  | .malformed _ => "the text does not hold settings"

end FileFault

def fileName : String := ".incident-rca.toml"

/-- Where the settings file is looked for when none is named. -/
def defaultPath : String := FilePath.append "." fileName

def load (files : FileTree) (path : String) : Except FileFault Settings :=
  match files.read path with
  | .error e => .error (.unreadable path e)
  | .ok text =>
    match read? text with
    | some s => .ok s
    | none => .error (.malformed path)

/-- The settings in the default file, if it is there. -/
def loadDefault (files : FileTree) : Except FileFault (Option Settings) :=
  if files.pathExists defaultPath then (load files defaultPath).map some else .ok none

/-! ### Settings in force -/

/-- The settings under the given arguments.  What is given on the command line or by a variable overrides
what the settings say.  Slashes at the end of the base address are dropped, as every path that is put
behind it starts with one. -/
def withArguments (s : Settings) (a : CommandLine.Arguments) : Settings :=
  { s with api := { s.api with
      baseUrl := withoutTrailingSlashes (a.baseUrl.getD s.api.baseUrl)
      userAgent := a.userAgent.getD s.api.userAgent
      authorization := a.authorization.or s.api.authorization
      timeoutSeconds := a.timeoutSeconds.getD s.api.timeoutSeconds
      attempts := a.attempts.getD s.api.attempts } }

end IncidentDigest.Settings
