import IncidentDigest.Toml.Writer

/-!
The settings of the program.

Every setting has a default.  Some values can be read but not worked with; `Settings.check` refuses them.
-/

namespace IncidentDigest

/-- How the scenario service is reached. -/
structure ApiSettings where
  baseUrl : String
  userAgent : String
  authorization : Option String
  timeoutSeconds : Nat
  attempts : Nat
  /-- The waiting time after the first failed try, in seconds. -/
  backoffSeconds : Binary64.Extended
  deriving DecidableEq, Repr

structure AnalysisSettings where
  scenarioId : String
  environment : String
  windowMinutes : Int
  mockFile : String
  deriving DecidableEq, Repr

structure ChatSettings where
  url : String
  token : Option String
  channel : Option String
  deriving DecidableEq, Repr

structure OutputSettings where
  indented : Bool
  deriving DecidableEq, Repr

structure Settings where
  api : ApiSettings
  analysis : AnalysisSettings
  chat : ChatSettings
  output : OutputSettings
  deriving DecidableEq, Repr

/-- The default waiting time, four fifths of a second. -/
def ApiSettings.defaultBackoff : Binary64.Extended := .ofDecimal false ⟨8, -1⟩

def ApiSettings.default : ApiSettings where
  baseUrl := "https://sre-api-service-ext.bestegg.com"
  userAgent := "Hackathon 8.2025"
  authorization := none
  timeoutSeconds := 20
  attempts := 3
  backoffSeconds := defaultBackoff

def AnalysisSettings.default : AnalysisSettings where
  scenarioId := "22222222-2222-2222-2222-222222222222"
  environment := "prod"
  windowMinutes := 30
  mockFile := "mock_datadog.json"

def ChatSettings.default : ChatSettings where
  url := "https://slack.com/api/chat.postMessage"
  token := none
  channel := none

def OutputSettings.default : OutputSettings where
  indented := true

namespace Settings

def default : Settings := ⟨.default, .default, .default, .default⟩

inductive Fault where
  | timeout
  | attempts
  | window (minutes : Int)
  deriving DecidableEq, Repr

def Fault.message : Fault → String
  | .timeout => "[api].timeout_seconds must be at least 1"
  | .attempts => "[api].retries must be at least 1"
  | .window minutes =>
    "[datadog].window_minutes must be at least 1, got " ++ String.ofList (Numeral.signed minutes)

/-- Refuses settings that no request and no report can work with. -/
def check (s : Settings) : Except Fault Unit :=
  if s.api.timeoutSeconds = 0 then .error .timeout
  else if s.api.attempts = 0 then .error .attempts
  else if s.analysis.windowMinutes < 1 then .error (.window s.analysis.windowMinutes)
  else .ok ()

/-- A text without the slashes at its end. -/
def withoutTrailingSlashes (s : String) : String :=
  String.ofList (s.toList.reverse.dropWhile (· = '/')).reverse

/-- An assignment that is left out where there is no value. -/
def optionalMember (key : String) : Option String → Toml.Members
  | some s => [(key, .text s)]
  | none => []

def toSections (s : Settings) : List (String × Toml.Members) :=
  [("api",
      [("base_url", .text s.api.baseUrl), ("user_agent", .text s.api.userAgent)] ++
        optionalMember "auth" s.api.authorization ++
        [("timeout_seconds", .integer s.api.timeoutSeconds), ("retries", .integer s.api.attempts),
          ("backoff_seconds", .float s.api.backoffSeconds)]),
    ("datadog",
      [("scenario_id", .text s.analysis.scenarioId), ("env", .text s.analysis.environment),
        ("window_minutes", .integer s.analysis.windowMinutes),
        ("mock_file", .text s.analysis.mockFile)]),
    ("slack",
      [("api_url", .text s.chat.url)] ++ optionalMember "bot_token" s.chat.token ++
        optionalMember "channel_id" s.chat.channel),
    ("output", [("pretty", .flag s.output.indented)])]

def render (s : Settings) : String := Toml.renderSections s.toSections

end Settings
end IncidentDigest
