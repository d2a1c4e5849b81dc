import IncidentDigest.Program.Failure
import IncidentDigest.Report.Analysis
import IncidentDigest.Service.Chat
import IncidentDigest.Service.Collect
import IncidentDigest.Settings.Reader

/-!
The commands of the program.

A command works on a `World`: the session with the services, the files, and what has been printed.  It ends
in success or in a failure; what it has done to the world stays either way.
-/

namespace IncidentDigest

structure World where
  session : Session
  files : FileTree
  printed : String

namespace World

def start (script : Http.Script) (files : FileTree) : World := ⟨.ofScript script, files, ""⟩

end World

/-- A computation on the world that may fail. -/
abbrev Program (α : Type) := ExceptT Failure (StateM World) α

namespace Program

variable {α : Type}

def call (c : Call α) : Program α := fun w =>
  match c.runIn w.session with
  | (result, session) => (result.mapError .service, { w with session })

def warn (warning : Warning) : Program Unit := fun w =>
  (.ok (), { w with session := w.session.warn warning })

def store (action : FileTree → FileTree × Except StorageError α) : Program α := fun w =>
  match action w.files with
  | (files, result) => (result.mapError .storage, { w with files })

/-- Prints a text and ends the line. -/
def print (s : String) : Program Unit := fun w => (.ok (), { w with printed := w.printed ++ s ++ "\n" })

def files : Program FileTree := fun w => (.ok w.files, w)

def orFail {ε : Type} (failure : ε → Failure) (result : Except ε α) : Program α :=
  match result with
  | .ok v => pure v
  | .error e => throw (failure e)

def orElseFail (failure : Failure) (value : Option α) : Program α :=
  match value with
  | some v => pure v
  | none => throw failure

/-- Writes an output file, or prints where none is named. -/
def output (path : Option String) (content : String) : Program Unit :=
  match path with
  | some path => store fun files => files.writeOutput path content
  | none => print content

def client (s : Settings) : Program Client := orFail .client (Client.ofSettings s.api)

/-! ### Settings -/

/-- The settings of a named file, or of the default file if it is there.  A default file that cannot be read
is passed over with a warning. -/
def loadSettings (path : Option String) : Program Settings := do
  let files ← files
  match path with
  | some path => orFail .settingsFile (Settings.load files path)
  | none =>
    match Settings.loadDefault files with
    | .ok s => return s.getD .default
    | .error f =>
      warn (.settingsIgnored f)
      return .default

/-- Makes a settings file with the default settings. -/
def init : Program Unit := fun w =>
  if w.files.pathExists Settings.fileName then (.error .settingsFileExists, w)
  else match w.files.write Settings.fileName Settings.default.render with
    | .error e => (.error (.settingsFileNotWritten e), w)
    | .ok files =>
      (print ("✅ Created " ++ Settings.fileName ++ " with default settings.\n" ++
        "   Edit it to customize the API endpoint, scenario, and Slack settings.")) { w with files }

/-! ### Commands -/

open CommandLine

/-- The report that is asked for, as text. -/
def reportText (s : Settings) (a : AnalyseArguments) (request : ReportRequest) (summary : FacetSummary) :
    Except TimestampError String :=
  match a.format, a.style with
  | .text, _ => (AnalysisReport.build request summary).map AnalysisReport.renderText
  | .json, .compact =>
    (CompactReport.build request summary a.explained).map fun r => r.toJson.render s.output.indented
  | .json, .analysis =>
    (AnalysisReport.build request summary).map fun r => r.toJson.render s.output.indented

def analyse (s : Settings) (a : AnalyseArguments) (now : Instant) : Program Unit := do
  let client ← client s
  let records ← call (client.recordsOrLocal (← files) (a.scenario.getD s.analysis.scenarioId)
    (a.mockFile.getD s.analysis.mockFile))
  let records ← orFail .storage records
  let request : ReportRequest := {
    service := a.service
    metric := a.metric
    environment := s.analysis.environment
    windowMinutes := a.windowMinutes.getD s.analysis.windowMinutes
    stop := now }
  output a.output (← orFail .window (reportText s a request (summarize records)))

def fetch (s : Settings) (a : FetchArguments) : Program Unit := do
  let client ← client s
  let payloads ← call client.fetchAll
  if let some directory := a.directory then
    let _ ← store fun files => files.writeScenarios directory payloads s.output.indented
  output (some a.output) ((Json.arr (payloads.map (·.body))).render s.output.indented)

def dump (s : Settings) (a : DumpArguments) : Program Unit := do
  let client ← client s
  if a.reset then
    let _ ← call client.reset
  let dumps ← call (client.dump a.scenario)
  if dumps.isEmpty then throw (.noScenario (Client.wanted? a.scenario))
  output a.output (match a.format with
    | .json => (Json.arr (dumps.map ScenarioDump.toJson)).render s.output.indented
    | .text => ScenarioDump.renderText dumps)

def post (s : Settings) (a : PostArguments) : Program Unit := do
  let token ← orElseFail .noToken (a.token.or s.chat.token)
  let channel ← orElseFail .noChannel (a.channel.or s.chat.channel)
  let client : ChatClient := ⟨s.chat.url, token, s.api.timeoutSeconds⟩
  let _ ← call (client.post channel a.text)

def settings (a : Arguments) : Program Settings := do
  let s := (← loadSettings a.settingsFile).withArguments a
  orFail .settings s.check
  return s

/-- Carries out a command under the settings in force. -/
def run (a : Arguments) (now : Instant) : Program Unit := do
  let s ← settings a
  match a.command with
  | .analyse c => analyse s c now
  | .fetch c => fetch s c
  | .dump c => dump s c
  | .post c => post s c
  | .init => init

end Program

/-! ### The whole program -/

inductive Ending where
  | success
  /-- The command line was not understood, or asked for help or for the version. -/
  | usage (e : CommandLine.UsageError)
  | refused (f : CommandLine.Arguments.Fault)
  | failed (f : Failure)
  deriving DecidableEq, Repr

namespace Ending

def exitCode : Ending → Nat
  | .success => 0
  | .usage .helpWanted => 0
  | .usage .versionWanted => 0
  | .usage _ => 2
  | .refused _ => 1
  | .failed f => f.exitCode

/-- The line that says why the program has not succeeded. -/
def closing : Ending → Option String
  | .success => none
  | .usage _ => none
  | .refused f => some ("Error: " ++ f.message)
  | .failed .settingsFileExists => some ("⚠️  " ++ Failure.settingsFileExists.message)
  | .failed f => some ("❌ Error: " ++ f.text)

/-- Whether an empty line sets the closing line apart from what has been reported before. -/
def isSetApart : Ending → Bool
  | .failed .settingsFileExists => false
  | .failed _ => true
  | _ => false

end Ending

/-- Runs the program on a command line.  A settings file is made before any settings are read. -/
def Program.execute (words : List String) (environment : List (String × String)) (now : Instant)
    (w : World) : Ending × World :=
  match CommandLine.parse words environment with
  | .error e => (.usage e, w)
  | .ok a =>
    match a.check with
    | .error f => (.refused f, w)
    | .ok () =>
      let action := if a.command = .init then Program.init else Program.run a now
      match action w with
      | (.ok (), w) => (.success, w)
      | (.error f, w) => (.failed f, w)

end IncidentDigest
