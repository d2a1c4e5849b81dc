import IncidentDigest.CommandLine.Grammar
import IncidentDigest.Text.Character

/-!
The command line of the program.

Options that concern every command may stand before or after the command; the later place wins.  An
environment variable counts only where its option is not given at all, and counts also when it is empty.
-/

namespace IncidentDigest.CommandLine

/-! ### What can be asked for -/

inductive ReportStyle where
  | compact
  | analysis
  deriving DecidableEq, Repr

inductive OutputFormat where
  | json
  | text
  deriving DecidableEq, Repr

/-- Summarize a scenario's monitoring records. -/
structure AnalyseArguments where
  service : String
  metric : String
  scenario : Option String
  windowMinutes : Option Int
  mockFile : Option String
  style : ReportStyle
  format : OutputFormat
  explained : Bool
  output : Option String
  deriving DecidableEq, Repr

/-- Download the payload of every scenario. -/
structure FetchArguments where
  output : String
  directory : Option String
  deriving DecidableEq, Repr

/-- Dump the conversations of all scenarios or of one. -/
structure DumpArguments where
  output : Option String
  reset : Bool
  scenario : Option String
  format : OutputFormat
  deriving DecidableEq, Repr

/-- Post a message to a channel. -/
structure PostArguments where
  channel : Option String
  text : String
  token : Option String
  deriving DecidableEq, Repr

inductive Command where
  | analyse (a : AnalyseArguments)
  | fetch (a : FetchArguments)
  | dump (a : DumpArguments)
  | post (a : PostArguments)
  | init
  deriving DecidableEq, Repr

structure Arguments where
  baseUrl : Option String
  userAgent : Option String
  authorization : Option String
  timeoutSeconds : Option Nat
  attempts : Option Nat
  settingsFile : Option String
  verbose : Bool
  quiet : Bool
  command : Command
  deriving DecidableEq, Repr

/-! ### Levels -/

def option (name : String) (kind : Kind) : Parameter := ⟨name, none, kind, none, false⟩

/-- Options that every level has. -/
def standing : List Parameter :=
  [⟨"help", some 'h', .help, none, false⟩, ⟨"version", some 'V', .version, none, false⟩]

/-- Options that concern every command. -/
def common : List Parameter :=
  [⟨"base-url", none, .text, some "HACK_BASE", false⟩,
    ⟨"user-agent", none, .text, some "HACK_UA", false⟩,
    ⟨"auth", none, .text, some "AUTH", false⟩,
    option "timeout" .natural,
    option "retries" .natural,
    ⟨"config", some 'c', .path, none, false⟩,
    ⟨"verbose", some 'v', .flag, none, false⟩,
    ⟨"quiet", some 'q', .flag, none, false⟩]

def place (name : String) : Parameter := ⟨name, none, .text, none, true⟩

def formats : Kind := .choice ["json", "text"]

def analyseOptions : List Parameter :=
  [⟨"scenario", none, .text, some "SCENARIO_ID", false⟩,
    option "window-minutes" .integer,
    option "mock-file" .path,
    option "style" (.choice ["compact", "analysis"]),
    option "format" formats,
    option "include-meta" .flag,
    ⟨"output", some 'o', .path, none, false⟩]

def fetchOptions : List Parameter := [option "out" .path, option "per-file-dir" .path]

def dumpOptions : List Parameter :=
  [option "out" .path, option "reset" .flag, option "scenario" .text, option "format" formats]

def postOptions : List Parameter :=
  [⟨"channel", none, .text, some "SLACK_CHANNEL_ID", false⟩,
    ⟨"text", none, .text, none, true⟩,
    ⟨"token", none, .text, some "SLACK_BOT_TOKEN", false⟩]

/-- The word that asks for help in place of a command. -/
def helpWord : String := "help"

def commands : List (String × List Parameter × List Parameter) :=
  [("datadog", analyseOptions, [place "service", place "metric"]),
    ("fetch-scenarios", fetchOptions, []),
    ("slack-dump", dumpOptions, []),
    ("slack-post", postOptions, []),
    ("init-config", [], [])]

def outerLevel : Level := ⟨common ++ standing, [], commands.map (·.1) ++ [helpWord]⟩

def innerLevel (options places : List Parameter) : Level := ⟨options ++ common ++ standing, places, []⟩

/-! ### Parsing -/

/-- What comes of asking for help on a list of commands. -/
def helpOn : List String → UsageError
  | [] => .helpWanted
  | [name] => if outerLevel.commands.contains name then .helpWanted else .unknownCommand
  | _ => .unknownCommand

structure Values where
  inner : Scan
  outer : Scan
  environment : List (String × String)
  parameters : List Parameter

namespace Values

/-- The value given for a name after the command, before it, or by a variable. -/
def text? (v : Values) (name : String) : Option String :=
  ((v.inner.value? name).or (v.outer.value? name)).or do
    (← v.parameters.find? fun p => p.name == name).standIn? v.environment

def flag (v : Values) (name : String) : Bool := (v.text? name).isSome

def natural? (v : Values) (name : String) : Option Nat := do CommandLine.natural? (← v.text? name)

def integer? (v : Values) (name : String) : Option Int := do CommandLine.integer? (← v.text? name)

def format (v : Values) : OutputFormat := if v.text? "format" = some "text" then .text else .json

def style (v : Values) : ReportStyle := if v.text? "style" = some "analysis" then .analysis else .compact

def command (v : Values) (name : String) : Command :=
  match name with
  | "datadog" => .analyse {
      service := (v.text? "service").getD ""
      metric := (v.text? "metric").getD ""
      scenario := v.text? "scenario"
      windowMinutes := v.integer? "window-minutes"
      mockFile := v.text? "mock-file"
      style := v.style
      format := v.format
      explained := v.flag "include-meta"
      output := v.text? "output" }
  | "fetch-scenarios" => .fetch {
      output := (v.text? "out").getD "scenarios_full.json"
      directory := v.text? "per-file-dir" }
  | "slack-dump" => .dump {
      output := v.text? "out"
      reset := v.flag "reset"
      scenario := v.text? "scenario"
      format := v.format }
  | "slack-post" => .post {
      channel := v.text? "channel"
      text := (v.text? "text").getD ""
      token := v.text? "token" }
  | _ => .init

def arguments (v : Values) (name : String) : Arguments where
  baseUrl := v.text? "base-url"
  userAgent := v.text? "user-agent"
  authorization := v.text? "auth"
  timeoutSeconds := v.natural? "timeout"
  attempts := v.natural? "retries"
  settingsFile := v.text? "config"
  verbose := v.flag "verbose"
  quiet := v.flag "quiet"
  command := v.command name

end Values

/-- Parses a command line.  The words after the command are judged before the last option in front of it. -/
def parse (words : List String) (environment : List (String × String)) : Except UsageError Arguments := do
  let (outer, found) ← outerLevel.scan .start words
  match found with
  | none =>
    let outer ← outer.settle
    if outer.given.isEmpty && common.all (fun p => (p.standIn? environment).isNone) then
      throw .nothingGiven
    else throw .missingCommand
  | some (name, rest) =>
    if name = helpWord then throw (helpOn rest)
    else match commands.find? fun c => c.1 == name with
      | none => throw .unknownCommand
      | some (_, options, places) =>
        let level := innerLevel options places
        let (inner, _) ← level.scan .start rest
        let inner ← inner.settle
        if !level.complete inner then throw .missingArgument
        let outer ← outer.settle
        return Values.arguments ⟨inner, outer, environment, level.options ++ level.places⟩ name

/-! ### Checking -/

namespace Arguments

inductive Fault where
  | verboseAndQuiet
  | baseUrl
  | timeout
  | attempts
  | service
  | window
  | emptyMessage
  deriving DecidableEq, Repr

def Fault.message : Fault → String
  | .verboseAndQuiet => "Cannot use both --verbose and --quiet"
  | .baseUrl => "Base URL must start with 'http://' or 'https://'"
  | .timeout => "Timeout must be at least 1 second"
  | .attempts => "Retries must be at least 1"
  | .service => "Service name must not be empty"
  | .window => "Window must be at least 1 minute"
  | .emptyMessage => "Message text must not be empty"

def isEmptyText (s : String) : Bool := (Text.trim s.toList).isEmpty

/-- Whether a base address names one of the two protocols. -/
def hasProtocol (url : String) : Bool :=
  "http://".toList.isPrefixOf url.toList || "https://".toList.isPrefixOf url.toList

def checkCommand : Command → Except Fault Unit
  | .analyse a =>
    if isEmptyText a.service then .error .service
    else if a.windowMinutes.any (· ≤ 0) then .error .window
    else .ok ()
  | .post a => if isEmptyText a.text then .error .emptyMessage else .ok ()
  | _ => .ok ()

def check (a : Arguments) : Except Fault Unit :=
  if a.verbose && a.quiet then .error .verboseAndQuiet
  else if a.baseUrl.any (fun url => !hasProtocol url) then .error .baseUrl
  else if a.timeoutSeconds = some 0 then .error .timeout
  else if a.attempts = some 0 then .error .attempts
  else checkCommand a.command

inductive LogLevel where
  | error
  | info
  | debug
  deriving DecidableEq, Repr

def logLevel (a : Arguments) : LogLevel :=
  if a.quiet then .error else if a.verbose then .debug else .info

end Arguments
end IncidentDigest.CommandLine
