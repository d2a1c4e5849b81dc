import IncidentDigest.Proofs.Program.Effects
import IncidentDigest.Proofs.Service.Tries
import IncidentDigest.Proofs.Settings.Acceptance
import IncidentDigest.Proofs.Settings.Sources

/-!
# Settings at work

The settings in force are what a client of the scenario service is made from, and what a report
is asked for with.  Its base address has no slash at its end, so each path of the service is
joined to it by the slash that the path begins with.  Where both checks have let the settings
pass, a client tries exactly as often as they say, and a report covers at least one minute.
-/

namespace IncidentDigest

open CommandLine Http

/-! ## 1. Addresses -/

/-- A base address and a path have one slash between them when they are put together. -/
structure MeetInOneSlash (base path : String) : Prop where
  base : base.toList.getLast? ≠ some '/'
  path : ∃ rest, path.toList = '/' :: rest ∧ rest.head? ≠ some '/'

namespace Client

/-- The paths of the scenario service. -/
inductive IsPath : String → Prop where
  | listing : IsPath scenarios
  | scenario (id : String) : IsPath (scenarioPath id)
  | conversation (id : String) : IsPath (scenarioPath id ++ "/slack")
  | records (id : String) : IsPath (scenarioPath id ++ "/datadog")
  | reset : IsPath "/hackathon/reset"

theorem IsPath.begins {path : String} (h : IsPath path) :
    ∃ rest, path.toList = "/hackathon/".toList ++ rest := by
  have hscenarios : scenarios.toList = "/hackathon/".toList ++ "scenarios".toList := by decide
  cases h with
  | listing => exact ⟨_, hscenarios⟩
  | scenario id =>
      refine ⟨"scenarios".toList ++ "/".toList ++ id.toList, ?_⟩
      simp only [scenarioPath, String.toList_append, hscenarios, List.append_assoc]
  | conversation id =>
      refine ⟨"scenarios".toList ++ "/".toList ++ id.toList ++ "/slack".toList, ?_⟩
      simp only [scenarioPath, String.toList_append, hscenarios, List.append_assoc]
  | records id =>
      refine ⟨"scenarios".toList ++ "/".toList ++ id.toList ++ "/datadog".toList, ?_⟩
      simp only [scenarioPath, String.toList_append, hscenarios, List.append_assoc]
  | reset => exact ⟨"reset".toList, by decide⟩

theorem IsPath.meetInOneSlash {base path : String} (h : IsPath path)
    (hbase : base.toList.getLast? ≠ some '/') : MeetInOneSlash base path := by
  obtain ⟨rest, hrest⟩ := h.begins
  refine ⟨hbase, "hackathon/".toList ++ rest, hrest, ?_⟩
  simp

/-! ## 2. Clients -/

/-- A reading request that fails has been tried a number of times: each try has been sent to its
address, as the log of the network shows, and each but the last has been followed by a warning. -/
structure FailsAfter (c : Client) (path : String) (tries : ℕ) (s t : Session) : Prop where
  gets : c.Gets s (List.replicate tries (c.url path)) t
  logs : c.Logs s.network (List.replicate tries (c.url path)) t.network
  warned : ∃ errors : List ServiceError, errors.length + 1 = tries ∧
    t.warnings = s.warnings ++ c.notices (c.url path) 1 errors

theorem failsAfter_attempts {α : Type} {c : Client} (hattempts : 1 ≤ c.attempts) {path : String}
    {shape : Json.Shape α} {s t : Session} {e : ServiceError}
    (h : (c.get path shape).runIn s = (.error e, t)) : c.FailsAfter path c.attempts s t := by
  obtain ⟨errors, hreads⟩ := c.reads_get path shape s
  rw [h] at hreads
  have hlength := hreads.tries_of_error
  rw [max_eq_right hattempts] at hlength
  have hgets := hreads.gets
  rw [hlength] at hgets
  exact ⟨hgets, hgets.logs, errors, hlength, hreads.warned⟩

end Client

/-! ## 3. Reports -/

namespace Program

/-- The records that an analysis reports on. -/
def monitored (s : Settings) (a : AnalyseArguments) : Program (List MonitoringRecord) := do
  let client ← client s
  let records ← call (client.recordsOrLocal (← files) (a.scenario.getD s.analysis.scenarioId)
    (a.mockFile.getD s.analysis.mockFile))
  orFail .storage records

/-- The report that an analysis asks for. -/
def requestOf (s : Settings) (a : AnalyseArguments) (now : Instant) : ReportRequest where
  service := a.service
  metric := a.metric
  environment := s.analysis.environment
  windowMinutes := a.windowMinutes.getD s.analysis.windowMinutes
  stop := now

theorem analyse_eq (s : Settings) (a : AnalyseArguments) (now : Instant) :
    analyse s a now = monitored s a >>= fun records =>
      orFail .window (reportText s a (requestOf s a now) (summarize records)) >>=
        output a.output := by
  simp only [analyse, monitored, bind_assoc]
  rfl

/-! ## 4. Settings in force -/

open Settings (Group FirstOf)

/-- With these settings the service can be asked and a window can be reported on. -/
structure Workable (a : Arguments) (s : Settings) : Prop where
  timeout : 1 ≤ s.api.timeoutSeconds
  attempts : 1 ≤ s.api.attempts
  waits : ∀ c, Client.ofSettings s.api = .ok c → c.timeoutSeconds = s.api.timeoutSeconds
  tries : ∀ c, Client.ofSettings s.api = .ok c → ∀ (α : Type) (path : String)
    (shape : Json.Shape α) (session t : Session) (e : ServiceError),
    (c.get path shape).runIn session = (.error e, t) →
      c.FailsAfter path s.api.attempts session t
  window : ∀ c now, a.command = .analyse c → 1 ≤ (requestOf s c now).windowMinutes

theorem workable_of_checks {a : Arguments} {s : Settings} (harguments : a.check = .ok ())
    (hsettings : s.check = .ok ()) : Workable a s := by
  obtain ⟨htimeout, hattempts, -⟩ := (Settings.check_eq_ok_iff s).mp hsettings
  constructor
  · exact htimeout
  · exact hattempts
  · intro c hc
    exact (Client.of_ofSettings hc).2.1
  · intro c hc α path shape session t e hfails
    have hc := (Client.of_ofSettings hc).2.2
    rw [max_eq_right hattempts] at hc
    rw [← hc] at hattempts ⊢
    exact Client.failsAfter_attempts hattempts hfails
  · intro c now hcommand
    have hwindow := Settings.Choice.one_le_window harguments hsettings
    rw [hcommand] at hwindow
    exact hwindow

/-- **Settings in force.**  For each setting the command line counts first, then the variables,
then the settings file, then the default; this goes for the window of a report as well, and what
is in force stays so when the arguments are taken into account again.  The addresses of the
service are put together from the base address and the paths, with one slash between them.  What
both checks have let pass can be worked with. -/
theorem effective_settings {words : List String} {environment : List (String × String)}
    {content : Option String} {a : Arguments} {loaded s : Settings}
    (hparse : CommandLine.parse words environment = .ok a)
    (hload : Settings.ofContent? content = some loaded) (hs : loaded.withArguments a = s) :
    ∃ given document, CommandLine.parse words [] = .ok given ∧
      Settings.documentOf? content = some document ∧
      s.Effective given environment document ∧
      s.withArguments a = s ∧
      (∀ c, Client.ofSettings s.api = .ok c → ∀ path, c.url path = s.api.baseUrl ++ path ∧
        (Client.IsPath path → MeetInOneSlash s.api.baseUrl path)) ∧
      (∀ c now, a.command = .analyse c →
        FirstOf c.windowMinutes none (Group.analysis.Holds document "window_minutes"
          Settings.asInteger? AnalysisSettings.default.windowMinutes)
          (requestOf s c now).windowMinutes ∧
        analyse s c now = monitored s c >>= fun records =>
          orFail .window (reportText s c (requestOf s c now) (summarize records)) >>=
            output c.output) ∧
      (a.check = .ok () → s.check = .ok () → Workable a s) := by
  obtain ⟨given, hgiven, rfl⟩ := (parse_eq_ok_iff words environment a).mp hparse
  obtain ⟨document, hdocument, hheld⟩ := Settings.heldBy_of_content hload
  have heffective := Settings.effective_withArguments given environment hheld
  rw [hs] at heffective
  obtain ⟨url, -, hslashes⟩ := heffective.baseUrl
  refine ⟨given, document, hgiven, hdocument, heffective, ?_, ?_, ?_, ?_⟩
  · rw [← hs]
    exact Settings.withArguments_withArguments _ _
  · intro c hc path
    constructor
    · rw [Client.url, (Client.of_ofSettings hc).1,
        Settings.withoutTrailingSlashes_eq_self hslashes.last]
    · intro hpath
      exact hpath.meetInOneSlash hslashes.last
  · intro c now hcommand
    refine ⟨?_, analyse_eq s c now⟩
    have hwindow := Settings.firstOf_getD c.windowMinutes none heffective.analysis.window
    rw [Option.or_none] at hwindow
    exact hwindow
  · exact workable_of_checks

/-- An analysis with two tries over a quarter of an hour, at a base address given by a variable. -/
def quarterHour : Arguments where
  baseUrl := some "http://api.local//"
  userAgent := none
  authorization := none
  timeoutSeconds := none
  attempts := some 2
  settingsFile := none
  verbose := false
  quiet := false
  command := .analyse {
    service := "web"
    metric := "latency"
    scenario := none
    windowMinutes := some 15
    mockFile := none
    style := .compact
    format := .json
    explained := false
    output := none }

/-- Settings that differ from the default ones in the name of the user agent and in the window. -/
def probing : Settings :=
  { Settings.default with
    api := { ApiSettings.default with userAgent := "probe" }
    analysis := { AnalysisSettings.default with windowMinutes := 60 } }

theorem effective_settings_quarterHour :
    (probing.withArguments quarterHour).api.baseUrl = "http://api.local" ∧
    (∃ given document,
      CommandLine.parse
        ["--retries", "2", "datadog", "web", "latency", "--window-minutes", "15"] [] = .ok given ∧
      (probing.withArguments quarterHour).Effective given [("HACK_BASE", "http://api.local//")]
        document) ∧
    Workable quarterHour (probing.withArguments quarterHour) := by
  have hparse : CommandLine.parse
      ["--retries", "2", "datadog", "web", "latency", "--window-minutes", "15"]
      [("HACK_BASE", "http://api.local//")] = .ok quarterHour := by decide +kernel
  have hload : Settings.ofContent?
      (some "[api]\nuser_agent = \"probe\"\n[datadog]\nwindow_minutes = 60\n") =
        some probing := by decide +kernel
  obtain ⟨given, document, hgiven, -, heffective, -, -, -, hworkable⟩ :=
    effective_settings hparse hload rfl
  refine ⟨?_, ⟨given, document, hgiven, heffective⟩, ?_⟩
  · decide +kernel
  · exact hworkable (by decide +kernel) (by decide +kernel)

end Program
end IncidentDigest
