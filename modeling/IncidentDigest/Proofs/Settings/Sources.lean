import IncidentDigest.Proofs.CommandLine.Variables
import IncidentDigest.Settings.Reader
import Mathlib

/-!
# Where settings come from

A setting has up to four sources: an option, a variable, the settings file, and a default.  The
first of them that gives a value decides.  A settings file gives values by section: a section that
is a table gives them by name, one that is a list gives them by position.  A missing file gives as
much as an empty one.
-/

namespace IncidentDigest

namespace Settings

variable {α : Type}

/-! ## 1. Values in a settings file -/

/-- The sections of a settings file. -/
inductive Group where
  | api
  | analysis
  | chat
  | output

namespace Group

def header : Group → String
  | .api => "api"
  | .analysis => "datadog"
  | .chat => "slack"
  | .output => "output"

/-- The names of the settings of a section, in order. -/
def names : Group → List String
  | .api => ["base_url", "user_agent", "auth", "timeout_seconds", "retries", "backoff_seconds"]
  | .analysis => ["scenario_id", "env", "window_minutes", "mock_file"]
  | .chat => ["api_url", "bot_token", "channel_id"]
  | .output => ["pretty"]

/-- What a section gives for a name. -/
def within (g : Group) (name : String) : Toml.Value → Option Toml.Value
  | .table members => Toml.member? name members
  | .list items => items[g.names.idxOf name]?
  | _ => none

/-- What a document gives for a name of a section. -/
def value? (g : Group) (document : Toml.Members) (name : String) : Option Toml.Value :=
  (Toml.member? g.header document).bind (g.within name)

theorem names_nodup (g : Group) : g.names.Nodup := by
  cases g <;> decide

/-- The values of a section in order are those of its names. -/
theorem slots?_names (g : Group) {v : Toml.Value} {slots : List (Option Toml.Value)}
    (h : slots? g.names v = some slots) : slots = g.names.map (g.within · v) := by
  cases v with
  | table members => exact (Option.some.inj h).symm
  | moment written => exact (Option.some.inj h).symm
  | list items =>
      obtain rfl := Option.some.inj h
      apply List.ext_getElem
      · simp
      · intro i hi hi'
        have hbound : i < g.names.length := by simpa using hi'
        have hplace : g.names.idxOf g.names[i] = i := g.names_nodup.idxOf_getElem i hbound
        simp [within, hplace]
  | text s => cases h
  | integer n => cases h
  | float x => cases h
  | flag b => cases h

variable {document : Toml.Members}

/-- **A section is read setting by setting**, also one that is missing, since what is read from
nothing are the defaults. -/
theorem read_values (g : Group) {read? : List (Option Toml.Value) → Option α} {default s : α}
    (h : setting default (fun v => slots? g.names v >>= read?) (Toml.member? g.header document) =
      some s) (hdefault : read? (g.names.map fun _ => none) = some default) :
    read? (g.names.map (g.value? document)) = some s := by
  unfold value?
  cases hsection : Toml.member? g.header document with
  | none =>
      rw [hsection] at h
      obtain rfl := Option.some.inj h
      exact hdefault
  | some v =>
      rw [hsection] at h
      obtain ⟨slots, hslots, hread⟩ := Option.bind_eq_some_iff.mp h
      obtain rfl := g.slots?_names hslots
      exact hread

/-- A setting has the value that the document gives for it, which can be read then, or else its
default. -/
def Holds (g : Group) (document : Toml.Members) (name : String) (read? : Toml.Value → Option α)
    (default x : α) : Prop :=
  setting default read? (g.value? document name) = some x

end Group
end Settings

/-! ## 2. Settings in a settings file -/

open Settings CommandLine

/-- The document holds these settings for the scenario service. -/
structure ApiSettings.HeldBy (document : Toml.Members) (s : ApiSettings) : Prop where
  baseUrl : Group.api.Holds document "base_url" asText? default.baseUrl s.baseUrl
  userAgent : Group.api.Holds document "user_agent" asText? default.userAgent s.userAgent
  authorization : Group.api.Holds document "auth" (fun v => (asText? v).map some) none
    s.authorization
  timeout : Group.api.Holds document "timeout_seconds" asNatural? default.timeoutSeconds
    s.timeoutSeconds
  attempts : Group.api.Holds document "retries" asNatural? default.attempts s.attempts
  backoff : Group.api.Holds document "backoff_seconds" asFloat? default.backoffSeconds
    s.backoffSeconds

structure AnalysisSettings.HeldBy (document : Toml.Members) (s : AnalysisSettings) : Prop where
  scenarioId : Group.analysis.Holds document "scenario_id" asText? default.scenarioId s.scenarioId
  environment : Group.analysis.Holds document "env" asText? default.environment s.environment
  window : Group.analysis.Holds document "window_minutes" asInteger? default.windowMinutes
    s.windowMinutes
  mockFile : Group.analysis.Holds document "mock_file" asText? default.mockFile s.mockFile

structure ChatSettings.HeldBy (document : Toml.Members) (s : ChatSettings) : Prop where
  url : Group.chat.Holds document "api_url" asText? default.url s.url
  token : Group.chat.Holds document "bot_token" (fun v => (asText? v).map some) none s.token
  channel : Group.chat.Holds document "channel_id" (fun v => (asText? v).map some) none s.channel

structure OutputSettings.HeldBy (document : Toml.Members) (s : OutputSettings) : Prop where
  indented : Group.output.Holds document "pretty" asFlag? default.indented s.indented

structure Settings.HeldBy (document : Toml.Members) (s : Settings) : Prop where
  api : s.api.HeldBy document
  analysis : s.analysis.HeldBy document
  chat : s.chat.HeldBy document
  output : s.output.HeldBy document

namespace Settings

variable {document : Toml.Members}

theorem heldBy_readApi {s : ApiSettings}
    (h : setting .default readApi? (Toml.member? Group.api.header document) = some s) :
    s.HeldBy document := by
  have hvalues := Group.api.read_values h rfl
  simp only [Group.names, List.map_cons, List.map_nil, Option.bind_eq_bind,
    Option.bind_eq_some_iff] at hvalues
  obtain ⟨baseUrl, hbaseUrl, userAgent, huserAgent, authorization, hauthorization,
    timeout, htimeout, attempts, hattempts, backoff, hbackoff, hs⟩ := hvalues
  obtain rfl := Option.some.inj hs
  exact ⟨hbaseUrl, huserAgent, hauthorization, htimeout, hattempts, hbackoff⟩

theorem heldBy_readAnalysis {s : AnalysisSettings}
    (h : setting .default readAnalysis? (Toml.member? Group.analysis.header document) = some s) :
    s.HeldBy document := by
  have hvalues := Group.analysis.read_values h rfl
  simp only [Group.names, List.map_cons, List.map_nil, Option.bind_eq_bind,
    Option.bind_eq_some_iff] at hvalues
  obtain ⟨scenarioId, hscenarioId, environment, henvironment, window, hwindow,
    mockFile, hmockFile, hs⟩ := hvalues
  obtain rfl := Option.some.inj hs
  exact ⟨hscenarioId, henvironment, hwindow, hmockFile⟩

theorem heldBy_readChat {s : ChatSettings}
    (h : setting .default readChat? (Toml.member? Group.chat.header document) = some s) :
    s.HeldBy document := by
  have hvalues := Group.chat.read_values h rfl
  simp only [Group.names, List.map_cons, List.map_nil, Option.bind_eq_bind,
    Option.bind_eq_some_iff] at hvalues
  obtain ⟨url, hurl, token, htoken, channel, hchannel, hs⟩ := hvalues
  obtain rfl := Option.some.inj hs
  exact ⟨hurl, htoken, hchannel⟩

theorem heldBy_readOutput {s : OutputSettings}
    (h : setting .default readOutput? (Toml.member? Group.output.header document) = some s) :
    s.HeldBy document := by
  have hvalues := Group.output.read_values h rfl
  simp only [Group.names, List.map_cons, List.map_nil, Option.bind_eq_bind,
    Option.bind_eq_some_iff] at hvalues
  obtain ⟨indented, hindented, hs⟩ := hvalues
  obtain rfl := Option.some.inj hs
  exact ⟨hindented⟩

/-- **Settings that can be read are those of the document.** -/
theorem heldBy_of_read {text : String} {s : Settings} (h : read? text = some s) :
    ∃ document, Toml.read? text = some document ∧ s.HeldBy document := by
  unfold read? at h
  simp only [Option.bind_eq_bind, Option.bind_eq_some_iff] at h
  obtain ⟨document, hdocument, api, hapi, analysis, hanalysis, chat, hchat, output, houtput,
    hs⟩ := h
  obtain rfl := Option.some.inj hs
  refine ⟨document, hdocument, ?_⟩
  constructor
  · exact heldBy_readApi hapi
  · exact heldBy_readAnalysis hanalysis
  · exact heldBy_readChat hchat
  · exact heldBy_readOutput houtput

/-- Without a document, every setting has its default. -/
theorem heldBy_default : default.HeldBy [] := by
  refine ⟨?_, ?_, ?_, ?_⟩ <;> constructor <;> rfl

/-- What a settings file holds, as a document.  A missing file holds as much as an empty one. -/
def documentOf? : Option String → Option Toml.Members
  | some text => Toml.read? text
  | none => some []

/-- The settings of a file that can be read, or of a missing one. -/
def ofContent? : Option String → Option Settings
  | some text => read? text
  | none => some .default

theorem heldBy_of_content {content : Option String} {s : Settings}
    (h : ofContent? content = some s) :
    ∃ document, documentOf? content = some document ∧ s.HeldBy document := by
  cases content with
  | some text => exact heldBy_of_read h
  | none =>
      obtain rfl := Option.some.inj h
      exact ⟨[], rfl, heldBy_default⟩

/-! ## 3. Slashes at the end -/

/-- A text and what is left of it without the slashes at its end. -/
structure Unslashed (s t : String) : Prop where
  dropped : ∃ n, s.toList = t.toList ++ List.replicate n '/'
  last : t.toList.getLast? ≠ some '/'

theorem unslashed (s : String) : Unslashed s (withoutTrailingSlashes s) := by
  have hrest : (withoutTrailingSlashes s).toList = s.toList.rdropWhile (· = '/') :=
    String.toList_ofList
  constructor
  · have hslashes : s.toList.rtakeWhile (· = '/') =
        List.replicate (s.toList.rtakeWhile (· = '/')).length '/' := by
      apply List.eq_replicate_of_mem
      intro c hc
      simpa using List.mem_rtakeWhile_imp hc
    refine ⟨(s.toList.rtakeWhile (· = '/')).length, ?_⟩
    rw [hrest, ← hslashes]
    exact (List.rdropWhile_append_rtakeWhile ..).symm
  · rw [hrest]
    intro hlast
    obtain ⟨hne, hslash⟩ := List.mem_getLast?_eq_getLast hlast
    simpa [← hslash] using List.rdropWhile_last_not (· = '/') s.toList hne

theorem withoutTrailingSlashes_eq_self {s : String} (h : s.toList.getLast? ≠ some '/') :
    withoutTrailingSlashes s = s := by
  have hself : s.toList.rdropWhile (· = '/') = s.toList := by
    rw [List.rdropWhile_eq_self_iff]
    intro hne hslash
    apply h
    rw [List.getLast?_eq_some_getLast hne]
    simpa using hslash
  calc withoutTrailingSlashes s = String.ofList (s.toList.rdropWhile (· = '/')) := rfl
    _ = String.ofList s.toList := by rw [hself]
    _ = s := String.ofList_toList

/-! ## 4. Settings in force -/

/-- The first that gives a value: an option, a variable, or what is held besides. -/
inductive FirstOf (flag var : Option α) (held : α → Prop) : α → Prop where
  | flag {x : α} (h : flag = some x) : FirstOf flag var held x
  | var {x : α} (hflag : flag = none) (h : var = some x) : FirstOf flag var held x
  | held {x : α} (hflag : flag = none) (hvar : var = none) (h : held x) : FirstOf flag var held x

theorem firstOf_getD (flag var : Option α) {held : α → Prop} {x : α} (h : held x) :
    FirstOf flag var held ((flag.or var).getD x) := by
  cases hflag : flag with
  | some y => exact .flag rfl
  | none =>
      cases hvar : var with
      | some y => exact .var rfl rfl
      | none => exact .held rfl rfl h

/-- The settings in force, value by value, given what the command line says by itself, the
variables, and the document of the settings file. -/
structure Effective (given : Arguments) (environment : List (String × String))
    (document : Toml.Members) (s : Settings) : Prop where
  baseUrl : ∃ url, FirstOf given.baseUrl (valueOf? environment "HACK_BASE")
    (Group.api.Holds document "base_url" asText? ApiSettings.default.baseUrl) url ∧
    Unslashed url s.api.baseUrl
  userAgent : FirstOf given.userAgent (valueOf? environment "HACK_UA")
    (Group.api.Holds document "user_agent" asText? ApiSettings.default.userAgent) s.api.userAgent
  authorization : FirstOf (given.authorization.map some) ((valueOf? environment "AUTH").map some)
    (Group.api.Holds document "auth" (fun v => (asText? v).map some) none) s.api.authorization
  timeout : FirstOf given.timeoutSeconds none
    (Group.api.Holds document "timeout_seconds" asNatural? ApiSettings.default.timeoutSeconds)
    s.api.timeoutSeconds
  attempts : FirstOf given.attempts none
    (Group.api.Holds document "retries" asNatural? ApiSettings.default.attempts) s.api.attempts
  backoff : Group.api.Holds document "backoff_seconds" asFloat? ApiSettings.default.backoffSeconds
    s.api.backoffSeconds
  analysis : s.analysis.HeldBy document
  chat : s.chat.HeldBy document
  output : s.output.HeldBy document

/-- **What counts first**: an option, a variable, the settings file, the default. -/
theorem effective_withArguments (given : Arguments) (environment : List (String × String))
    {s : Settings} (h : s.HeldBy document) :
    Effective given environment document (s.withArguments (given.withVariables environment)) where
  baseUrl := ⟨_, firstOf_getD _ _ h.api.baseUrl, unslashed _⟩
  userAgent := firstOf_getD _ _ h.api.userAgent
  authorization := by
    have hfirst := firstOf_getD (given.authorization.map some)
      ((valueOf? environment "AUTH").map some) h.api.authorization
    have hvalue : ((given.authorization.map some).or ((valueOf? environment "AUTH").map some)).getD
        s.api.authorization =
        (given.authorization.or (valueOf? environment "AUTH")).or s.api.authorization := by
      cases given.authorization <;> cases valueOf? environment "AUTH" <;> rfl
    rw [hvalue] at hfirst
    exact hfirst
  timeout := by
    have hfirst := firstOf_getD given.timeoutSeconds none h.api.timeout
    rw [Option.or_none] at hfirst
    exact hfirst
  attempts := by
    have hfirst := firstOf_getD given.attempts none h.api.attempts
    rw [Option.or_none] at hfirst
    exact hfirst
  backoff := h.api.backoff
  analysis := h.analysis
  chat := h.chat
  output := h.output

/-- The same arguments change nothing the second time. -/
theorem withArguments_withArguments (s : Settings) (a : Arguments) :
    (s.withArguments a).withArguments a = s.withArguments a := by
  have hbaseUrl : withoutTrailingSlashes (a.baseUrl.getD (withoutTrailingSlashes
      (a.baseUrl.getD s.api.baseUrl))) = withoutTrailingSlashes (a.baseUrl.getD s.api.baseUrl) := by
    cases a.baseUrl with
    | some url => rfl
    | none => exact withoutTrailingSlashes_eq_self (unslashed s.api.baseUrl).last
  unfold withArguments
  dsimp only
  rw [hbaseUrl]
  cases a.userAgent <;> cases a.authorization <;> cases a.timeoutSeconds <;>
    cases a.attempts <;> rfl

end Settings
end IncidentDigest
