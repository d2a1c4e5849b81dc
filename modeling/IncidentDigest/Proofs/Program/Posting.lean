import IncidentDigest.Proofs.Files.Walk
import IncidentDigest.Proofs.Program.Configured
import IncidentDigest.Proofs.Service.Posting
import IncidentDigest.Proofs.Settings.Sources

/-!
# Runs that post

A run that posts a message takes the token and the channel from an option, a variable, or the
settings file, whichever comes first.  If one of them is nowhere to be found, nothing is sent
and the exit code is 1.  Otherwise one request is sent, and the exit code is 0 exactly if the
chat service accepts the message in the end (`execute_post`).
-/

namespace IncidentDigest

open CommandLine Http

/-! ## 1. The settings file of a run -/

namespace Settings

/-- The document that a run takes its settings from: that of the file that is named, or of the
default file.  A default file that holds no settings counts as little as one that is not there. -/
inductive Consulted (files : FileTree) : Option String → Toml.Members → Prop where
  | named {path text : String} {document : Toml.Members} (hread : files.read path = .ok text)
      (hdocument : Toml.read? text = some document) : Consulted files (some path) document
  | default {text : String} {document : Toml.Members} (hread : files.read defaultPath = .ok text)
      (hdocument : Toml.read? text = some document) : Consulted files none document
  | nothing (h : ∀ s, load files defaultPath ≠ .ok s) : Consulted files none []

theorem load_eq_ok {files : FileTree} {path : String} {s : Settings}
    (h : load files path = .ok s) :
    ∃ text document, files.read path = .ok text ∧ Toml.read? text = some document ∧
      s.HeldBy document := by
  unfold load at h
  cases hread : files.read path with
  | error e =>
      rw [hread] at h
      cases h
  | ok text =>
      rw [hread] at h
      dsimp only at h
      cases hsettings : read? text with
      | none =>
          rw [hsettings] at h
          cases h
      | some loaded =>
          rw [hsettings] at h
          obtain rfl := Except.ok.inj h
          obtain ⟨document, hdocument, hheld⟩ := heldBy_of_read hsettings
          exact ⟨text, document, rfl, hdocument, hheld⟩

theorem loadDefault_eq_ok_some_iff {files : FileTree} {s : Settings} :
    loadDefault files = .ok (some s) ↔ load files defaultPath = .ok s := by
  unfold loadDefault
  split
  · cases load files defaultPath with
    | error e => simp [Except.map]
    | ok loaded => simp [Except.map]
  · rename_i hmissing
    refine iff_of_false nofun fun hload => ?_
    obtain ⟨text, document, hread, -⟩ := load_eq_ok hload
    obtain ⟨node, hlookup, -⟩ := FileTree.ok_of_bind hread
    exact hmissing (by rw [FileTree.pathExists, hlookup])

end Settings

namespace Program

open Settings (Consulted)

/-- **The settings of a run are those of its settings file.** -/
theorem heldBy_of_loadSettings {path : Option String} {s : Settings} {w w' : World}
    (h : (loadSettings path).runIn w = (.ok s, w')) :
    ∃ document, Consulted w.files path document ∧ s.HeldBy document := by
  unfold loadSettings at h
  rw [runIn_bind_ok (runIn_files w)] at h
  cases path with
  | some path =>
      obtain ⟨hload, -⟩ := runIn_orFail_eq_ok_iff.mp h
      obtain ⟨text, document, hread, hdocument, hheld⟩ := Settings.load_eq_ok hload
      exact ⟨document, .named hread hdocument, hheld⟩
  | none =>
      dsimp only at h
      have hnothing : (∀ loaded, Settings.loadDefault w.files ≠ .ok (some loaded)) →
          s = .default → ∃ document, Consulted w.files none document ∧ s.HeldBy document := by
        rintro hnone rfl
        refine ⟨[], .nothing fun loaded hload => ?_, Settings.heldBy_default⟩
        exact hnone loaded (Settings.loadDefault_eq_ok_some_iff.mpr hload)
      cases hdefault : Settings.loadDefault w.files with
      | error f =>
          rw [hdefault] at h
          obtain ⟨u, w₁, -, h⟩ := ok_of_runIn_bind h
          obtain ⟨rfl, -⟩ : Settings.default = s ∧ _ := by simpa using h
          exact hnothing (by simp [hdefault]) rfl
      | ok found =>
          rw [hdefault] at h
          cases found with
          | none =>
              obtain ⟨rfl, -⟩ : Settings.default = s ∧ _ := by simpa using h
              exact hnothing (by simp [hdefault]) rfl
          | some loaded =>
              obtain ⟨rfl, -⟩ : loaded = s ∧ _ := by simpa using h
              have hload := Settings.loadDefault_eq_ok_some_iff.mp hdefault
              obtain ⟨text, document, hread, hdocument, hheld⟩ := Settings.load_eq_ok hload
              exact ⟨document, .default hread hdocument, hheld⟩

/-! ## 2. Token and channel -/

structure Missing (flag var held : Option String) : Prop where
  flag : flag = none
  var : var = none
  held : held = none

/-- The first of three sources that gives a value is the one that counts. -/
theorem or_eq_of_firstOf {flag var held : Option String} {x : String}
    (h : Settings.FirstOf flag var (held = some ·) x) : (flag.or var).or held = some x := by
  cases h with
  | flag hflag => simp [hflag]
  | var hflag hvar => simp [hflag, hvar]
  | held hflag hvar hheld => simp [hflag, hvar, hheld]

theorem Missing.or_eq {flag var held : Option String} (h : Missing flag var held) :
    (flag.or var).or held = none := by
  simp [h.flag, h.var, h.held]

theorem post_of_withVariables {command : Command} {environment : List (String × String)}
    {c : PostArguments} (h : command.withVariables environment = .post c) :
    ∃ p, command = .post p ∧ { p with
      channel := p.channel.or (valueOf? environment "SLACK_CHANNEL_ID")
      token := p.token.or (valueOf? environment "SLACK_BOT_TOKEN") } = c := by
  cases command with
  | post p => exact ⟨p, rfl, Command.post.inj h⟩
  | analyse p => cases h
  | fetch p => cases h
  | dump p => cases h
  | init => cases h

theorem runIn_post_of_noToken {s : Settings} {a : PostArguments}
    (h : a.token.or s.chat.token = none) (w : World) :
    (post s a).runIn w = (.error .noToken, w) := by
  unfold post
  rw [h]
  rfl

theorem runIn_post_of_noChannel {s : Settings} {a : PostArguments} {token : String}
    (htoken : a.token.or s.chat.token = some token) (h : a.channel.or s.chat.channel = none)
    (w : World) : (post s a).runIn w = (.error .noChannel, w) := by
  unfold post
  rw [htoken, h]
  rfl

def chatClient (s : Settings) (token : String) : ChatClient :=
  ⟨s.chat.url, token, s.api.timeoutSeconds⟩

theorem runIn_post_of_some {s : Settings} {a : PostArguments} {token channel : String}
    (htoken : a.token.or s.chat.token = some token)
    (hchannel : a.channel.or s.chat.channel = some channel) (w : World) :
    (post s a).runIn w =
      match ((chatClient s token).post channel a.text).runIn w.session with
      | (.ok _, session) => (.ok (), { w with session })
      | (.error e, session) => (.error (.service e), { w with session }) := by
  have hpost : post s a = call ((chatClient s token).post channel a.text) >>= fun _ => pure () := by
    unfold post
    rw [htoken, hchannel]
    simp only [orElseFail, pure_bind]
    rfl
  rw [hpost]
  rcases hcall : ((chatClient s token).post channel a.text).runIn w.session with ⟨e | v, session⟩
  · refine runIn_bind_error ?_
    rw [runIn_call, hcall]
    rfl
  · exact runIn_bind_ok (runIn_call_ok hcall)

/-! ## 3. Runs -/

section Run
variable {words : List String} {environment : List (String × String)} {now : Instant}
  {w w₁ : World} {a : Arguments} {c : PostArguments} {s : Settings}

theorem execute_eq_post (hparse : CommandLine.parse words environment = .ok a)
    (hcheck : a.check = .ok ()) (hcommand : a.command = .post c)
    (hsettings : (settings a).runIn w = (.ok s, w₁)) :
    execute words environment now w = match (post s c).runIn w₁ with
      | (.ok (), w') => (.success, w')
      | (.error f, w') => (.failed f, w') := by
  have haction : (action a now).runIn w = (post s c).runIn w₁ := by
    have hinit : a.command ≠ .init := by simp [hcommand]
    rw [action, if_neg hinit, run_eq, runIn_bind_ok hsettings, hcommand]
    rfl
  rcases hrun : execute words environment now w with ⟨ending, w'⟩
  rcases execute_cases hparse hcheck hrun with ⟨rfl, h⟩ | ⟨f, rfl, h⟩
  · rw [haction] at h
    rw [h]
  · rw [haction] at h
    rw [h]

/-- A request that posts a message, as it arrives: it goes to the address of the chat service, its
body reads as the channel and the text, and it bears the token, less the blanks at its end.  A name
and a password in the address come before the token. -/
structure IsPost (r : Request) (address : Url) (token channel text : String) : Prop where
  method : r.method = .post
  url : r.url = address
  body : Json.read? r.body = some (.obj [("channel", .str channel), ("text", .str text)])
  authorization : ∃ value,
    r.authorization =
      (address.credentials.map fun c => headerValue c.authorization).toList ++ [value] ∧
    Unblanked ("Bearer " ++ token) value ∧
    ∀ c, token.toList.getLast? = some c → c ≠ ' ' ∧ c ≠ '\t' → value = "Bearer " ++ token

/-- A run that posts a message sends one request, and what comes of it in the end decides between
success and a failure of the service. -/
structure Posted (w : World) (ran : Ending × World) (url : String) (address : Url)
    (token channel text : String) : Prop where
  sent : ran.2.session.sent = w.session.sent ++ [⟨.post, url⟩]
  delivered : ∃ r, IsPost r.arrived address token channel text ∧
    ran.2.session.network = (w.session.network.deliver r).2 ∧
    (ran.1.exitCode = 0 ↔ ∃ reply,
      (w.session.network.deliver r).1 = .ended (.reply reply) ∧ ChatClient.Accepts reply)
  failure : ran.1.exitCode ≠ 0 → ran.1.exitCode = 2

/-- If the reply to the post leads to no other address, the post is all that is asked for, and this
reply is what decides. -/
structure PostedOnce (w : World) (ran : Ending × World) (address : Url)
    (token channel text : String) : Prop where
  asked : ran.2.session.network.asked = w.session.network.asked ++ [⟨.post, address.text⟩]
  received : w.session.network.reaction ⟨.post, address.text⟩ ≠ .silence →
    w.session.network.reaction ⟨.post, address.text⟩ ≠ .refusal →
      ∃ r, IsPost r address token channel text ∧
        ran.2.session.network.received = w.session.network.received ++ [r]
  success : ran.1.exitCode = 0 ↔ ∃ reply,
    w.session.network.reaction ⟨.post, address.text⟩ = .reply reply ∧ ChatClient.Accepts reply

theorem isPost_request (c : ChatClient) (address : Url) (channel text : String) :
    IsPost (c.request channel text address).arrived address c.token channel text where
  method := rfl
  url := rfl
  body := (c.read?_body channel text :
    Json.read? (c.request channel text address).body = some _)
  authorization := by
    have hvalue : Unblanked ("Bearer " ++ c.token) (headerValue c.authorization) := by
      refine unblanked_headerValue (c := 'B') ?_ (by decide)
      rw [String.toList_append]
      rfl
    refine ⟨headerValue c.authorization, ?_, hvalue, ?_⟩
    · unfold Request.arrived ChatClient.request
      cases address.credentials with
      | none => rfl
      | some credentials => rfl
    · intro last hlast hblank
      refine hvalue.eq ?_ hblank
      have hne : c.token.toList ≠ [] := by
        intro hempty
        rw [hempty] at hlast
        cases hlast
      rw [String.toList_append, List.getLast?_append_of_ne_nil _ hne, hlast]

/-- A post whose reply leads nowhere is a single exchange. -/
theorem Posted.once {w : World} {ran : Ending × World} {url : String} {address : Url}
    {token channel text : String} (h : Posted w ran url address token channel text)
    (hstay : ∀ reply, w.session.network.reaction ⟨.post, address.text⟩ = .reply reply →
      reply.target? address = none) : PostedOnce w ran address token channel text := by
  obtain ⟨r, hpost, hnetwork, hcode⟩ := h.delivered
  have hmethod : r.method = .post := hpost.method
  have hurl : r.url = address := hpost.url
  have hroute : r.route = ⟨.post, address.text⟩ := by rw [Request.route, hmethod, hurl]
  have hdeliver : w.session.network.deliver r =
      (.ended (w.session.network.reaction r.route), (w.session.network.exchange r).2) := by
    refine Network.follow_of_stay _ r w.session.network ?_
    change r.onward? (w.session.network.reaction r.route) = none
    rw [hroute]
    cases hreaction : w.session.network.reaction ⟨.post, address.text⟩ with
    | reply reply => simp [Request.onward?, hurl, hstay reply hreaction]
    | closed => rfl
    | silence => rfl
    | refusal => rfl
  rw [hdeliver] at hnetwork hcode
  constructor
  · rw [hnetwork, Network.exchange_asked, hroute]
  · rw [hnetwork, ← hroute]
    intro hsilence hrefusal
    exact ⟨r.arrived, hpost, Network.exchange_received hsilence hrefusal⟩
  · rw [hcode, hroute]
    simp

theorem posted_of_settings (hparse : CommandLine.parse words environment = .ok a)
    (hcheck : a.check = .ok ()) (hcommand : a.command = .post c)
    (hsettings : (settings a).runIn w = (.ok s, w₁))
    {address : Url} {token channel : String}
    (haddress : Address.ofText? s.chat.url = some (.web address))
    (htoken : c.token.or s.chat.token = some token)
    (hchannel : c.channel.or s.chat.channel = some channel)
    (husable : isHeaderText token = true) :
    Posted w (execute words environment now w) s.chat.url address token channel c.text := by
  obtain ⟨hsent, hnetwork, hok⟩ :=
    (chatClient s token).post_spec channel c.text haddress husable w₁.session
  rw [(offline_settings a).sent_eq hsettings] at hsent
  rw [(offline_settings a).network_eq hsettings] at hnetwork hok
  have hpost := isPost_request (chatClient s token) address channel c.text
  rw [execute_eq_post hparse hcheck hcommand hsettings, runIn_post_of_some htoken hchannel]
  rcases hcall : ((chatClient s token).post channel c.text).runIn w₁.session with ⟨e | v, session⟩
  · rw [hcall] at hsent hnetwork hok
    have hrefused := hok.not.mp (by simp)
    exact ⟨hsent, ⟨_, hpost, hnetwork, iff_of_false (by simp [Ending.exitCode, Failure.exitCode])
      hrefused⟩, fun _ => rfl⟩
  · rw [hcall] at hsent hnetwork hok
    have haccepted := hok.mp ⟨v, rfl⟩
    exact ⟨hsent, ⟨_, hpost, hnetwork, iff_of_true rfl haccepted⟩, fun hnonzero => absurd rfl hnonzero⟩

/-- A run that lacks a token or a channel sends nothing, and fails by itself. -/
theorem unsent_of_settings (hparse : CommandLine.parse words environment = .ok a)
    (hcheck : a.check = .ok ()) (hcommand : a.command = .post c)
    (hsettings : (settings a).runIn w = (.ok s, w₁))
    (hmissing : c.token.or s.chat.token = none ∨ c.channel.or s.chat.channel = none) :
    (execute words environment now w).2.session.sent = w.session.sent ∧
      (execute words environment now w).2.session.network = w.session.network ∧
      (execute words environment now w).1.exitCode = 1 := by
  have hsent := (offline_settings a).sent_eq hsettings
  have hnetwork := (offline_settings a).network_eq hsettings
  rw [execute_eq_post hparse hcheck hcommand hsettings]
  cases htoken : c.token.or s.chat.token with
  | none =>
      rw [runIn_post_of_noToken htoken]
      exact ⟨hsent, hnetwork, rfl⟩
  | some token =>
      have hchannel := hmissing.resolve_left (by simp [htoken])
      rw [runIn_post_of_noChannel htoken hchannel]
      exact ⟨hsent, hnetwork, rfl⟩

end Run

open Settings (FirstOf) in
/-- **A run that posts a message**, under any arguments and settings that are accepted.  Token and
channel come from the command line, or else from a variable, or else from the settings file.  With
both, and an address and a token that can be used, one request is sent: a post of the message to the
chat service.  Unless the reply to it leads to another address, nothing else is asked for.  The exit
code is 0 exactly if all of a reply of status 200 comes back that accepts the message, and otherwise
it is 2.  Without token or channel nothing is sent, and the exit code is 1. -/
theorem execute_post {words : List String} {environment : List (String × String)}
    (now : Instant) {w w₁ : World} {a : Arguments} {c : PostArguments} {s : Settings}
    (hparse : CommandLine.parse words environment = .ok a) (hcheck : a.check = .ok ())
    (hcommand : a.command = .post c) (hsettings : (settings a).runIn w = (.ok s, w₁)) :
    ∃ given p document, CommandLine.parse words [] = .ok given ∧ given.command = .post p ∧
      Consulted w.files given.settingsFile document ∧ s.chat.HeldBy document ∧
      (∀ address token channel, Address.ofText? s.chat.url = some (.web address) →
        FirstOf p.token (valueOf? environment "SLACK_BOT_TOKEN") (s.chat.token = some ·) token →
        FirstOf p.channel (valueOf? environment "SLACK_CHANNEL_ID") (s.chat.channel = some ·)
          channel →
        isHeaderText token = true →
        Posted w (execute words environment now w) s.chat.url address token channel p.text ∧
        ((∀ reply, w.session.network.reaction ⟨.post, address.text⟩ = .reply reply →
            reply.target? address = none) →
          PostedOnce w (execute words environment now w) address token channel p.text)) ∧
      (Missing p.token (valueOf? environment "SLACK_BOT_TOKEN") s.chat.token ∨
          Missing p.channel (valueOf? environment "SLACK_CHANNEL_ID") s.chat.channel →
        (execute words environment now w).2.session.sent = w.session.sent ∧
          (execute words environment now w).2.session.network = w.session.network ∧
          (execute words environment now w).1.exitCode = 1) := by
  obtain ⟨given, hgiven, rfl⟩ := (parse_eq_ok_iff words environment a).mp hparse
  obtain ⟨loaded, hload, rfl, -⟩ := settings_eq_ok_iff.mp hsettings
  obtain ⟨document, hconsulted, hheld⟩ := heldBy_of_loadSettings hload
  obtain ⟨p, hp, rfl⟩ := post_of_withVariables hcommand
  refine ⟨given, p, document, hgiven, hp, hconsulted, hheld.chat, ?_, ?_⟩
  · intro address token channel haddress htoken hchannel husable
    have hposted : Posted w (execute words environment now w) _ address token channel p.text :=
      posted_of_settings hparse hcheck hcommand hsettings haddress (or_eq_of_firstOf htoken)
        (or_eq_of_firstOf hchannel) husable
    exact ⟨hposted, hposted.once⟩
  · intro hmissing
    refine unsent_of_settings hparse hcheck hcommand hsettings ?_
    exact hmissing.imp Missing.or_eq Missing.or_eq

/-! ### One message -/

/-- A reply that accepts every message. -/
def accepting : Reaction :=
  .reply ⟨200, none, none, "\x7b\"ok\": true, \"ts\": \"1.5\"\x7d".toUTF8.toList, true⟩

/-- A world with a settings file that names a chat service and has a token. -/
def chatWorldAt (url : String) (script : Script) : World := .start script
  ⟨[([Settings.fileName], .file
    ("[slack]\napi_url = \"" ++ url ++ "\"\nbot_token = \"xoxb-file\"\n"))], []⟩

/-- A world in which every message is accepted. -/
def chatWorld : World := chatWorldAt "http://slack.local/api" fun _ _ => accepting

def chatAddress : Url := ⟨"http", none, "slack.local", none, ["api"], none, none⟩

/-- The arguments of a post with a token from a variable. -/
def greeting : Arguments where
  baseUrl := none
  userAgent := none
  authorization := none
  timeoutSeconds := none
  attempts := none
  settingsFile := none
  verbose := false
  quiet := false
  command := .post ⟨some "C", "a\n\"b\"", some "xoxb-env"⟩

/-- The variable counts before the settings file, and the message is accepted. -/
theorem execute_post_greeting :
    let ran := execute ["slack-post", "--text", "a\n\"b\"", "--channel", "C"]
      [("SLACK_BOT_TOKEN", "xoxb-env")] ⟨0, 0⟩ chatWorld
    Posted chatWorld ran "http://slack.local/api" chatAddress "xoxb-env" "C" "a\n\"b\"" ∧
      PostedOnce chatWorld ran chatAddress "xoxb-env" "C" "a\n\"b\"" ∧ ran.1.exitCode = 0 := by
  have hparse : CommandLine.parse ["slack-post", "--text", "a\n\"b\"", "--channel", "C"]
      [("SLACK_BOT_TOKEN", "xoxb-env")] = .ok greeting := by decide +kernel
  have halone : (CommandLine.parse ["slack-post", "--text", "a\n\"b\"", "--channel", "C"]
      []).toOption.map (·.command) = some (.post ⟨some "C", "a\n\"b\"", none⟩) := by decide +kernel
  have hchat : ((settings greeting).runIn chatWorld).1.toOption.map (·.chat) =
      some ⟨"http://slack.local/api", some "xoxb-file", none⟩ := by decide +kernel
  have haddress : Address.ofText? "http://slack.local/api" = some (.web chatAddress) := by
    decide +kernel
  rcases hsettings : (settings greeting).runIn chatWorld with ⟨f | s, w₁⟩
  · rw [hsettings] at hchat
    cases hchat
  · rw [hsettings] at hchat
    have hchat' : s.chat = ⟨"http://slack.local/api", some "xoxb-file", none⟩ :=
      Option.some.inj hchat
    obtain ⟨given, p, document, hgiven, hp, -, -, hposted, -⟩ :=
      execute_post ⟨0, 0⟩ hparse (by decide +kernel) rfl hsettings
    rw [hgiven] at halone
    have hcommand : given.command = .post ⟨some "C", "a\n\"b\"", none⟩ := Option.some.inj halone
    obtain rfl := Command.post.inj (hp.symm.trans hcommand)
    rw [hchat'] at hposted
    obtain ⟨hsent, honce⟩ := hposted chatAddress "xoxb-env" "C" haddress (.var rfl (by decide))
      (.flag rfl) (by decide)
    refine ⟨hsent, honce ?_, ?_⟩
    · intro reply hreply
      obtain rfl := Reaction.reply.inj (hreply : accepting = .reply reply)
      rfl
    · decide +kernel

/-- A reply that leads the same request to another address. -/
def movedOnce : Script := fun route _ =>
  if route.address = "http://slack.local/api" then .reply ⟨307, none, some "/moved", [], true⟩
  else accepting

/-- Three posts that are not what the words of the command line and the settings file say: the blank
at the end of a token does not arrive, a name and a password in the address come before the token,
and a message whose first reply leads elsewhere is posted there as well and accepted. -/
theorem execute_post_exceptions :
    (isHeaderText "xoxb " = true ∧
      (execute ["slack-post", "--text", "a", "--channel", "C", "--token", "xoxb "] [] ⟨0, 0⟩
        chatWorld).2.session.network.received.map (·.authorization) = [["Bearer xoxb"]] ∧
      "Bearer xoxb" ≠ "Bearer " ++ "xoxb ") ∧
    (execute ["slack-post", "--text", "a", "--channel", "C"] [] ⟨0, 0⟩
      (chatWorldAt "http://me:pw@slack.local/api" fun _ _ => accepting)
      ).2.session.network.received.map (·.authorization) =
        [["Basic bWU6cHc=", "Bearer xoxb-file"]] ∧
    (execute ["slack-post", "--text", "a", "--channel", "C"] [] ⟨0, 0⟩
      (chatWorldAt "http://slack.local/api" movedOnce)).2.session.network.asked =
        [⟨.post, "http://slack.local/api"⟩, ⟨.post, "http://slack.local/moved"⟩] ∧
    (execute ["slack-post", "--text", "a", "--channel", "C"] [] ⟨0, 0⟩
      (chatWorldAt "http://slack.local/api" movedOnce)).1.exitCode = 0 := by
  refine ⟨⟨by decide, ?_, by decide⟩, ?_, ?_, ?_⟩
  · decide +kernel
  · decide +kernel
  · decide +kernel
  · decide +kernel

end Program
end IncidentDigest
