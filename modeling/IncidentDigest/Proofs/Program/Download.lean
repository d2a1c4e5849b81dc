import IncidentDigest.Proofs.Files.Persistence
import IncidentDigest.Proofs.Json.RoundTrip
import IncidentDigest.Proofs.Program.ExitCode
import IncidentDigest.Proofs.Service.Answers

/-!
# A download keeps what came

A download collects a body for each listed scenario, and writes all of them to one file.
Every body has been read from a reply, so that it is exact unless it holds a floating-point
number; and an exact value is read back from what is written of it.  So the file of a download
that succeeds reads back as the list of the bodies, in whichever layout it is written.
-/

namespace IncidentDigest.Program

open CommandLine

/-! ## 1. The steps of a download -/

theorem read_of_output {path content : String} {w w' : World}
    (h : (output (some path) content).runIn w = (.ok (), w')) :
    w'.files.read path = .ok content := by
  have hstore : ((w.files.writeOutput path content).2.mapError Failure.storage,
      { w with files := (w.files.writeOutput path content).1 }) = (.ok (), w') := h
  rcases hwrite : w.files.writeOutput path content with ⟨files, e | u⟩
  · rw [hwrite] at hstore
    exact absurd (congrArg Prod.fst hstore) (by simp [Except.mapError])
  · rw [hwrite] at hstore
    obtain rfl : { w with files } = w' := congrArg Prod.snd hstore
    exact FileTree.read_of_writeOutput hwrite

/-- Whatever else has been written before, the output file holds all bodies. -/
theorem read_of_savePayloads {s : Settings} {a : FetchArguments} {ps : List ScenarioPayload}
    {w w' : World} (h : (savePayloads s a ps).runIn w = (.ok (), w')) :
    w'.files.read a.output =
      .ok ((Json.arr (ps.map (·.body))).render s.output.indented) := by
  unfold savePayloads at h
  cases hdirectory : a.directory with
  | none =>
      rw [hdirectory] at h
      exact read_of_output h
  | some directory =>
      rw [hdirectory] at h
      obtain ⟨n, w₁, -, h⟩ := ok_of_runIn_bind h
      exact read_of_output h

theorem fetch_ok {s : Settings} {a : FetchArguments} {w w' : World}
    (h : (fetch s a).runIn w = (.ok (), w')) :
    ∃ c ps done, Client.ofSettings s.api = .ok c ∧
      c.fetchAll.runIn w.session = (.ok ps, done) ∧
      w'.files.read a.output =
        .ok ((Json.arr (ps.map (·.body))).render s.output.indented) := by
  rw [fetch_eq] at h
  obtain ⟨c, w₁, hclient, h⟩ := ok_of_runIn_bind h
  obtain ⟨ps, w₂, hcall, hsave⟩ := ok_of_runIn_bind h
  obtain ⟨hof, rfl⟩ := runIn_orFail_eq_ok_iff.mp hclient
  obtain ⟨done, hfetched, -⟩ := runIn_call_eq_ok_iff.mp hcall
  exact ⟨c, ps, done, hof, hfetched, read_of_savePayloads hsave⟩

theorem check_of_success {words : List String} {environment : List (String × String)}
    {now : Instant} {w w' : World} {a : Arguments}
    (hparse : CommandLine.parse words environment = .ok a)
    (hrun : execute words environment now w = (.success, w')) : a.check = .ok () := by
  unfold execute at hrun
  rw [hparse] at hrun
  dsimp only at hrun
  cases hcheck : a.check with
  | ok u => rfl
  | error f =>
      rw [hcheck] at hrun
      exact absurd (congrArg Prod.fst hrun) (by simp)

/-- A download that succeeds has its settings, and has fetched under these. -/
theorem fetch_of_success {words : List String} {environment : List (String × String)}
    {now : Instant} {w w' : World} {a : Arguments} {f : FetchArguments}
    (hparse : CommandLine.parse words environment = .ok a) (hfetch : a.command = .fetch f)
    (hrun : execute words environment now w = (.success, w')) :
    ∃ s w₁, (settings a).runIn w = (.ok s, w₁) ∧ (fetch s f).runIn w₁ = (.ok (), w') := by
  have hcheck := check_of_success hparse hrun
  rcases execute_cases hparse hcheck hrun with ⟨-, haction⟩ | ⟨e, hfailed, -⟩
  · have hinit : a.command ≠ .init := by simp [hfetch]
    rw [action, if_neg hinit, run_eq, hfetch] at haction
    exact ok_of_runIn_bind haction
  · cases hfailed

/-! ## 2. The output file -/

/-- With a list around them, the bodies nest as many containers as the reader takes. -/
theorem read?_render_arr {bodies : List Json}
    (h : ∀ body ∈ bodies, body.Exact ∧ body.depth ≤ 126) (indented : Bool) :
    Json.read? ((Json.arr bodies).render indented) = some (.arr bodies) := by
  apply Json.read?_render
  · exact .arr fun body hbody => (h body hbody).1
  · have hdepth := Json.depthOfItems_le fun body hbody => (h body hbody).2
    rw [Json.depth]
    exact Nat.succ_le_succ hdepth

/-- **A download keeps what came.**  If it succeeds, there is a listing, and for each entry
with an id a body, the first that the tries for this entry gave after what had been sent for
the entries before it; and if no body holds a floating-point number or nests more
than 126 containers, the output file reads back as the list of the bodies, in whichever layout
the settings ask for.  For objects this means that they hold for each key the last value that
the reply gave it. -/
theorem execute_fetch_keeps_bodies {words : List String} {environment : List (String × String)}
    {now : Instant} {w w' : World} {a : Arguments} {f : FetchArguments}
    (hparse : CommandLine.parse words environment = .ok a) (hfetch : a.command = .fetch f)
    (hrun : execute words environment now w = (.success, w')) :
    ∃ s c entries listed bodies done,
      ((settings a).runIn w).1 = .ok s ∧ Client.ofSettings s.api = .ok c ∧
      c.Listed w.session.network entries listed ∧
      c.Downloaded listed (entries.filterMap Client.usableId?) bodies done ∧
      bodies.length = (entries.filterMap Client.usableId?).length ∧
      ((∀ body ∈ bodies, body.isFloatFree = true ∧ body.depth ≤ 126) →
        ∃ text, w'.files.read f.output = .ok text ∧ Json.read? text = some (.arr bodies)) ∧
      ∀ (ms : List (String × Json)) (key : String),
        (Json.ofMembers ms).get? key = Json.member? key ms.reverse := by
  obtain ⟨s, w₁, hsettings, hrun⟩ := fetch_of_success hparse hfetch hrun
  obtain ⟨c, ps, done, hclient, hfetched, hread⟩ := fetch_ok hrun
  obtain ⟨entries, listed, hlisted, hdownloaded⟩ := c.downloaded_of_fetchAll hfetched
  have hnetwork := (offline_settings a).network_eq hsettings
  rw [hnetwork] at hlisted
  refine ⟨s, c, entries, listed, ps.map (·.body), done.network, by rw [hsettings], hclient,
    hlisted, hdownloaded, hdownloaded.length_eq, ?_, Json.member?_sortMembers⟩
  intro hbodies
  have hexact : ∀ body ∈ ps.map (·.body), body.Exact ∧ body.depth ≤ 126 := by
    intro body hbody
    obtain ⟨hfree, hdepth⟩ := hbodies body hbody
    obtain ⟨route, k, hgives⟩ := hdownloaded.gives body hbody
    obtain ⟨bytes, hbytes⟩ := Http.Reaction.readBytes?_of_gives hgives
    exact ⟨Json.exact_of_readBytes? hbytes hfree, hdepth⟩
  exact ⟨_, hread, read?_render_arr hexact _⟩

/-! ### One answer for everything -/

/-- A list of one scenario, with a repeated key, the least integer and an escaped string. -/
def sampleAnswer : Http.Reaction := .reply ⟨200, none, none,
  "[\x7b\"scenario_id\":\"a\",\"n\":1,\"n\":-9223372036854775808,\"s\":\"\\u0000\\\"\"\x7d]".toUTF8.toList,
  true⟩

/-- A world without files in which every request meets with this answer. -/
def sampleWorld : World := .start (fun _ _ => sampleAnswer) ⟨[], []⟩

theorem execute_fetch_keeps_bodies_sample :
    ∃ w' text bodies, execute ["fetch-scenarios"] [] ⟨0, 0⟩ sampleWorld = (.success, w') ∧
      w'.files.read "scenarios_full.json" = .ok text ∧
      Json.read? text = some (.arr bodies) ∧
      (∀ body ∈ bodies, body.isFloatFree = true ∧ body.depth ≤ 126) ∧
      text = "[\n  [\n    \x7b\n      \"n\": -9223372036854775808,\n      \"s\": \"\\u0000\\\"\",\n" ++
        "      \"scenario_id\": \"a\"\n    \x7d\n  ]\n]" := by
  have hparsed : (CommandLine.parse ["fetch-scenarios"] []).toOption.map (·.command) =
      some (.fetch ⟨"scenarios_full.json", none⟩) := by decide +kernel
  have hsuccess : (execute ["fetch-scenarios"] [] ⟨0, 0⟩ sampleWorld).1 = .success := by
    decide +kernel
  have htext : ((execute ["fetch-scenarios"] [] ⟨0, 0⟩ sampleWorld).2.files.read
      "scenarios_full.json").toOption = some
        ("[\n  [\n    \x7b\n      \"n\": -9223372036854775808,\n      \"s\": \"\\u0000\\\"\",\n" ++
          "      \"scenario_id\": \"a\"\n    \x7d\n  ]\n]") := by decide +kernel
  have hplain : (sampleAnswer.gives Json.Shape.value).all
      (fun v => v.isFloatFree && decide (v.depth ≤ 126)) = true := by decide +kernel
  rcases hparse : CommandLine.parse ["fetch-scenarios"] [] with e | a
  · rw [hparse] at hparsed
    exact absurd hparsed (by simp [Except.toOption])
  · rw [hparse] at hparsed
    have hcommand : a.command = .fetch ⟨"scenarios_full.json", none⟩ := Option.some.inj hparsed
    rcases hrun : execute ["fetch-scenarios"] [] ⟨0, 0⟩ sampleWorld with ⟨ending, w'⟩
    rw [hrun] at hsuccess htext
    obtain rfl : ending = .success := hsuccess
    obtain ⟨s, c, entries, listed, bodies, done, -, -, hlisted, hdownloaded, -, hread, -⟩ :=
      execute_fetch_keeps_bodies hparse hcommand hrun
    have hbodies : ∀ body ∈ bodies, body.isFloatFree = true ∧ body.depth ≤ 126 := by
      intro body hbody
      obtain ⟨r, items, -, hfirst, -⟩ := hlisted
      obtain ⟨route, k, hgives⟩ := hdownloaded.gives body hbody
      obtain ⟨used, hused⟩ := hfirst.later.upcoming route
      have hanswer : sampleWorld.session.network.upcoming route (k + used) = sampleAnswer := rfl
      rw [hused, hanswer] at hgives
      rw [hgives] at hplain
      simpa using hplain
    obtain ⟨text, hfile, hvalue⟩ := hread hbodies
    have hfile' : w'.files.read "scenarios_full.json" = .ok text := hfile
    refine ⟨w', text, bodies, rfl, hfile', hvalue, hbodies, ?_⟩
    dsimp only at htext
    rw [hfile'] at htext
    exact Option.some.inj htext

end IncidentDigest.Program
