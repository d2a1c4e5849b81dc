import IncidentDigest.Proofs.Service.Isolation
import IncidentDigest.Proofs.Service.Order

/-!
# Dumps of one scenario

A peer is *steady* if it answers each route always in the same way.  In front of such a peer a
dump of one scenario is the first dump of this scenario among the dumps of all: what comes
before it in the listing makes no difference, although the walk passes over it in one run and
dumps it in the other.  Such a dump sends requests to the listing and to the addresses of the
one scenario.
-/

namespace IncidentDigest

open Http

/-- All routes have the reactions of a peer ahead that never changes its mind. -/
def Http.Network.Steady (peer : Route → Reaction) (n : Network) : Prop :=
  ∀ route k, n.upcoming route k = peer route

namespace Http.Network.Steady

variable {peer : Route → Reaction} {n m : Network}

theorem ofScript (peer : Route → Reaction) :
    Steady peer (Network.ofScript fun route _ => peer route) := by
  intro route k
  rw [upcoming_ofScript]

theorem later (h : Steady peer n) (hlater : n.Later m) : Steady peer m := by
  intro route k
  obtain ⟨used, hused⟩ := hlater.upcoming route
  rw [hused, h]

theorem agreeOn (hn : Steady peer n) (hm : Steady peer m) (R : Set Route) : AgreeOn R n m := by
  intro route _
  funext k
  rw [hn, hm]

end Http.Network.Steady

namespace Client

open Call

/-! ## 1. The requests of one scenario -/

theorem runIn_normalizedTime (id field : String) (raw : Option String) (s : Session) :
    ∃ t s', (normalizedTime id field raw).runIn s = (.ok t, s') ∧
      s'.sent = s.sent ∧ s'.network = s.network := by
  unfold normalizedTime
  split
  · exact ⟨_, s, rfl, rfl, rfl⟩
  · exact ⟨none, s.warn _, rfl, rfl, rfl⟩

theorem gets_dumpTimes (c : Client) (id title : String) (s : Session) :
    ∃ tries, 1 ≤ tries ∧ tries ≤ max 1 c.attempts ∧
      c.Gets s (List.replicate tries (c.url (scenarioPath id)))
        ((c.dumpTimes id title).runIn s).2 := by
  obtain ⟨errors, hread⟩ := c.reads_get (scenarioPath id) ScenarioTimes.shape s
  refine ⟨errors.length + 1, hread.tries_bounds.1, hread.tries_bounds.2, ?_⟩
  have hgets := hread.gets
  unfold dumpTimes
  rw [runIn_bind_ok (runIn_outcome _ s)]
  change c.Gets s _ ((c.times id).runIn s).2 at hgets
  rcases htimes : (c.times id).runIn s with ⟨e | times, t⟩
  · rw [htimes] at hgets
    exact hgets.congr_right rfl rfl
  · rw [htimes] at hgets
    obtain ⟨created, s₁, hcreated, hsent₁, hnetwork₁⟩ :=
      runIn_normalizedTime id "created_at" times.created t
    obtain ⟨updated, s₂, hupdated, hsent₂, hnetwork₂⟩ :=
      runIn_normalizedTime id "updated_at" times.updated s₁
    dsimp only
    rw [runIn_bind_ok hcreated, runIn_bind_ok hupdated]
    exact hgets.congr_right (hsent₂.trans hsent₁) (hnetwork₂.trans hnetwork₁)

theorem gets_dumpConversation (c : Client) (id title : String) (s : Session) :
    ∃ tries, 1 ≤ tries ∧ tries ≤ max 1 c.attempts ∧
      c.Gets s (List.replicate tries (c.url (scenarioPath id ++ "/slack")))
        ((c.dumpConversation id title).runIn s).2 := by
  obtain ⟨errors, hread⟩ := c.reads_get (scenarioPath id ++ "/slack") conversationEnvelope s
  refine ⟨errors.length + 1, hread.tries_bounds.1, hread.tries_bounds.2, ?_⟩
  have hgets := hread.gets
  have hconversation : ((c.conversation id).runIn s).2 =
      ((c.get (scenarioPath id ++ "/slack") conversationEnvelope).runIn s).2 := by
    unfold conversation
    rw [runIn_bind]
    rcases (c.get (scenarioPath id ++ "/slack") conversationEnvelope).runIn s with ⟨e | v, t⟩
    · rfl
    · rfl
  rw [← hconversation] at hgets
  unfold dumpConversation
  rw [runIn_bind_ok (runIn_outcome _ s)]
  rcases ((c.conversation id).runIn s).1 with e | messages
  · exact hgets.congr_right rfl rfl
  · exact hgets

/-- The addresses of a scenario: of its details, and then of its conversation. -/
def scenarioUrls (c : Client) (id : String) (details conversation : ℕ) : List String :=
  List.replicate details (c.url (scenarioPath id)) ++
    List.replicate conversation (c.url (scenarioPath id ++ "/slack"))

/-- **A scenario is asked for its details first, and then for its conversation.** -/
theorem gets_dumpOne (c : Client) (e : ScenarioSummary) (id : String) (s : Session) :
    ∃ details conversation, (1 ≤ details ∧ details ≤ max 1 c.attempts) ∧
      (1 ≤ conversation ∧ conversation ≤ max 1 c.attempts) ∧
      c.Gets s (c.scenarioUrls id details conversation) ((c.dumpOne e id).runIn s).2 := by
  obtain ⟨times, s₁, htimes⟩ := dumpTimes_ok c id (e.title.getD "") s
  obtain ⟨messages, s₂, hconversation⟩ := dumpConversation_ok c id (e.title.getD "") s₁
  obtain ⟨m, hm, hm', hfirst⟩ := c.gets_dumpTimes id (e.title.getD "") s
  obtain ⟨n, hn, hn', hsecond⟩ := c.gets_dumpConversation id (e.title.getD "") s₁
  rw [htimes] at hfirst
  rw [hconversation] at hsecond
  refine ⟨m, n, ⟨hm, hm'⟩, ⟨hn, hn'⟩, ?_⟩
  unfold dumpOne
  rw [runIn_bind_ok htimes, runIn_bind_ok hconversation]
  exact hfirst.append hsecond

/-! ## 2. The walk to one scenario -/

theorem dumpEntries_some_cons (c : Client) (wanted : String) (e : ScenarioSummary)
    (rest : List ScenarioSummary) :
    c.dumpEntries (some wanted) (e :: rest) = match usableId? e with
      | none => do
        warn (.withoutId e.title)
        c.dumpEntries (some wanted) rest
      | some id =>
        if wanted = id then do return [← c.dumpOne e id]
        else c.dumpEntries (some wanted) rest := by
  cases h : usableId? e with
  | none => simp only [dumpEntries, h]
  | some id => simp only [dumpEntries, h]

/-- **The requests of the walk**: those of the scenario that is wanted, if it is listed. -/
theorem gets_dumpEntries_some (c : Client) (wanted : String) (entries : List ScenarioSummary)
    (s : Session) :
    ∃ details conversation, details ≤ max 1 c.attempts ∧ conversation ≤ max 1 c.attempts ∧
      (wanted ∈ entries.filterMap usableId? → 1 ≤ details ∧ 1 ≤ conversation) ∧
      (wanted ∉ entries.filterMap usableId? → details = 0 ∧ conversation = 0) ∧
      c.Gets s (c.scenarioUrls wanted details conversation)
        ((c.dumpEntries (some wanted) entries).runIn s).2 := by
  induction entries generalizing s with
  | nil =>
      refine ⟨0, 0, Nat.zero_le _, Nat.zero_le _, ?_, ?_, ?_⟩
      · intro h
        cases h
      · intro _
        exact ⟨rfl, rfl⟩
      · exact .nil rfl rfl
  | cons e rest ih =>
      rw [dumpEntries_some_cons]
      cases hid : usableId? e with
      | none =>
          rw [List.filterMap_cons_none hid]
          obtain ⟨m, n, hm, hn, hlisted, hunlisted, hgets⟩ := ih (s.warn (.withoutId e.title))
          exact ⟨m, n, hm, hn, hlisted, hunlisted, hgets.congr_left rfl rfl⟩
      | some id =>
          rw [List.filterMap_cons_some hid]
          by_cases hwanted : wanted = id
          · -- the walk ends here
            subst hwanted
            obtain ⟨d, s₁, hone, -⟩ := dumpOne_ok c e wanted s
            obtain ⟨m, n, ⟨hm, hm'⟩, ⟨hn, hn'⟩, hgets⟩ := c.gets_dumpOne e wanted s
            rw [hone] at hgets
            refine ⟨m, n, hm', hn', fun _ => ⟨hm, hn⟩, ?_, ?_⟩
            · intro hnot
              exact absurd List.mem_cons_self hnot
            · simp only [if_true]
              rw [runIn_bind_ok hone]
              exact hgets
          · obtain ⟨m, n, hm, hn, hlisted, hunlisted, hgets⟩ := ih s
            simp only [List.mem_cons, hwanted, false_or]
            exact ⟨m, n, hm, hn, hlisted, hunlisted, hgets⟩

/-- **Two walks in front of a steady peer**: the one for a single scenario makes the first of
the dumps of this scenario that the other one makes.  The induction is on the listing; the
sessions of the two walks drift apart, and stay steady. -/
theorem dumpEntries_some_eq (c : Client) (wanted : String) (peer : Route → Reaction)
    (entries : List ScenarioSummary) {s s' u : Session} (hs : s.network.Steady peer)
    (hu : u.network.Steady peer)
    {dumps : List ScenarioDump} (hall : (c.dumpEntries none entries).runIn s = (.ok dumps, s')) :
    ((c.dumpEntries (some wanted) entries).runIn u).1 =
      .ok (dumps.find? fun d => d.id == some wanted).toList := by
  induction entries generalizing s s' u dumps with
  | nil =>
      obtain rfl : [] = dumps := Except.ok.inj (congrArg Prod.fst hall)
      rfl
  | cons e rest ih =>
      rw [dumpEntries_none_cons] at hall
      rw [dumpEntries_some_cons]
      cases hid : usableId? e with
      | none =>
          rw [hid] at hall
          exact ih (s := s.warn _) (u := u.warn _) hs hu hall
      | some id =>
          have hea : e.id = some id := eq_some_of_usableId? hid
          obtain ⟨d, s₁, hone, hdid, -⟩ := dumpOne_ok c e id s
          obtain ⟨ds, s₂, hwalk, -⟩ := dumpEntries_none_ok c rest s₁
          simp only [hid, runIn_bind_ok hone, runIn_bind_ok hwalk, runIn_pure] at hall
          obtain rfl : d :: ds = dumps := Except.ok.inj (congrArg Prod.fst hall)
          by_cases hwanted : wanted = id
          · -- both walks dump the scenario, and the peer answers both alike
            subst hwanted
            obtain ⟨d', u₁, hone', -, -⟩ := dumpOne_ok c e wanted u
            obtain ⟨hsame, -⟩ := (c.within_dumpOne (Set.subset_univ _) e).decided s u
              (s.network.closed_univ) (hs.agreeOn hu _)
            rw [hone, hone'] at hsame
            obtain rfl : d = d' := Except.ok.inj hsame
            rw [List.find?_cons_of_pos (by simp [hdid, hea])]
            simp only [if_true]
            rw [runIn_bind_ok hone']
            rfl
          · obtain ⟨m, n, -, -, hgets⟩ := c.gets_dumpOne e id s
            rw [hone] at hgets
            have hother : ¬ id = wanted := fun h => hwanted h.symm
            rw [List.find?_cons_of_neg (by simp [hdid, hea, hother])]
            simp only [if_neg hwanted]
            exact ih (hs.later hgets.later) hu hwalk

/-! ## 3. Dumps -/

theorem gets_list (c : Client) (s : Session) :
    ∃ tries, 1 ≤ tries ∧ tries ≤ max 1 c.attempts ∧
      c.Gets s (List.replicate tries (c.url scenarios)) (c.list.runIn s).2 := by
  obtain ⟨errors, hread⟩ := c.reads_get scenarios Json.Shape.value s
  refine ⟨errors.length + 1, hread.tries_bounds.1, hread.tries_bounds.2, ?_⟩
  rw [runIn_list (t := ((c.get scenarios Json.Shape.value).runIn s).2) rfl]
  exact hread.gets

theorem wanted?_of_blank {filter : String} (h : Text.trimmed filter = "") :
    wanted? (some filter) = none := by
  simp [wanted?, h]

theorem wanted?_of_ne {filter : String} (h : Text.trimmed filter ≠ "") :
    wanted? (some filter) = some (Text.trimmed filter) := by
  simp [wanted?, h]

theorem dump_runIn_of_error {c : Client} {s t : Session} {e : ServiceError}
    (h : c.list.runIn s = (.error e, t)) (filter : Option String) :
    (c.dump filter).runIn s = (.error e, t) := by
  unfold dump
  exact runIn_bind_error h

theorem dump_some_runIn {c : Client} {s t : Session} {entries : List ScenarioSummary}
    {filter : String} (hfilter : Text.trimmed filter ≠ "")
    (h : c.list.runIn s = (.ok entries, t)) : (c.dump (some filter)).runIn s =
      (c.dumpEntries (some (Text.trimmed filter)) entries).runIn t := by
  unfold dump
  rw [wanted?_of_ne hfilter, runIn_bind_ok h]

/-- **A dump of one scenario is that scenario's part of the dump of all**, in front of a peer
that answers each route always in the same way.  A blank filter makes no difference at all.
Any other filter, without the blanks around it, names a scenario: the dump is the first one of
this scenario, or empty, and fails if the other one fails.  It sends requests to the listing,
and after it only to the details and the conversation of this scenario: to neither if the
scenario is not listed, and however often it is listed, not more often than a single reading
allows.  The log of the network shows a trail for each of these requests, and where the replies
lead nowhere just these requests. -/
theorem dump_selects_first (c : Client) (peer : Route → Reaction) (filter : String) :
    let s := Session.ofScript fun route _ => peer route
    let wanted := Text.trimmed filter
    let limit := max 1 c.attempts
    let all := (c.dump none).runIn s
    let one := (c.dump (some filter)).runIn s
    let listed := ∃ entries, (c.list.runIn s).1 = .ok entries ∧ wanted ∈ entries.filterMap usableId?
    (wanted = "" → one = all) ∧
    (wanted ≠ "" →
      one.1 = all.1.map (fun dumps => (dumps.find? fun d => d.id == some wanted).toList) ∧
      ∃ listing details conversation,
        let urls := List.replicate listing (c.url scenarios) ++
          c.scenarioUrls wanted details conversation
        c.Gets s urls one.2 ∧ c.Logs s.network urls one.2.network ∧
        (1 ≤ listing ∧ listing ≤ limit) ∧ details ≤ limit ∧ conversation ≤ limit ∧
        (listed → 1 ≤ details ∧ 1 ≤ conversation) ∧
        (¬ listed → details = 0 ∧ conversation = 0)) := by
  intro s wanted limit all one listed
  have hblank : wanted = "" → one = all := by
    intro hempty
    change (c.dump (some filter)).runIn s = (c.dump none).runIn s
    unfold dump
    rw [wanted?_of_blank hempty]
    rfl
  refine ⟨hblank, ?_⟩
  intro hne
  obtain ⟨listing, hlower, hupper, hlisting⟩ := c.gets_list s
  have hsteady : s.network.Steady peer := .ofScript peer
  rcases hlist : c.list.runIn s with ⟨e | entries, t⟩
  · -- without a listing, both dumps fail alike
    rw [hlist] at hlisting
    have hall : all = (.error e, t) := dump_runIn_of_error hlist none
    have hone : one = (.error e, t) := dump_runIn_of_error hlist (some filter)
    have hunlisted : ¬ listed := by
      rintro ⟨entries, hentries, -⟩
      rw [hlist] at hentries
      cases hentries
    have hgets := hlisting.append (.nil rfl rfl)
    rw [hone, hall]
    refine ⟨rfl, listing, 0, 0, hgets, hgets.logs, ⟨hlower, hupper⟩, Nat.zero_le _,
      Nat.zero_le _, ?_, ?_⟩
    · intro h
      exact absurd h hunlisted
    · intro _
      exact ⟨rfl, rfl⟩
  · rw [hlist] at hlisting
    obtain ⟨dumps, t', hwalk, -⟩ := dumpEntries_none_ok c entries t
    have hsteady' : t.network.Steady peer := hsteady.later hlisting.later
    have hall : all = (.ok dumps, t') := (dump_none_runIn hlist).trans hwalk
    have hone : one = (c.dumpEntries (some wanted) entries).runIn t := dump_some_runIn hne hlist
    have hlisted : listed ↔ wanted ∈ entries.filterMap usableId? := by
      constructor
      · rintro ⟨entries', hentries, hmem⟩
        rw [hlist] at hentries
        obtain rfl := Except.ok.inj hentries
        exact hmem
      · intro hmem
        exact ⟨entries, by rw [hlist], hmem⟩
    obtain ⟨details, conversation, hdetails, hconversation, hsome, hnone, hwalked⟩ :=
      c.gets_dumpEntries_some wanted entries t
    have hgets := hlisting.append hwalked
    rw [hone, hall, hlisted]
    exact ⟨c.dumpEntries_some_eq wanted peer entries hsteady' hsteady' hwalk,
      listing, details, conversation, hgets, hgets.logs, ⟨hlower, hupper⟩, hdetails,
      hconversation, hsome, hnone⟩

/-! ### The second of two scenarios -/

/-- A peer that lists two scenarios, and one of them twice.  The conversations cannot be had. -/
def listingTwice : Route → Reaction := fun route =>
  if route.address = "http://a/hackathon/scenarios" then
    sampleReply 200 ("[\x7b\"scenario_id\":\"a\"\x7d,\x7b\"scenario_id\":\"b\"\x7d," ++
      "\x7b\"scenario_id\":\"b\"\x7d]")
  else if route.address = "http://a/hackathon/scenarios/b" then
    sampleReply 200 "\x7b\"created_at\":\"2024-01-01T10:00:00Z\"\x7d"
  else sampleReply 404 ""

/-- The scenario is dumped once, with one request for its details and two for its conversation. -/
theorem dump_selects_second_of_two :
    ∃ d t, (sampleClient.dump (some " b ")).runIn (.ofScript fun route _ => listingTwice route) =
        (.ok [d], t) ∧ d.id = some "b" ∧
      t.sent.map (·.url) = ["http://a/hackathon/scenarios", "http://a/hackathon/scenarios/b",
        "http://a/hackathon/scenarios/b/slack", "http://a/hackathon/scenarios/b/slack"] ∧
      ∃ all, ((sampleClient.dump none).runIn (.ofScript fun route _ => listingTwice route)).1 =
        .ok all ∧ all.length = 3 ∧ (all.find? fun d => d.id == some "b") = some d := by
  have hcount : ((sampleClient.dump (some " b ")).runIn
      (.ofScript fun route _ => listingTwice route)).1.toOption.map
        (fun dumps => dumps.map (·.id)) = some [some "b"] := by decide +kernel
  have hcount' : ((sampleClient.dump none).runIn
      (.ofScript fun route _ => listingTwice route)).1.toOption.map List.length = some 3 := by
    decide +kernel
  have hsent : ((sampleClient.dump (some " b ")).runIn
      (.ofScript fun route _ => listingTwice route)).2.sent.map (·.url) =
        ["http://a/hackathon/scenarios", "http://a/hackathon/scenarios/b",
          "http://a/hackathon/scenarios/b/slack", "http://a/hackathon/scenarios/b/slack"] := by
    decide +kernel
  obtain ⟨hfirst, -⟩ := (dump_selects_first sampleClient listingTwice " b ").2 (by decide)
  rcases hall : (sampleClient.dump none).runIn (.ofScript fun route _ => listingTwice route) with
    ⟨e | all, u⟩
  · rw [hall] at hcount'
    cases hcount'
  · rcases hone : (sampleClient.dump (some " b ")).runIn
        (.ofScript fun route _ => listingTwice route) with ⟨e | dumps, t⟩
    · rw [hone] at hcount
      cases hcount
    · rw [hone] at hcount hsent
      rw [hall] at hcount'
      rw [hone, hall] at hfirst
      obtain ⟨d, rfl, hid⟩ := List.map_eq_singleton_iff.mp (Option.some.inj hcount)
      have htrimmed : Text.trimmed " b " = "b" := by decide
      rw [htrimmed] at hfirst
      have hfound : [d] = (all.find? fun d => d.id == some "b").toList := Except.ok.inj hfirst
      refine ⟨d, t, rfl, hid, hsent, all, rfl, Option.some.inj hcount', ?_⟩
      exact Option.toList_eq_singleton_iff.mp hfound.symm

end Client
end IncidentDigest
