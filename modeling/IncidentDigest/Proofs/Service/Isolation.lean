import IncidentDigest.Proofs.Service.Requests
import IncidentDigest.Service.Collect

/-!
# Scenarios of a dump do not disturb one another

A dump walks the listing entry by entry.  Whatever goes wrong with one scenario stays
with it: the walk never fails, it makes one dump for each entry that has an id, and
the dump of a scenario is decided by what its own routes, and those that they lead to,
have ahead.

The second part compares two runs.  Its invariant is that the two sessions agree on
the routes that the scenario in question reaches; an entry of another scenario keeps it
because it stays within what it reaches itself, and the scenario's own entry keeps it
because it makes the same requests in both runs.
-/

namespace IncidentDigest.Client

open Call

/-! ## 1. One scenario -/

theorem within_normalizedTime (R : Set Http.Route) (id field : String)
    (raw : Option String) : (normalizedTime id field raw).Within R := by
  unfold normalizedTime
  split
  · exact within_pure R _
  · exact (within_warn R _).bind fun _ => within_pure R _

section
variable (c : Client) {R : Set Http.Route} {id : String}

theorem within_dumpTimes (hR : c.scenarioRoutes id ⊆ R) (title : String) :
    (c.dumpTimes id title).Within R := by
  refine (c.within_times hR).outcome.bind fun result => ?_
  rcases result with e | times
  · exact (within_warn _ _).bind fun _ => within_pure _ _
  · refine (within_normalizedTime _ id "created_at" times.created).bind fun created => ?_
    exact (within_normalizedTime _ id "updated_at" times.updated).bind fun updated =>
      within_pure _ _

theorem within_dumpConversation (hR : c.scenarioRoutes id ⊆ R) (title : String) :
    (c.dumpConversation id title).Within R := by
  refine (c.within_conversation hR).outcome.bind fun result => ?_
  rcases result with e | messages
  · exact (within_warn _ _).bind fun _ => within_pure _ _
  · exact within_pure _ _

theorem within_dumpOne (hR : c.scenarioRoutes id ⊆ R) (s : ScenarioSummary) :
    (c.dumpOne s id).Within R :=
  (c.within_dumpTimes hR (s.title.getD "")).bind fun _ =>
    (c.within_dumpConversation hR (s.title.getD "")).bind fun _ => within_pure _ _

end

/-! ### No failure leaves a scenario -/

theorem normalizedTime_ok (id field : String) (raw : Option String) (s : Session) :
    ∃ t s', (normalizedTime id field raw).runIn s = (.ok t, s') := by
  unfold normalizedTime
  split
  · exact ⟨_, _, rfl⟩
  · exact ⟨_, _, rfl⟩

theorem dumpTimes_ok (c : Client) (id title : String) (s : Session) :
    ∃ times s', (c.dumpTimes id title).runIn s = (.ok times, s') := by
  unfold dumpTimes
  rw [runIn_bind_ok (runIn_outcome _ s)]
  rcases ((c.times id).runIn s).1 with e | times
  · exact ⟨_, _, rfl⟩
  · obtain ⟨created, s₁, hcreated⟩ :=
      normalizedTime_ok id "created_at" times.created ((c.times id).runIn s).2
    obtain ⟨updated, s₂, hupdated⟩ := normalizedTime_ok id "updated_at" times.updated s₁
    refine ⟨(created, updated), s₂, ?_⟩
    rw [runIn_bind_ok hcreated, runIn_bind_ok hupdated, runIn_pure]

theorem dumpConversation_ok (c : Client) (id title : String) (s : Session) :
    ∃ messages s', (c.dumpConversation id title).runIn s = (.ok messages, s') := by
  unfold dumpConversation
  rw [runIn_bind_ok (runIn_outcome _ s)]
  rcases ((c.conversation id).runIn s).1 with e | messages
  · exact ⟨_, _, rfl⟩
  · exact ⟨_, _, rfl⟩

/-- **A scenario is always dumped**, under the id and the title of its entry. -/
theorem dumpOne_ok (c : Client) (e : ScenarioSummary) (id : String) (s : Session) :
    ∃ d s', (c.dumpOne e id).runIn s = (.ok d, s') ∧ d.id = e.id ∧ d.title = e.title := by
  obtain ⟨⟨started, updated⟩, s₁, htimes⟩ := dumpTimes_ok c id (e.title.getD "") s
  obtain ⟨messages, s₂, hconversation⟩ := dumpConversation_ok c id (e.title.getD "") s₁
  refine ⟨⟨e.id, e.title, started, updated, messages⟩, s₂, ?_, rfl, rfl⟩
  unfold dumpOne
  rw [runIn_bind_ok htimes, runIn_bind_ok hconversation, runIn_pure]

/-! ## 2. All scenarios -/

theorem dumpEntries_none_cons (c : Client) (e : ScenarioSummary)
    (rest : List ScenarioSummary) :
    c.dumpEntries none (e :: rest) = match usableId? e with
      | none => do
        warn (.withoutId e.title)
        c.dumpEntries none rest
      | some id => do
        let d ← c.dumpOne e id
        return d :: (← c.dumpEntries none rest) := by
  cases h : usableId? e with
  | none => simp only [dumpEntries, h]
  | some id => simp only [dumpEntries, h]

/-- The entries that a dump has to make: those with an id. -/
def dumped (entries : List ScenarioSummary) : List ScenarioSummary :=
  entries.filter fun e => (usableId? e).isSome

/-- **A dump of all scenarios never fails** once the listing is there, and makes one
dump for each entry with an id, in the order of the listing. -/
theorem dumpEntries_none_ok (c : Client) (entries : List ScenarioSummary) (s : Session) :
    ∃ dumps s', (c.dumpEntries none entries).runIn s = (.ok dumps, s') ∧
      dumps.map (fun d => (d.id, d.title)) = (dumped entries).map fun e => (e.id, e.title) := by
  induction entries generalizing s with
  | nil => exact ⟨[], s, rfl, rfl⟩
  | cons e rest ih =>
      rw [dumpEntries_none_cons]
      rcases hid : usableId? e with _ | id
      · obtain ⟨dumps, s', hrun, hmap⟩ := ih (s.warn (.withoutId e.title))
        refine ⟨dumps, s', hrun, ?_⟩
        simpa [dumped, hid] using hmap
      · obtain ⟨d, s₁, hone, hdid, hdtitle⟩ := dumpOne_ok c e id s
        obtain ⟨dumps, s₂, hrun, hmap⟩ := ih s₁
        refine ⟨d :: dumps, s₂, ?_, ?_⟩
        · simp only [runIn_bind_ok hone, runIn_bind_ok hrun, runIn_pure]
        · simpa [dumped, hid, hdid, hdtitle] using hmap

/-! ## 3. Two runs -/

theorem eq_some_of_usableId? {e : ScenarioSummary} {id : String} (h : usableId? e = some id) :
    e.id = some id := by
  unfold usableId? at h
  exact (Option.filter_eq_some_iff.mp h).1

theorem dump_none_runIn {c : Client} {s s' : Session} {entries : List ScenarioSummary}
    (h : c.list.runIn s = (.ok entries, s')) :
    (c.dump none).runIn s = (c.dumpEntries none entries).runIn s' := by
  unfold dump
  rw [runIn_bind_ok h]
  rfl

end IncidentDigest.Client
