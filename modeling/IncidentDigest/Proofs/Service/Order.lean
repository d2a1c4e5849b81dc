import IncidentDigest.Proofs.Record.Fields
import IncidentDigest.Proofs.Service.Tries
import IncidentDigest.Service.Collect

/-!
# The requests of a download, in order

A download reads the listing, and after it the details of each listed scenario that has an id,
one after another.  It ends with the listing if that is none, and with the first scenario that
cannot be had.  What it sends are the requests of its readings, in this order, and no others.
-/

namespace IncidentDigest.Client

open Call Http

/-! ## 1. Listings -/

/-- The entries of a listing, if it is one. -/
def entriesOf (c : Client) : Json → Except ServiceError (List ScenarioSummary)
  | .arr items =>
    match items.mapM ScenarioSummary.ofJson? with
    | some entries => .ok entries
    | none => .error (.decode (c.url scenarios))
  | _ => .error (.unexpectedShape (c.url scenarios))

theorem runIn_list {c : Client} {s t : Session} {listing : Except ServiceError Json}
    (h : (c.get scenarios Json.Shape.value).runIn s = (listing, t)) :
    c.list.runIn s = (listing.bind c.entriesOf, t) := by
  cases listing with
  | error e => exact runIn_bind_error h
  | ok v =>
      unfold list
      rw [runIn_bind_ok h]
      cases v with
      | arr items =>
          simp only [Except.bind, entriesOf]
          cases items.mapM ScenarioSummary.ofJson? with
          | none => rfl
          | some entries => rfl
      | _ => rfl

theorem entriesOf_eq_unexpectedShape (c : Client) {v : Json} (h : ∀ items, v ≠ .arr items) :
    c.entriesOf v = .error (.unexpectedShape (c.url scenarios)) := by
  cases v with
  | arr items => exact absurd rfl (h items)
  | _ => rfl

theorem entriesOf_eq_decode (c : Client) {items : List Json} {item : Json} (hitem : item ∈ items)
    (h : ∀ ms, item ≠ .obj ms) : c.entriesOf (.arr items) = .error (.decode (c.url scenarios)) := by
  have hnone : ScenarioSummary.ofJson? item = none := by
    cases item with
    | obj ms => exact absurd rfl (h ms)
    | _ => rfl
  simp only [entriesOf, mapM_eq_none hitem hnone]

/-- A list of objects that has been read is a listing. -/
theorem exists_entriesOf (c : Client) {bytes : List UInt8} {items : List Json}
    (hread : Json.Shape.readBytes? Json.Shape.value bytes = some (.arr items))
    (h : ∀ item ∈ items, ∃ ms, item = .obj ms) :
    ∃ entries, items.mapM ScenarioSummary.ofJson? = some entries ∧
      c.entriesOf (.arr items) = .ok entries := by
  have hitem : ∀ item ∈ items, ∃ entry, ScenarioSummary.ofJson? item = some entry := by
    intro item hmem
    obtain ⟨ms, rfl⟩ := h item hmem
    exact ScenarioSummary.exists_ofJson? (Json.sortedKeys_of_readBytes? hread hmem)
  obtain ⟨entries, hentries, -⟩ := exists_mapM_eq_some hitem
  refine ⟨entries, hentries, ?_⟩
  simp only [entriesOf, hentries]

/-! ## 2. Details -/

/-- The details of some scenarios are read one after another, up to the first that cannot be
had.  The log says which have been tried, and how often. -/
inductive Downloads (c : Client) : Session → List String → List (String × ℕ) →
    Except ServiceError (List Json) → Session → Prop where
  | done {s : Session} : Downloads c s [] [] (.ok []) s
  | failed {s t : Session} {id : String} {ids : List String} {errors : List ServiceError}
      {e : ServiceError}
      (hread : c.Reads (scenarioPath id) Json.Shape.value s errors (.error e) t) :
      Downloads c s (id :: ids) [(id, errors.length + 1)] (.error e) t
  | next {s t u : Session} {id : String} {ids : List String} {errors : List ServiceError}
      {body : Json} {log : List (String × ℕ)} {result : Except ServiceError (List Json)}
      (hread : c.Reads (scenarioPath id) Json.Shape.value s errors (.ok body) t)
      (hrest : Downloads c t ids log result u) :
      Downloads c s (id :: ids) ((id, errors.length + 1) :: log) (result.map (body :: ·)) u

/-- The addresses that a log stands for. -/
def detailUrls (c : Client) (log : List (String × ℕ)) : List String :=
  log.flatMap fun entry => List.replicate entry.2 (c.url (scenarioPath entry.1))

theorem runIn_payload {c : Client} {id : String} {s t : Session}
    {result : Except ServiceError Json}
    (h : (c.get (scenarioPath id) Json.Shape.value).runIn s = (result, t)) :
    (c.payload id).runIn s = (result.map ScenarioPayload.mk, t) := by
  unfold payload
  cases result with
  | error e => exact runIn_bind_error h
  | ok body => rw [runIn_bind_ok h]; rfl

/-- **The details of some scenarios**, by induction on their ids. -/
theorem downloads_payloads (c : Client) (ids : List String) (s : Session) :
    ∃ log result t, c.Downloads s ids log result t ∧
      (c.payloads ids).runIn s = (result.map (List.map ScenarioPayload.mk), t) := by
  induction ids generalizing s with
  | nil => exact ⟨[], .ok [], s, .done, rfl⟩
  | cons id ids ih =>
      obtain ⟨errors, hread⟩ := c.reads_get (scenarioPath id) Json.Shape.value s
      rcases hget : (c.get (scenarioPath id) Json.Shape.value).runIn s with ⟨e | body, t⟩
      · rw [hget] at hread
        refine ⟨_, .error e, t, .failed hread, ?_⟩
        rw [payloads, runIn_bind_error (runIn_payload hget)]
        rfl
      · rw [hget] at hread
        obtain ⟨log, result, u, hrest, hrun⟩ := ih t
        refine ⟨_, _, u, .next hread hrest, ?_⟩
        rw [payloads, runIn_bind_ok (runIn_payload hget)]
        cases result with
        | error e => rw [runIn_bind_error hrun]; rfl
        | ok bodies => rw [runIn_bind_ok hrun]; rfl

section
variable {c : Client} {s t : Session} {ids : List String} {log : List (String × ℕ)}
  {result : Except ServiceError (List Json)}

theorem Downloads.gets (h : c.Downloads s ids log result t) : c.Gets s (c.detailUrls log) t := by
  induction h with
  | done => exact .nil rfl rfl
  | failed hread =>
      have hgets := hread.gets
      simpa [detailUrls] using hgets
  | next hread hrest ih => exact hread.gets.append ih

theorem Downloads.tries_le (h : c.Downloads s ids log result t) :
    ∀ entry ∈ log, 1 ≤ entry.2 ∧ entry.2 ≤ max 1 c.attempts := by
  induction h with
  | done =>
      intro entry hentry
      cases hentry
  | failed hread =>
      intro entry hentry
      obtain rfl := List.mem_singleton.mp hentry
      exact hread.tries_bounds
  | next hread hrest ih =>
      intro entry hentry
      rcases List.mem_cons.mp hentry with rfl | hentry
      · exact hread.tries_bounds
      · exact ih entry hentry

/-- A download that succeeds has a body for each id. -/
theorem Downloads.of_ok (h : c.Downloads s ids log result t) {bodies : List Json}
    (hok : result = .ok bodies) : log.map Prod.fst = ids ∧ bodies.length = ids.length := by
  induction h generalizing bodies with
  | done =>
      obtain rfl := Except.ok.inj hok
      exact ⟨rfl, rfl⟩
  | failed hread => cases hok
  | @next s t u id ids errors body log result hread hrest ih =>
      cases result with
      | error e => cases hok
      | ok rest =>
          obtain rfl : body :: rest = bodies := Except.ok.inj hok
          obtain ⟨hlog, hlength⟩ := ih rfl
          rw [List.map_cons, hlog, List.length_cons, List.length_cons, hlength]
          exact ⟨rfl, rfl⟩

/-- A download that fails has used up all tries of the last id that it has come to. -/
theorem Downloads.of_error (h : c.Downloads s ids log result t) {e : ServiceError}
    (herror : result = .error e) :
    ∃ before id after errors reached, ids = before ++ id :: after ∧
      log.map Prod.fst = before ++ [id] ∧
      c.Reads (scenarioPath id) Json.Shape.value reached errors (.error e) t ∧
      errors.length + 1 = max 1 c.attempts := by
  induction h with
  | done => cases herror
  | @failed s t id ids errors e' hread =>
      obtain rfl := Except.error.inj herror
      exact ⟨[], id, ids, errors, s, rfl, rfl, hread, hread.tries_of_error⟩
  | @next s t u id ids errors body log result hread hrest ih =>
      cases result with
      | ok rest => cases herror
      | error e' =>
          obtain rfl := Except.error.inj herror
          obtain ⟨before, last, after, errors', reached, rfl, hlog, hlast, hlength⟩ := ih rfl
          refine ⟨id :: before, last, after, errors', reached, rfl, ?_, hlast, hlength⟩
          rw [List.map_cons, hlog]
          rfl

end

/-! ## 3. Downloads -/

/-- What has been read of an address stands in the bytes of a reply. -/
theorem Reads.readBytes? {c : Client} {path : String} {s t : Session}
    {errors : List ServiceError} {v : Json}
    (h : c.Reads path Json.Shape.value s errors (.ok v) t) :
    ∃ bytes, Json.Shape.readBytes? Json.Shape.value bytes = some v := by
  obtain ⟨r, -, hgives⟩ := c.outcomes_eq_ok_iff.mp h.last
  obtain ⟨reaction, -, hvalue⟩ := Delivery.ended_of_gives hgives
  exact Reaction.readBytes?_of_gives hvalue

/-- **A download goes through the listing in order.**  It reads the listing first, and sends
nothing else if the listing fails, or is no list of objects.  Otherwise it reads the details of
each entry that has an id, in the order of the listing, the tries of one before those of the
next.  It comes to one payload for each of them, or stops at the first one all of whose tries
fail, with the last failure of that one.

What is sent is so many requests to the listing, and after them those to the details.  The log
of the network shows a trail for each of them, and where the replies lead nowhere just these
requests. -/
theorem fetchAll_in_order (c : Client) (s : Session) :
    ∃ errors listing listed, c.Reads scenarios Json.Shape.value s errors listing listed ∧
      c.Logs s.network (List.replicate (errors.length + 1) (c.url scenarios)) listed.network ∧
      (∀ e, listing = .error e → c.fetchAll.runIn s = (.error e, listed)) ∧
      (∀ v, listing = .ok v → (∀ items, v ≠ .arr items) →
        c.fetchAll.runIn s = (.error (.unexpectedShape (c.url scenarios)), listed)) ∧
      (∀ items, listing = .ok (.arr items) → (∃ item ∈ items, ∀ ms, item ≠ .obj ms) →
        c.fetchAll.runIn s = (.error (.decode (c.url scenarios)), listed)) ∧
      ∀ items, listing = .ok (.arr items) → (∀ item ∈ items, ∃ ms, item = .obj ms) →
        ∃ entries log result t, items.mapM ScenarioSummary.ofJson? = some entries ∧
          let ids := entries.filterMap usableId?
          let urls := List.replicate (errors.length + 1) (c.url scenarios) ++ c.detailUrls log
          c.fetchAll.runIn s = (result.map (List.map ScenarioPayload.mk), t) ∧
          c.Downloads listed ids log result t ∧
          c.Gets s urls t ∧ c.Logs s.network urls t.network ∧
          (∀ entry ∈ log, 1 ≤ entry.2 ∧ entry.2 ≤ max 1 c.attempts) ∧
          (∀ bodies, result = .ok bodies →
            log.map Prod.fst = ids ∧ bodies.length = ids.length) ∧
          ∀ e, result = .error e → ∃ before id after errors' reached,
            ids = before ++ id :: after ∧ log.map Prod.fst = before ++ [id] ∧
            c.Reads (scenarioPath id) Json.Shape.value reached errors' (.error e) t ∧
            errors'.length + 1 = max 1 c.attempts := by
  obtain ⟨errors, hread⟩ := c.reads_get scenarios Json.Shape.value s
  rcases hget : (c.get scenarios Json.Shape.value).runIn s with ⟨listing, listed⟩
  rw [hget] at hread
  have hlist := runIn_list hget
  refine ⟨errors, listing, listed, hread, hread.gets.logs, ?_, ?_, ?_, ?_⟩
  · rintro e rfl
    exact runIn_bind_error hlist
  · rintro v rfl hshape
    have hnone := c.entriesOf_eq_unexpectedShape hshape
    rw [Except.bind, hnone] at hlist
    exact runIn_bind_error hlist
  · rintro items rfl ⟨item, hitem, hobject⟩
    have hnone := c.entriesOf_eq_decode hitem hobject
    rw [Except.bind, hnone] at hlist
    exact runIn_bind_error hlist
  · rintro items rfl hobjects
    obtain ⟨bytes, hbytes⟩ := hread.readBytes?
    obtain ⟨entries, hentries, hlisting⟩ := c.exists_entriesOf hbytes hobjects
    rw [Except.bind, hlisting] at hlist
    obtain ⟨log, result, t, hdownloads, hrun⟩ :=
      c.downloads_payloads (entries.filterMap usableId?) listed
    have hgets := hread.gets.append hdownloads.gets
    refine ⟨entries, log, result, t, hentries, ?_, hdownloads, hgets, hgets.logs,
      hdownloads.tries_le, fun bodies => hdownloads.of_ok, fun e => hdownloads.of_error⟩
    unfold fetchAll
    rw [runIn_bind_ok hlist]
    exact hrun

/-! ### Two scenarios -/

/-- A listing of two scenarios, with an entry without an id between them. -/
def twoListed : String :=
  "[\x7b\"scenario_id\":\"a\"\x7d,\x7b\x7d,\x7b\"scenario_id\":\"b\"\x7d]"

/-- Each address is busy at first and answers the second request. -/
theorem fetchAll_in_order_two_scenarios :
    let s := Session.ofScript (busyOnce twoListed)
    ∃ errors log ps t, sampleClient.fetchAll.runIn s = (.ok ps, t) ∧ ps.length = 2 ∧
      log.length = 2 ∧
      sampleClient.Gets s (List.replicate (errors + 1) (sampleClient.url scenarios) ++
        sampleClient.detailUrls log) t ∧
      t.sent.map (·.url) = ["http://a/hackathon/scenarios", "http://a/hackathon/scenarios",
        "http://a/hackathon/scenarios/a", "http://a/hackathon/scenarios/a",
        "http://a/hackathon/scenarios/b", "http://a/hackathon/scenarios/b"] ∧
      t.network.asked = t.sent.map fun x => ⟨.get, x.url⟩ := by
  intro s
  have hcount : (sampleClient.fetchAll.runIn s).1.toOption.map List.length = some 2 := by
    decide +kernel
  have hsent : (sampleClient.fetchAll.runIn s).2.sent.map (·.url) =
      ["http://a/hackathon/scenarios", "http://a/hackathon/scenarios",
        "http://a/hackathon/scenarios/a", "http://a/hackathon/scenarios/a",
        "http://a/hackathon/scenarios/b", "http://a/hackathon/scenarios/b"] := by decide +kernel
  have hasked : (sampleClient.fetchAll.runIn s).2.network.asked =
      (sampleClient.fetchAll.runIn s).2.sent.map fun x => ⟨.get, x.url⟩ := by decide +kernel
  obtain ⟨errors, listing, listed, -, -, hfailed, hshape, hitems, hlisted⟩ :=
    fetchAll_in_order sampleClient s
  -- a listing that is none of the kind would have ended the download
  have hended : ∀ e t, sampleClient.fetchAll.runIn s ≠ (.error e, t) := by
    intro e t hrun
    rw [hrun] at hcount
    cases hcount
  rcases hlisting : listing with e | v
  · exact absurd (hfailed e hlisting) (hended _ _)
  · obtain ⟨items, rfl⟩ : ∃ items, v = .arr items := by
      by_contra hnone
      exact hended _ _ (hshape v hlisting fun items h => hnone ⟨items, h⟩)
    have hobjects : ∀ item ∈ items, ∃ ms, item = .obj ms := by
      intro item hitem
      by_contra hnone
      exact hended _ _ (hitems items hlisting ⟨item, hitem, fun ms h => hnone ⟨ms, h⟩⟩)
    obtain ⟨entries, log, result, t, -, hrun, -, hgets, -, -, hok, -⟩ :=
      hlisted items hlisting hobjects
    rcases result with e | bodies
    · exact absurd hrun (hended _ _)
    · obtain ⟨hids, hlength⟩ := hok bodies rfl
      rw [hrun] at hcount hsent hasked
      have hbodies : (bodies.map ScenarioPayload.mk).length = 2 := Option.some.inj hcount
      refine ⟨errors.length, log, bodies.map ScenarioPayload.mk, t, hrun, hbodies, ?_, hgets,
        hsent, hasked⟩
      rw [List.length_map] at hbodies
      rw [← hbodies, hlength, ← hids, List.length_map]

end IncidentDigest.Client
