import IncidentDigest.Proofs.Service.Failures
import IncidentDigest.Proofs.Service.Tries

/-!
# What a reading request takes from the network

A reading request passes over the tries that give no value, as long as it has some left, and
ends with the first one that gives a value; what comes after it is left to later requests.  So
what a collection comes to is decided by the network alone: `downloaded_of_payloads` says so for
a download, id by id.
-/

namespace IncidentDigest

open Http

variable {α : Type}

/-! ## 1. First values -/

namespace Http

/-- The first of some sendings of a request that gives a value, and the network after it. -/
def Network.FirstGiven (n : Network) (r : Request) (tries : ℕ) (shape : Json.Shape α) (v : α)
    (m : Network) : Prop :=
  ∃ k < tries, (n.delivery r k).gives shape = some v ∧
    (∀ j < k, (n.delivery r j).gives shape = none) ∧ m = n.afterSends r (k + 1)

theorem Network.FirstGiven.later {n m : Network} {r : Request} {tries : ℕ}
    {shape : Json.Shape α} {v : α} (h : n.FirstGiven r tries shape v m) : n.Later m := by
  obtain ⟨k, -, -, -, rfl⟩ := h
  exact n.later_afterSends r (k + 1)

/-- A value that is given is given by a reaction that was ahead of some route. -/
theorem Network.FirstGiven.gives {n m : Network} {r : Request} {tries : ℕ}
    {shape : Json.Shape α} {v : α} (h : n.FirstGiven r tries shape v m) :
    ∃ route k, (n.upcoming route k).gives shape = some v := by
  obtain ⟨k, -, hgives, -⟩ := h
  obtain ⟨reaction, hended, hvalue⟩ := Delivery.ended_of_gives hgives
  obtain ⟨route, j, hahead⟩ := exists_upcoming_of_ended hended
  obtain ⟨used, hused⟩ := (n.later_afterSends r k).upcoming route
  refine ⟨route, j + used, ?_⟩
  rw [← hused, hahead]
  exact hvalue

end Http

/-! ## 2. Requests -/

namespace Client

open Call

theorem firstGiven_of_get (c : Client) {path : String} {shape : Json.Shape α} {s t : Session}
    {v : α} (hrun : (c.get path shape).runIn s = (.ok v, t)) :
    ∃ r, c.getRequest? (c.url path) = some r ∧
      s.network.FirstGiven r (max 1 c.attempts) shape v t.network := by
  obtain ⟨errors, hread⟩ := c.reads_get path shape s
  rw [hrun] at hread
  obtain ⟨r, hrequest, hgives⟩ := c.outcomes_eq_ok_iff.mp hread.last
  have hnetwork := hread.gets.network
  rw [c.foldl_afterGet hrequest] at hnetwork
  refine ⟨r, hrequest, errors.length, hread.tries_bounds.2, hgives, ?_, hnetwork⟩
  intro j hj
  have hnone := c.toOption_outcomes (c.url path) shape s j
  rw [hread.failed j hj, hrequest] at hnone
  exact hnone.symm

/-! ## 3. Downloads -/

/-- The listing of the scenarios, as the first try that gives a value has it. -/
def Listed (c : Client) (n : Network) (entries : List ScenarioSummary) (m : Network) : Prop :=
  ∃ r items, c.getRequest? (c.url scenarios) = some r ∧
    n.FirstGiven r (max 1 c.attempts) Json.Shape.value (.arr items) m ∧
      items.mapM ScenarioSummary.ofJson? = some entries

/-- The bodies of some scenarios, in order, each the first value that its tries give on what the
scenarios before it have left. -/
inductive Downloaded (c : Client) : Network → List String → List Json → Network → Prop where
  | nil {n : Network} : Downloaded c n [] [] n
  | cons {n m l : Network} {id : String} {r : Request} {ids : List String} {body : Json}
      {bodies : List Json} (hrequest : c.getRequest? (c.url (scenarioPath id)) = some r)
      (hfirst : n.FirstGiven r (max 1 c.attempts) Json.Shape.value body m)
      (hrest : Downloaded c m ids bodies l) : Downloaded c n (id :: ids) (body :: bodies) l

theorem Downloaded.length_eq {c : Client} {n m : Network} {ids : List String}
    {bodies : List Json} (h : c.Downloaded n ids bodies m) : bodies.length = ids.length := by
  induction h with
  | nil => rfl
  | cons hrequest hfirst hrest ih => rw [List.length_cons, List.length_cons, ih]

/-- Every body is given by a reaction that was ahead. -/
theorem Downloaded.gives {c : Client} {n m : Network} {ids : List String} {bodies : List Json}
    (h : c.Downloaded n ids bodies m) :
    ∀ body ∈ bodies, ∃ route k, (n.upcoming route k).gives Json.Shape.value = some body := by
  induction h with
  | nil =>
      intro body hbody
      cases hbody
  | cons hrequest hfirst hrest ih =>
      intro body hbody
      rcases List.mem_cons.mp hbody with rfl | hbody
      · exact hfirst.gives
      · obtain ⟨route, k, hgives⟩ := ih body hbody
        obtain ⟨used, hused⟩ := hfirst.later.upcoming route
        exact ⟨route, k + used, (hused k) ▸ hgives⟩

theorem downloaded_of_payloads (c : Client) {ids : List String} {s t : Session}
    {ps : List ScenarioPayload} (h : (c.payloads ids).runIn s = (.ok ps, t)) :
    c.Downloaded s.network ids (ps.map (·.body)) t.network := by
  induction ids generalizing s ps with
  | nil =>
      obtain ⟨rfl, rfl⟩ : [] = ps ∧ s = t := by simpa [payloads] using h
      exact .nil
  | cons id ids ih =>
      rw [payloads] at h
      obtain ⟨p, s₁, hpayload, h⟩ := ok_of_runIn_bind h
      obtain ⟨rest, s₂, hrest, h⟩ := ok_of_runIn_bind h
      obtain ⟨rfl, rfl⟩ : p :: rest = ps ∧ s₂ = t := by simpa using h
      obtain ⟨body, s₁', hget, hbody⟩ := ok_of_runIn_bind hpayload
      obtain ⟨rfl, rfl⟩ : ⟨body⟩ = p ∧ s₁' = s₁ := by simpa using hbody
      obtain ⟨r, hrequest, hfirst⟩ := c.firstGiven_of_get hget
      exact .cons hrequest hfirst (ih hrest)

theorem listed_of_list (c : Client) {s t : Session} {entries : List ScenarioSummary}
    (h : c.list.runIn s = (.ok entries, t)) : c.Listed s.network entries t.network := by
  unfold list at h
  obtain ⟨v, s₁, hget, h⟩ := ok_of_runIn_bind h
  obtain ⟨r, hrequest, hfirst⟩ := c.firstGiven_of_get hget
  cases v with
  | arr items =>
      dsimp only at h
      cases hsummaries : items.mapM ScenarioSummary.ofJson? with
      | none =>
          rw [hsummaries] at h
          exact absurd (congrArg Prod.fst h) (by simp)
      | some summaries =>
          rw [hsummaries] at h
          obtain ⟨rfl, rfl⟩ : summaries = entries ∧ s₁ = t := by simpa using h
          exact ⟨r, items, hrequest, hfirst, hsummaries⟩
  | _ => exact absurd (congrArg Prod.fst h) (by simp)

/-- **What a download comes to**: the listing, and after it a body for each entry that has an
id. -/
theorem downloaded_of_fetchAll (c : Client) {s t : Session} {ps : List ScenarioPayload}
    (h : c.fetchAll.runIn s = (.ok ps, t)) :
    ∃ entries listed, c.Listed s.network entries listed ∧
      c.Downloaded listed (entries.filterMap usableId?) (ps.map (·.body)) t.network := by
  obtain ⟨entries, listed, hlist, hpayloads⟩ := ok_of_runIn_bind h
  exact ⟨entries, listed.network, c.listed_of_list hlist, c.downloaded_of_payloads hpayloads⟩

end Client
end IncidentDigest
