import IncidentDigest.Proofs.Http.Redirects
import IncidentDigest.Service.Client

/-!
# Footprints of calls

A call *stays within* a set of routes if it takes reactions of these routes only, and if what
comes of it, and what it leaves of them, is decided by what they have ahead.  The set has to
be closed, as a reply may lead from one route to another.  Every call of the client stays
within each closed set around the routes of the addresses that it reads, however many
attempts it makes and however they end.
-/

namespace IncidentDigest

open Http

/-! ## 1. Running calls -/

namespace Call

variable {α β : Type}

@[simp] theorem runIn_pure (v : α) (s : Session) :
    (pure v : Call α).runIn s = (.ok v, s) := rfl

@[simp] theorem runIn_throw (e : ServiceError) (s : Session) :
    (throw e : Call α).runIn s = (.error e, s) := rfl

@[simp] theorem runIn_warn (w : Warning) (s : Session) :
    (warn w).runIn s = (.ok (), s.warn w) := rfl

@[simp] theorem runIn_outcome (c : Call α) (s : Session) :
    c.outcome.runIn s = (.ok (c.runIn s).1, (c.runIn s).2) := rfl

theorem runIn_bind (c : Call α) (f : α → Call β) (s : Session) :
    (c >>= f).runIn s = match c.runIn s with
      | (.ok v, s') => (f v).runIn s'
      | (.error e, s') => (.error e, s') := by
  simp only [runIn, ExceptT.run_bind, StateT.run_bind]
  rcases c.run.run s with ⟨_ | v, s'⟩ <;> rfl

theorem runIn_bind_ok {c : Call α} {f : α → Call β} {s s' : Session} {v : α}
    (h : c.runIn s = (.ok v, s')) : (c >>= f).runIn s = (f v).runIn s' := by
  rw [runIn_bind, h]

theorem runIn_bind_error {c : Call α} {f : α → Call β} {s s' : Session} {e : ServiceError}
    (h : c.runIn s = (.error e, s')) : (c >>= f).runIn s = (.error e, s') := by
  rw [runIn_bind, h]

/-- What a call does that sends a request: it notes what is sent, and makes the request or
fails at once. -/
theorem send_cases (method : Method) (url : String) (seconds : ℕ) (isUsable : Bool)
    (request : Url → Request) :
    (∃ u, Address.ofText? url = some (.web u) ∧ isUsable = true ∧
      ∀ s, (send method url seconds isUsable request).runIn s =
        (s.note ⟨method, url⟩).deliver url seconds (request u)) ∨
    ∃ e, ∀ s, (send method url seconds isUsable request).runIn s =
      (.error e, s.note ⟨method, url⟩) := by
  have hrun : ∀ s, (send method url seconds isUsable request).runIn s =
      send method url seconds isUsable request s := fun _ => rfl
  simp only [hrun, send]
  rcases Address.ofText? url with _ | address
  · exact Or.inr ⟨_, fun _ => rfl⟩
  · cases isUsable with
    | false => exact Or.inr ⟨_, fun _ => rfl⟩
    | true =>
        cases address with
        | web u => exact Or.inl ⟨u, rfl, rfl, fun _ => rfl⟩
        | unfit shown => exact Or.inr ⟨_, fun _ => rfl⟩
        | other shown => exact Or.inr ⟨_, fun _ => rfl⟩

/-! ## 2. Staying within routes -/

/-- A call takes reactions of the given routes only, and what these have ahead decides
what comes of it and what it leaves of them. -/
structure Within (R : Set Route) (c : Call α) : Prop where
  later : ∀ s : Session, s.network.Later (c.runIn s).2.network
  frame : ∀ s : Session, s.network.Closed R → ∀ route ∉ R,
    (c.runIn s).2.network.upcoming route = s.network.upcoming route
  decided : ∀ s t : Session, s.network.Closed R → Network.AgreeOn R s.network t.network →
    (c.runIn s).1 = (c.runIn t).1 ∧
      Network.AgreeOn R (c.runIn s).2.network (c.runIn t).2.network

theorem within_pure (R : Set Route) (v : α) : (pure v : Call α).Within R where
  later s := .refl s.network
  frame _ _ _ _ := rfl
  decided _ _ _ h := ⟨rfl, h⟩

theorem within_throw (R : Set Route) (e : ServiceError) : (throw e : Call α).Within R where
  later s := .refl s.network
  frame _ _ _ _ := rfl
  decided _ _ _ h := ⟨rfl, h⟩

theorem within_warn (R : Set Route) (w : Warning) : (warn w).Within R where
  later s := .refl s.network
  frame _ _ _ _ := rfl
  decided _ _ _ h := ⟨rfl, h⟩

theorem Within.bind {R : Set Route} {c : Call α} {f : α → Call β} (hc : c.Within R)
    (hf : ∀ v, (f v).Within R) : (c >>= f).Within R where
  later s := by
    have hfirst := hc.later s
    rcases h : c.runIn s with ⟨e | v, s'⟩
    · rw [h] at hfirst
      rw [runIn_bind_error h]
      exact hfirst
    · rw [h] at hfirst
      rw [runIn_bind_ok h]
      exact hfirst.trans ((hf v).later s')
  frame s hclosed route hroute := by
    have hfirst := hc.frame s hclosed route hroute
    have hlater := hc.later s
    rcases h : c.runIn s with ⟨e | v, s'⟩
    · rw [h] at hfirst
      rw [runIn_bind_error h]
      exact hfirst
    · rw [h] at hfirst hlater
      rw [runIn_bind_ok h, (hf v).frame s' (hclosed.later hlater) route hroute]
      exact hfirst
  decided s t hclosed hagree := by
    obtain ⟨hresult, hleft⟩ := hc.decided s t hclosed hagree
    have hlater := hc.later s
    rcases hs : c.runIn s with ⟨e | v, s'⟩ <;> rcases ht : c.runIn t with ⟨e' | v', t'⟩ <;>
      rw [hs, ht] at hresult hleft
    · rw [runIn_bind_error hs, runIn_bind_error ht]
      obtain rfl := Except.error.inj hresult
      exact ⟨rfl, hleft⟩
    · exact absurd hresult (by simp)
    · exact absurd hresult (by simp)
    · rw [runIn_bind_ok hs, runIn_bind_ok ht]
      rw [hs] at hlater
      obtain rfl := Except.ok.inj hresult
      exact (hf v).decided s' t' (hclosed.later hlater) hleft

theorem Within.outcome {R : Set Route} {c : Call α} (h : c.Within R) : c.outcome.Within R where
  later s := h.later s
  frame s hclosed route hroute := h.frame s hclosed route hroute
  decided s t hclosed hagree := by
    obtain ⟨hresult, hleft⟩ := h.decided s t hclosed hagree
    rw [runIn_outcome, runIn_outcome]
    exact ⟨congrArg Except.ok hresult, hleft⟩

theorem within_send {R : Set Route} (method : Method) (url : String) (seconds : ℕ)
    (isUsable : Bool) {request : Url → Request}
    (h : ∀ u, Address.ofText? url = some (.web u) → (request u).route ∈ R) :
    (send method url seconds isUsable request).Within R := by
  rcases send_cases method url seconds isUsable request with ⟨u, hu, -, hrun⟩ | ⟨e, hrun⟩
  · constructor
    · intro s
      rw [hrun]
      exact s.network.later_deliver (request u)
    · intro s hclosed route hroute
      rw [hrun]
      exact Network.upcoming_follow_of_not_mem hclosed (h u hu) Network.redirectLimit hroute
    · intro s t hclosed hagree
      obtain ⟨hsame, hleft⟩ :=
        Network.follow_congr hclosed hagree (h u hu) Network.redirectLimit
      rw [hrun, hrun]
      exact ⟨congrArg (Session.replyOf url seconds (request u).url) hsame, hleft⟩
  · constructor
    · intro s
      rw [hrun]
      exact .refl s.network
    · intro s _ route _
      rw [hrun]
      rfl
    · intro s t _ hagree
      rw [hrun, hrun]
      exact ⟨rfl, hagree⟩

end Call

/-! ## 3. Addresses -/

namespace Http

/-- The address of a request as it is requested, if it can be requested. -/
def requested? (url : String) : Option String :=
  match Address.ofText? url with
  | some (.web u) => some u.text
  | _ => none

/-- The routes of the requests to an address: one, or none if it cannot be requested. -/
def routesOf (method : Method) (url : String) : Set Route :=
  {route | ∃ address, requested? url = some address ∧ route = ⟨method, address⟩}

theorem requested?_of_url {url : String} {u : Url} (h : Address.ofText? url = some (.web u)) :
    requested? url = some u.text := by
  unfold requested?
  rw [h]

theorem exists_url_of_requested {url address : String} (h : requested? url = some address) :
    ∃ u, Address.ofText? url = some (.web u) ∧ u.text = address := by
  unfold requested? at h
  split at h
  · rename_i u hu
    exact ⟨u, hu, Option.some.inj h⟩
  · cases h

end Http

/-! ## 4. The calls of the client -/

namespace Client

open Call

variable {α : Type}

section
variable (c : Client) {R : Set Route}

theorem within_send {method : Method} {url : String} (hR : routesOf method url ⊆ R)
    (contentType : Option String) (body : String) :
    (c.send method url contentType body).Within R := by
  refine (Call.within_send method url c.timeoutSeconds true fun u hu => ?_).bind fun reply => ?_
  · exact hR ⟨u.text, requested?_of_url hu, rfl⟩
  · split
    · exact within_pure _ reply
    · exact within_throw _ _

theorem within_attempt {url : String} (hR : routesOf .get url ⊆ R) (shape : Json.Shape α) :
    (c.attempt url shape).Within R := by
  refine (c.within_send hR none "").bind fun reply => ?_
  split
  · exact within_pure _ _
  · exact within_throw _ _

/-- Attempts use up reactions of their own routes only, however many there are. -/
theorem within_retry {url : String} (hR : routesOf .get url ⊆ R) (shape : Json.Shape α)
    (reserve number : ℕ) : (c.retry url shape reserve number).Within R := by
  induction reserve generalizing number with
  | zero => exact c.within_attempt hR shape
  | succ reserve ih =>
      refine (c.within_attempt hR shape).outcome.bind fun result => ?_
      rcases result with e | v
      · exact (within_warn _ _).bind fun _ => ih (number + 1)
      · exact within_pure _ v

theorem within_get {path : String} (hR : routesOf .get (c.url path) ⊆ R) (shape : Json.Shape α) :
    (c.get path shape).Within R :=
  c.within_retry hR shape (c.attempts - 1) 1

/-- The routes of a scenario: of its details and of its conversation. -/
def scenarioRoutes (id : String) : Set Route :=
  routesOf .get (c.url (scenarioPath id)) ∪ routesOf .get (c.url (scenarioPath id ++ "/slack"))

theorem within_times {id : String} (hR : c.scenarioRoutes id ⊆ R) : (c.times id).Within R :=
  c.within_get (Set.subset_union_left.trans hR) ScenarioTimes.shape

theorem within_conversation {id : String} (hR : c.scenarioRoutes id ⊆ R) :
    (c.conversation id).Within R :=
  (c.within_get (Set.subset_union_right.trans hR) conversationEnvelope).bind fun _ =>
    within_pure _ _

end

end Client
end IncidentDigest
