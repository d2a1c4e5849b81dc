import IncidentDigest.Proofs.Service.Requests

/-!
# The tries of a reading request

A reaction gives a value if it is a reply that says success and has a body that can be read.
What the network has ahead decides what each try of a reading request would come to: this is
the sequence of its *outcomes*.  A reading request goes through the sequence up to the first
success, or up to its last try.  It sends one request for each outcome that it comes to, gives
one warning for each failure that it passes over, and ends in the last outcome.

A try is one sending, also where its replies lead on to other addresses; what counts then is
what the last of them is met with.
-/

namespace IncidentDigest

open Http

variable {α : Type}

def Warning.delay? : Warning → Option Duration
  | .retry _ _ _ _ delay => some delay
  | _ => none

theorem Duration.toNanos_afterAttempt (step : Duration) (attempt : ℕ) :
    (step.afterAttempt attempt).toNanos =
      min (step.toNanos * min attempt 0xFFFFFFFF) Duration.longest.toNanos :=
  step.times_toNanos _

theorem Duration.toNanos_afterAttempt_mono (step : Duration) {m n : ℕ} (h : m ≤ n) :
    (step.afterAttempt m).toNanos ≤ (step.afterAttempt n).toNanos := by
  rw [toNanos_afterAttempt, toNanos_afterAttempt]
  have hfactor : min m 0xFFFFFFFF ≤ min n 0xFFFFFFFF := by omega
  exact min_le_min_right _ (Nat.mul_le_mul_left _ hfactor)

/-! ## 1. Reactions -/

namespace Http.Reaction

def success? : Reaction → Option Reply
  | .reply r => if r.isSuccess then some r else none
  | _ => none

def gives (shape : Json.Shape α) (reaction : Reaction) : Option α :=
  reaction.success?.bind (Client.decode shape)

theorem readBytes?_of_gives {shape : Json.Shape α} {reaction : Reaction} {v : α}
    (h : reaction.gives shape = some v) : ∃ bytes, shape.readBytes? bytes = some v := by
  obtain ⟨reply, -, hdecode⟩ := Option.bind_eq_some_iff.mp h
  obtain ⟨bytes, -, hread⟩ := Option.bind_eq_some_iff.mp hdecode
  exact ⟨bytes, hread⟩

end Http.Reaction

/-- The value that a request gives in the end, if it gives one. -/
def Http.Delivery.gives (shape : Json.Shape α) : Delivery → Option α
  | .ended reaction => reaction.gives shape
  | _ => none

theorem Http.Delivery.ended_of_gives {shape : Json.Shape α} {delivery : Delivery} {v : α}
    (h : delivery.gives shape = some v) :
    ∃ reaction, delivery = .ended reaction ∧ reaction.gives shape = some v := by
  cases delivery with
  | ended reaction => exact ⟨reaction, rfl, h⟩
  | stranded shown => cases h
  | astray shown => cases h

namespace Client

open Call

/-! ## 2. Outcomes -/

/-- What a reply to a reading request comes to. -/
def judge (url : String) (shape : Json.Shape α) (reply : Reply) : Except ServiceError α :=
  if reply.isSuccess then
    match decode shape reply with
    | some v => .ok v
    | none => .error (.decode url)
  else .error (.status url reply.status reply.text)

/-- The replies to the tries of an address, one after another.  An address that cannot be
requested fails every time. -/
def replies (c : Client) (url : String) (s : Session) (n : ℕ) : Except ServiceError Reply :=
  match Address.ofText? url with
  | some (.web u) =>
    Session.replyOf url c.timeoutSeconds u (s.network.delivery (c.request .get none "" u) n)
  | some (.unfit shown) => .error (.request url (.unusable (some shown)))
  | some (.other shown) => .error (.request url (.unusable (some shown)))
  | none => .error (.request url (.unusable none))

def outcomes (c : Client) (url : String) (shape : Json.Shape α) (s : Session) (n : ℕ) :
    Except ServiceError α :=
  (c.replies url s n).bind (judge url shape)

theorem toOption_judge (url : String) (shape : Json.Shape α) (reply : Reply) :
    (judge url shape reply).toOption = (Reaction.reply reply).gives shape := by
  simp only [judge, Reaction.gives, Reaction.success?]
  cases reply.isSuccess with
  | false => rfl
  | true =>
      cases h : decode shape reply with
      | none => simp [h, Except.toOption]
      | some v => simp [h, Except.toOption]

theorem toOption_replyOf (url : String) (seconds : ℕ) (u : Url) (shape : Json.Shape α)
    (delivery : Delivery) :
    ((Session.replyOf url seconds u delivery).bind (judge url shape)).toOption =
      delivery.gives shape := by
  cases delivery with
  | ended reaction =>
      cases reaction with
      | reply reply => exact toOption_judge url shape reply
      | closed => rfl
      | silence => rfl
      | refusal => rfl
  | stranded shown => rfl
  | astray shown => rfl

theorem toOption_outcomes (c : Client) (url : String) (shape : Json.Shape α) (s : Session)
    (n : ℕ) : (c.outcomes url shape s n).toOption = (c.getRequest? url).bind fun r =>
      (s.network.delivery r n).gives shape := by
  unfold outcomes replies getRequest?
  cases Address.ofText? url with
  | none => rfl
  | some address =>
      cases address with
      | web u => exact toOption_replyOf url c.timeoutSeconds u shape _
      | unfit shown => rfl
      | other shown => rfl

/-- **A try succeeds** exactly if its address can be requested and the request gives a value in
the end. -/
theorem outcomes_eq_ok_iff (c : Client) {url : String} {shape : Json.Shape α} {s : Session}
    {n : ℕ} {v : α} : c.outcomes url shape s n = .ok v ↔
      ∃ r, c.getRequest? url = some r ∧ (s.network.delivery r n).gives shape = some v := by
  have hok : c.outcomes url shape s n = .ok v ↔
      (c.outcomes url shape s n).toOption = some v := by
    cases c.outcomes url shape s n with
    | error e => simp [Except.toOption]
    | ok u => simp [Except.toOption]
  rw [hok, toOption_outcomes, Option.bind_eq_some_iff]

theorem outcomes_of_gets (c : Client) {url : String} (shape : Json.Shape α) {s t : Session}
    (tries : ℕ) (h : c.Gets s (List.replicate tries url) t) (n : ℕ) :
    c.outcomes url shape t n = c.outcomes url shape s (tries + n) := by
  unfold outcomes replies
  cases hurl : Address.ofText? url with
  | none => rfl
  | some address =>
      cases address with
      | web u =>
          have hnetwork := h.network
          rw [c.foldl_afterGet (c.getRequest?_of_url hurl)] at hnetwork
          simp only [hnetwork, Network.delivery_add]
      | unfit shown => rfl
      | other shown => rfl

/-- Where the replies lead nowhere, each try is met with the next reaction of its route. -/
theorem replies_of_direct (c : Client) {url : String} {u : Url}
    (hurl : Address.ofText? url = some (.web u)) {s : Session}
    (hdirect : s.network.Direct (routesOf .get url)) (n : ℕ) :
    c.replies url s n = Session.replyOf url c.timeoutSeconds u
      (.ended (s.network.upcoming ⟨.get, u.text⟩ n)) := by
  have hroute := route_of_getRequest? (c.getRequest?_of_url hurl)
  have hdelivery := Network.delivery_of_stay fun j (_ : j ≤ n) => hdirect _ j hroute
  unfold replies
  rw [hurl]
  dsimp only
  rw [hdelivery]
  rfl

/-! ## 3. One try -/

/-- A reading request comes to the first reply, whether anything can be requested or not. -/
theorem runIn_send (c : Client) (url : String) (s : Session) :
    (Call.send .get url c.timeoutSeconds true (c.request .get none "")).runIn s =
      (c.replies url s 0,
        { s.note ⟨.get, url⟩ with network := c.afterGet s.network url }) := by
  change Call.send .get url c.timeoutSeconds true (c.request .get none "") s = _
  unfold Call.send replies afterGet getRequest?
  cases Address.ofText? url with
  | none => rfl
  | some address =>
      cases address with
      | web u => rfl
      | unfit shown => rfl
      | other shown => rfl

theorem runIn_judge (url : String) (shape : Json.Shape α) (reply : Reply) (s : Session) :
    ((if reply.isSuccess then pure reply else throw (.status url reply.status reply.text) :
      Call Reply) >>= fun reply => match decode shape reply with
        | some v => pure v
        | none => throw (.decode url) : Call α).runIn s = (judge url shape reply, s) := by
  unfold judge
  cases reply.isSuccess with
  | false => rfl
  | true =>
      simp only [if_true, pure_bind]
      cases decode shape reply with
      | none => rfl
      | some v => rfl

/-- **A try** comes to the first outcome, and is one reading request. -/
theorem attempt_eq_outcome (c : Client) (url : String) (shape : Json.Shape α) (s : Session) :
    ∃ t, (c.attempt url shape).runIn s = (c.outcomes url shape s 0, t) ∧
      c.Gets s [url] t ∧ t.warnings = s.warnings := by
  refine ⟨{ s.note ⟨.get, url⟩ with network := c.afterGet s.network url }, ?_, ⟨rfl, rfl⟩, rfl⟩
  unfold attempt Client.send outcomes
  rw [bind_assoc]
  -- without a reply there is nothing to judge
  cases hreply : c.replies url s 0 with
  | error e => exact runIn_bind_error (hreply ▸ c.runIn_send url s)
  | ok reply =>
      exact (runIn_bind_ok (hreply ▸ c.runIn_send url s)).trans (runIn_judge url shape reply _)

/-! ## 4. All tries -/

/-- The warnings that failures give rise to when they are passed over, counted from a number. -/
def notices (c : Client) (url : String) (number : ℕ) (errors : List ServiceError) :
    List Warning :=
  (errors.zipIdx number).map fun (e, n) => .retry url n c.attempts e (c.step.afterAttempt n)

/-- Tries of an address, with some more in reserve: all but the last one have failed, and the
last one is a success or has nothing in reserve. -/
structure Tried (c : Client) (url : String) (shape : Json.Shape α) (reserve number : ℕ)
    (s : Session) (errors : List ServiceError) (result : Except ServiceError α) (t : Session) :
    Prop where
  bound : errors.length ≤ reserve
  failed : ∀ k (h : k < errors.length), c.outcomes url shape s k = .error errors[k]
  last : c.outcomes url shape s errors.length = result
  ended : result.isOk = true ∨ errors.length = reserve
  gets : c.Gets s (List.replicate (errors.length + 1) url) t
  warned : t.warnings = s.warnings ++ c.notices url number errors

section
variable {c : Client} {url : String} {shape : Json.Shape α} {reserve number : ℕ} {s t : Session}
  {errors : List ServiceError} {result : Except ServiceError α}

theorem Tried.cons {s₁ : Session} {e : ServiceError} (hfirst : c.outcomes url shape s 0 = .error e)
    (hgets : c.Gets s [url] s₁) (hwarnings : s₁.warnings = s.warnings)
    (h : c.Tried url shape reserve (number + 1)
      (s₁.warn (.retry url number c.attempts e (c.step.afterAttempt number))) errors result t) :
    c.Tried url shape (reserve + 1) number s (e :: errors) result t where
  bound := Nat.succ_le_succ h.bound
  failed k hk := by
    cases k with
    | zero => exact hfirst
    | succ k =>
        have hlater := h.failed k (Nat.lt_of_succ_lt_succ hk)
        rwa [outcomes_of_gets c shape 1 (hgets.congr_right (u := s₁.warn _) rfl rfl),
          Nat.add_comm] at hlater
  last := by
    rw [← h.last,
      outcomes_of_gets c shape 1 (hgets.congr_right (u := s₁.warn _) rfl rfl),
      List.length_cons, Nat.add_comm]
  ended := h.ended.imp id fun hlength => congrArg Nat.succ hlength
  gets := by
    rw [List.length_cons, List.replicate_succ]
    exact hgets.append (h.gets.congr_left rfl rfl)
  warned := by
    rw [h.warned, Session.warn, hwarnings, List.append_assoc]
    rfl

theorem Tried.failed_of_lt (h : c.Tried url shape reserve number s errors result t) {k : ℕ}
    (hk : k < errors.length) : (c.outcomes url shape s k).isOk = false := by
  rw [h.failed k hk]
  rfl

/-- The first success ends the tries, unless the reserve has come to its end before. -/
theorem Tried.length_eq_min (h : c.Tried url shape reserve number s errors result t) {j : ℕ}
    (hj : IsLeast {n | (c.outcomes url shape s n).isOk = true} j) :
    errors.length = min j reserve := by
  have hsuccess : (c.outcomes url shape s j).isOk = true := hj.1
  have hle : errors.length ≤ j := by
    by_contra hlt
    have hfailed := h.failed_of_lt (not_le.mp hlt)
    rw [hfailed] at hsuccess
    exact Bool.false_ne_true hsuccess
  rcases h.ended with hok | hlength
  · have hleast : j ≤ errors.length := by
      apply hj.2
      change (c.outcomes url shape s errors.length).isOk = true
      rw [h.last]
      exact hok
    have hbound := h.bound
    omega
  · omega

theorem Tried.length_eq_reserve (h : c.Tried url shape reserve number s errors result t)
    (hnone : ∀ n, (c.outcomes url shape s n).isOk = false) : errors.length = reserve := by
  rcases h.ended with hok | hlength
  · rw [← h.last, hnone] at hok
    exact absurd hok Bool.false_ne_true
  · exact hlength

end

/-- **A run of tries**, by induction on the reserve. -/
theorem tried_retry (c : Client) (url : String) (shape : Json.Shape α) (reserve number : ℕ)
    (s : Session) :
    ∃ errors, c.Tried url shape reserve number s errors
      ((c.retry url shape reserve number).runIn s).1
      ((c.retry url shape reserve number).runIn s).2 := by
  induction reserve generalizing number s with
  | zero =>
      obtain ⟨t, hrun, hgets, hwarnings⟩ := c.attempt_eq_outcome url shape s
      rw [retry, hrun]
      refine ⟨[], ?_⟩
      constructor
      · exact Nat.le_refl 0
      · intro k hk
        exact absurd hk (Nat.not_lt_zero k)
      · rfl
      · exact Or.inr rfl
      · exact hgets
      · rw [hwarnings]
        exact (List.append_nil _).symm
  | succ reserve ih =>
      obtain ⟨s₁, hrun, hgets, hwarnings⟩ := c.attempt_eq_outcome url shape s
      rw [retry, runIn_bind_ok (runIn_outcome _ s), hrun]
      cases hfirst : c.outcomes url shape s 0 with
      | ok v =>
          refine ⟨[], ?_⟩
          constructor
          · exact Nat.zero_le _
          · intro k hk
            exact absurd hk (Nat.not_lt_zero k)
          · exact hfirst
          · exact Or.inl rfl
          · exact hgets
          · exact hwarnings.trans (List.append_nil _).symm
      | error e =>
          obtain ⟨errors, hlater⟩ := ih (number + 1)
            (s₁.warn (.retry url number c.attempts e (c.step.afterAttempt number)))
          exact ⟨e :: errors, hlater.cons hfirst hgets hwarnings⟩

/-! ## 5. Reading requests -/

theorem length_notices (c : Client) (url : String) (number : ℕ) (errors : List ServiceError) :
    (c.notices url number errors).length = errors.length := by
  simp only [notices, List.length_map, List.length_zipIdx]

theorem getElem_notices (c : Client) (url : String) (number : ℕ) (errors : List ServiceError)
    {k : ℕ} (hk : k < errors.length) (hk' : k < (c.notices url number errors).length) :
    (c.notices url number errors)[k] = .retry url (number + k) c.attempts errors[k]
      (c.step.afterAttempt (number + k)) := by
  simp only [notices, List.getElem_map, List.getElem_zipIdx]

theorem delays_notices (c : Client) (url : String) (number : ℕ) (errors : List ServiceError) :
    (c.notices url number errors).filterMap Warning.delay? =
      (List.range' number errors.length).map c.step.afterAttempt := by
  induction errors generalizing number with
  | nil => rfl
  | cons e errors ih =>
      have hrest := ih (number + 1)
      simp only [notices, List.zipIdx_cons, List.map_cons, List.filterMap_cons, Warning.delay?]
      rw [List.length_cons, List.range'_succ, List.map_cons, ← hrest]
      rfl

theorem of_ofSettings {a : ApiSettings} {c : Client} (h : ofSettings a = .ok c) :
    c.baseUrl = Settings.withoutTrailingSlashes a.baseUrl ∧
      c.timeoutSeconds = a.timeoutSeconds ∧ c.attempts = max 1 a.attempts := by
  unfold ofSettings at h
  split at h
  · cases h
  · split at h
    · cases h
    · obtain rfl := Except.ok.inj h
      exact ⟨rfl, rfl, rfl⟩

theorem limit_eq_of_ofSettings {a : ApiSettings} {c : Client} (h : ofSettings a = .ok c) :
    max 1 c.attempts = max 1 a.attempts := by
  rw [(of_ofSettings h).2.2]
  exact max_eq_right (le_max_left 1 a.attempts)

/-- A reading request of a path, with all its tries. -/
def Reads (c : Client) (path : String) (shape : Json.Shape α) (s : Session)
    (errors : List ServiceError) (result : Except ServiceError α) (t : Session) : Prop :=
  c.Tried (c.url path) shape (c.attempts - 1) 1 s errors result t

theorem reads_get (c : Client) (path : String) (shape : Json.Shape α) (s : Session) :
    ∃ errors, c.Reads path shape s errors ((c.get path shape).runIn s).1
      ((c.get path shape).runIn s).2 :=
  c.tried_retry (c.url path) shape (c.attempts - 1) 1 s

theorem Reads.tries_bounds {c : Client} {path : String} {shape : Json.Shape α}
    {s t : Session} {errors : List ServiceError} {result : Except ServiceError α}
    (h : c.Reads path shape s errors result t) :
    1 ≤ errors.length + 1 ∧ errors.length + 1 ≤ max 1 c.attempts := by
  have hbound := h.bound
  omega

/-- A reading request that fails has used up all its tries. -/
theorem Reads.tries_of_error {c : Client} {path : String} {shape : Json.Shape α}
    {s t : Session} {errors : List ServiceError} {e : ServiceError}
    (h : c.Reads path shape s errors (.error e) t) : errors.length + 1 = max 1 c.attempts := by
  rcases h.ended with hok | hlength
  · cases hok
  · omega

/-- **A reading request follows its outcomes.**  It makes one try after another, up to the
first success, or up to the number of tries that is allowed; each try is one request that is
sent to the same address.  It ends in the outcome of its last try.  Between two tries exactly
one delay is announced: the step times the number of the failed try, which is counted in 32
bits, and at most the longest delay there is.  So the delays never decrease.

On the network there is a trail of requests for each try, which the request of the address
begins, and none if no request can be made of it.  Where the replies lead nowhere, each try is
one request there too, and comes to what the next reaction of the route comes to. -/
theorem get_follows_outcomes (c : Client) (path : String) (shape : Json.Shape α) (s : Session) :
    let url := c.url path
    let limit := max 1 c.attempts
    let outcome := c.outcomes url shape s
    (∀ a, ofSettings a = .ok c → limit = max 1 a.attempts) ∧
    (∀ u, Address.ofText? url = some (.web u) → s.network.Direct (routesOf .get url) →
      ∀ n, outcome n = (Session.replyOf url c.timeoutSeconds u
        (.ended (s.network.upcoming ⟨.get, u.text⟩ n))).bind (judge url shape)) ∧
    ∃ (tries : ℕ) (t : Session) (new : List Warning),
      (c.get path shape).runIn s = (outcome (tries - 1), t) ∧
      (∀ j, IsLeast {n | (outcome n).isOk = true} j → tries = min (j + 1) limit) ∧
      ((∀ n, (outcome n).isOk = false) → tries = limit) ∧
      t.sent = s.sent ++ List.replicate tries ⟨.get, url⟩ ∧
      c.Logs s.network (List.replicate tries url) t.network ∧
      t.warnings = s.warnings ++ new ∧ new.length + 1 = tries ∧
      (∀ k (hk : k < new.length), ∃ e delay, outcome k = .error e ∧
        new[k] = .retry url (k + 1) c.attempts e delay ∧
        delay.toNanos = min (c.step.toNanos * min (k + 1) (2 ^ 32 - 1)) Duration.longest.toNanos) ∧
      (new.filterMap Warning.delay?).Pairwise fun d d' => d.toNanos ≤ d'.toNanos := by
  intro url limit outcome
  obtain ⟨errors, h⟩ := c.reads_get path shape s
  rcases hrun : (c.get path shape).runIn s with ⟨result, t⟩
  rw [hrun] at h
  have hlimit : c.attempts - 1 + 1 = limit := by omega
  have hlength := c.length_notices url 1 errors
  refine ⟨?_, ?_, ?_⟩
  · intro a ha
    exact limit_eq_of_ofSettings ha
  · intro u hurl hdirect n
    have hreply := c.replies_of_direct hurl hdirect n
    exact congrArg (Except.bind · (judge url shape)) hreply
  refine ⟨errors.length + 1, t, c.notices url 1 errors, ?_, ?_, ?_, ?_, h.gets.logs, h.warned,
    ?_, ?_, ?_⟩
  · rw [Nat.add_sub_cancel]
    exact congrArg (·, t) h.last.symm
  · intro j hj
    have hmin := h.length_eq_min hj
    omega
  · intro hnone
    have hreserve := h.length_eq_reserve hnone
    omega
  · rw [h.gets.sent, List.map_replicate]
  · rw [hlength]
  · intro k hk
    have hk' : k < errors.length := by omega
    refine ⟨errors[k], c.step.afterAttempt (k + 1), h.failed k hk', ?_, ?_⟩
    · rw [c.getElem_notices url 1 errors hk' hk, Nat.add_comm 1 k]
    · exact c.step.toNanos_afterAttempt (k + 1)
  · have hsorted : (List.range' 1 errors.length).Pairwise (· < ·) := List.pairwise_lt_range' ..
    rw [delays_notices, List.pairwise_map]
    apply hsorted.imp
    intro m n hmn
    exact c.step.toNanos_afterAttempt_mono (Nat.le_of_lt hmn)

/-! ### A second try -/

/-- A service that is busy at the first request of a route and answers all later ones. -/
def busyOnce (answer : String) : Script := fun _ n =>
  if n = 0 then sampleReply 503 "busy" else sampleReply 200 answer

theorem direct_busyOnce (answer : String) (R : Set Route) :
    (Network.ofScript (busyOnce answer)).Direct R := by
  apply Network.direct_ofScript
  intro route k
  unfold busyOnce
  split
  · rfl
  · rfl

/-- The second try is answered, after a delay of one step. -/
theorem get_follows_outcomes_second_try :
    ∃ v t e delay,
      (sampleClient.get scenarios Json.Shape.value).runIn (.ofScript (busyOnce "[]")) =
        (.ok v, t) ∧ v.compact = "[]" ∧
      t.sent = List.replicate 2 ⟨.get, "http://a/hackathon/scenarios"⟩ ∧
      t.network.asked = List.replicate 2 ⟨.get, "http://a/hackathon/scenarios"⟩ ∧
      t.warnings = [.retry "http://a/hackathon/scenarios" 1 2 e delay] ∧
      delay.toNanos = 500000000 := by
  obtain ⟨-, -, tries, t, new, hrun, hleast, -, hsent, hlogs, hwarnings, hlength, hnew, -⟩ :=
    get_follows_outcomes sampleClient scenarios Json.Shape.value (.ofScript (busyOnce "[]"))
  have hfirst : (sampleClient.outcomes (sampleClient.url scenarios) Json.Shape.value
      (.ofScript (busyOnce "[]")) 0).isOk = false := by decide +kernel
  have hsecond : (sampleClient.outcomes (sampleClient.url scenarios) Json.Shape.value
      (.ofScript (busyOnce "[]")) 1).toOption.map Json.compact = some "[]" := by decide +kernel
  rcases hvalue : sampleClient.outcomes (sampleClient.url scenarios) Json.Shape.value
      (.ofScript (busyOnce "[]")) 1 with e | v
  · rw [hvalue] at hsecond
    cases hsecond
  · obtain rfl : tries = 2 := by
      refine hleast 1 ⟨?_, ?_⟩
      · rw [Set.mem_ofPred_eq, hvalue]
        rfl
      · rintro (_ | n) hn
        · exact absurd (hfirst.symm.trans hn) Bool.false_ne_true
        · exact Nat.le_add_left 1 n
    obtain ⟨warning, rfl⟩ := List.length_eq_one_iff.mp (Nat.succ.inj hlength)
    obtain ⟨e, delay, -, hwarning, hdelay⟩ := hnew 0 (Nat.zero_lt_one)
    rw [hvalue] at hrun hsecond
    refine ⟨v, t, e, delay, hrun, Option.some.inj hsecond, hsent, ?_, ?_, ?_⟩
    · rw [hlogs.direct fun url _ => direct_busyOnce "[]" _]
      decide +kernel
    · rw [hwarnings]
      exact congrArg (fun w => [w]) hwarning
    · rw [hdelay]
      decide

end Client
end IncidentDigest
