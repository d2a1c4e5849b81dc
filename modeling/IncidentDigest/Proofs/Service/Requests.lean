import IncidentDigest.Proofs.Service.Footprint

/-!
# The reading requests of a session

A part of a session *gets* some addresses if it sends a reading request to each of them, in
order, and nothing else.  This settles what the network is like afterwards, and what its log
says: there is one trail for each address that can be requested, which starts with the request
of that address and goes on where the replies lead.  Where they lead nowhere, the log is the
list of the routes of these addresses.
-/

namespace IncidentDigest.Client

open Http

variable (c : Client)

/-! ## 1. Reading requests -/

/-- The reading request of an address, if one can be made of it. -/
def getRequest? (url : String) : Option Request :=
  match Address.ofText? url with
  | some (.web u) => some (c.request .get none "" u)
  | _ => none

theorem getRequest?_of_url {url : String} {u : Url} (h : Address.ofText? url = some (.web u)) :
    c.getRequest? url = some (c.request .get none "" u) := by
  unfold getRequest?
  rw [h]

variable {c}

theorem route_of_getRequest? {url : String} {r : Request} (h : c.getRequest? url = some r) :
    r.route ∈ routesOf .get url := by
  unfold getRequest? at h
  split at h
  · rename_i u hu
    obtain rfl := Option.some.inj h
    exact ⟨u.text, requested?_of_url hu, rfl⟩
  · cases h

theorem requested?_of_getRequest?_none {url : String} (h : c.getRequest? url = none) :
    requested? url = none := by
  by_contra hrequested
  obtain ⟨address, haddress⟩ := Option.ne_none_iff_exists'.mp hrequested
  obtain ⟨u, hu, -⟩ := exists_url_of_requested haddress
  rw [c.getRequest?_of_url hu] at h
  cases h

variable (c)

/-- The network after a reading request has been sent to an address. -/
def afterGet (n : Network) (url : String) : Network :=
  match c.getRequest? url with
  | some r => (n.deliver r).2
  | none => n

theorem later_afterGet (n : Network) (url : String) : n.Later (c.afterGet n url) := by
  unfold afterGet
  split
  · exact n.later_deliver _
  · exact .refl n

theorem foldl_afterGet {url : String} {r : Request} (h : c.getRequest? url = some r)
    (n : Network) (k : ℕ) :
    (List.replicate k url).foldl c.afterGet n = n.afterSends r k := by
  have hone : ∀ m : Network, c.afterGet m url = m.afterSends r 1 := by
    intro m
    unfold afterGet
    rw [h]
    rfl
  induction k generalizing n with
  | zero => rfl
  | succ k ih => rw [List.replicate_succ, List.foldl_cons, ih, hone, ← n.afterSends_add, Nat.add_comm]

/-! ## 2. Sessions -/

/-- Between two sessions a reading request has been sent to each of these addresses, in order,
and nothing else. -/
structure Gets (s : Session) (urls : List String) (t : Session) : Prop where
  sent : t.sent = s.sent ++ urls.map (⟨.get, ·⟩)
  network : t.network = urls.foldl c.afterGet s.network

section
variable {c} {s t u : Session} {urls more : List String}

theorem Gets.nil (hsent : t.sent = s.sent) (hnetwork : t.network = s.network) :
    c.Gets s [] t where
  sent := by rw [hsent, List.map_nil, List.append_nil]
  network := hnetwork

theorem Gets.append (h : c.Gets s urls t) (h' : c.Gets t more u) : c.Gets s (urls ++ more) u where
  sent := by rw [h'.sent, h.sent, List.map_append, List.append_assoc]
  network := by rw [h'.network, h.network, List.foldl_append]

/-- What is neither sent nor on the network, such as a warning, makes no difference. -/
theorem Gets.congr_left (h : c.Gets s urls t) (hsent : u.sent = s.sent)
    (hnetwork : u.network = s.network) : c.Gets u urls t where
  sent := by rw [h.sent, hsent]
  network := by rw [h.network, hnetwork]

theorem Gets.congr_right (h : c.Gets s urls t) (hsent : u.sent = t.sent)
    (hnetwork : u.network = t.network) : c.Gets s urls u where
  sent := by rw [hsent, h.sent]
  network := by rw [hnetwork, h.network]

end

/-! ## 3. Logs -/

/-- The requests that come of sending a reading request to an address: those on the way from the
request of this address, or none if it has no request. -/
inductive Trailed (n : Network) (url : String) : List Request → Prop where
  | made {r : Request} {rs : List Request} (h : c.getRequest? url = some r)
      (htrail : n.Trail r rs) (hlength : rs.length ≤ Network.redirectLimit + 1) :
      Trailed n url rs
  | unmade (h : c.getRequest? url = none) : Trailed n url []

/-- The routes of the reading requests of some addresses, as far as these can be requested. -/
def readRoutes (urls : List String) : List Route :=
  (urls.filterMap requested?).map (⟨.get, ·⟩)

theorem Trailed.of_later {c : Client} {n m : Network} (hlater : n.Later m) {url : String}
    {rs : List Request} (h : c.Trailed m url rs) : c.Trailed n url rs := by
  cases h with
  | made hrequest htrail hlength => exact .made hrequest (htrail.of_later hlater) hlength
  | unmade hnone => exact .unmade hnone

/-- What the log of a network says after reading requests to some addresses. -/
structure Logs (n : Network) (urls : List String) (m : Network) : Prop where
  trails : ∃ trails, List.Forall₂ (c.Trailed n) urls trails ∧ n.Logged trails.flatten m
  /-- Where the replies lead nowhere, there is one request for each address, if there is one to
  make. -/
  direct : (∀ url ∈ urls, n.Direct (routesOf .get url)) → m.asked = n.asked ++ readRoutes urls

theorem exists_trailed (n : Network) (url : String) :
    ∃ rs, c.Trailed n url rs ∧ n.Logged rs (c.afterGet n url) := by
  unfold afterGet
  cases hrequest : c.getRequest? url with
  | none => exact ⟨[], .unmade hrequest, .nil n⟩
  | some r =>
      obtain ⟨rs, htrail, hlength, hlog⟩ := Network.exists_trail Network.redirectLimit r n
      exact ⟨rs, .made hrequest htrail hlength, hlog⟩

theorem exists_trails (n : Network) (urls : List String) :
    ∃ trails, List.Forall₂ (c.Trailed n) urls trails ∧
      n.Logged trails.flatten (urls.foldl c.afterGet n) := by
  -- on the addresses; what leads on after the first one has been ahead before it
  induction urls generalizing n with
  | nil => exact ⟨[], .nil, .nil n⟩
  | cons url urls ih =>
      obtain ⟨rs, htrailed, hfirst⟩ := c.exists_trailed n url
      obtain ⟨trails, hrest, hlog⟩ := ih (c.afterGet n url)
      refine ⟨rs :: trails, .cons htrailed (hrest.imp fun _ _ h => ?_), hfirst.append hlog⟩
      exact h.of_later (c.later_afterGet n url)

theorem Trailed.routes_of_direct {c : Client} {n : Network} {url : String} {rs : List Request}
    (h : c.Trailed n url rs) (hdirect : n.Direct (routesOf .get url)) :
    rs.map Request.route = readRoutes [url] := by
  unfold readRoutes
  cases h with
  | made hrequest htrail hlength =>
      have hroute := route_of_getRequest? hrequest
      obtain rfl := htrail.eq_of_stay fun k => hdirect _ k hroute
      obtain ⟨address, haddress, hroute⟩ := hroute
      rw [List.filterMap_cons_some haddress, List.map_singleton, hroute]
      rfl
  | unmade hnone =>
      rw [List.filterMap_cons_none (requested?_of_getRequest?_none hnone)]
      rfl

theorem routes_of_direct {c : Client} {n : Network} {urls : List String}
    {trails : List (List Request)} (h : List.Forall₂ (c.Trailed n) urls trails)
    (hdirect : ∀ url ∈ urls, n.Direct (routesOf .get url)) :
    trails.flatten.map Request.route = readRoutes urls := by
  induction h with
  | nil => rfl
  | @cons url rs urls trails hfirst hrest ih =>
      have hone := hfirst.routes_of_direct (hdirect url List.mem_cons_self)
      have hmore := ih fun other hother => hdirect other (List.mem_cons_of_mem url hother)
      rw [List.flatten_cons, List.map_append, hone, hmore]
      unfold readRoutes
      rw [← List.map_append, ← List.filterMap_append, List.singleton_append]

/-- **What has been sent decides what the log says.** -/
theorem Gets.logs {c : Client} {s t : Session} {urls : List String} (h : c.Gets s urls t) :
    c.Logs s.network urls t.network := by
  rw [h.network]
  obtain ⟨trails, hall, hlog⟩ := c.exists_trails s.network urls
  refine ⟨⟨trails, hall, hlog⟩, ?_⟩
  intro hdirect
  rw [hlog.asked, routes_of_direct hall hdirect]

theorem Gets.later {c : Client} {s t : Session} {urls : List String} (h : c.Gets s urls t) :
    s.network.Later t.network := by
  obtain ⟨trails, -, hlog⟩ := h.logs.trails
  exact ⟨hlog.script, by rw [hlog.asked]; exact List.prefix_append _ _⟩

/-! ## 4. A client and its service -/

/-- A client with two tries, half a second apart. -/
def sampleClient : Client := ⟨"http://a", "", none, 1, 2, ⟨0, 500000000⟩⟩

/-- A reply with a status and a text, and without headers. -/
def sampleReply (status : ℕ) (text : String) : Reaction :=
  .reply ⟨status, none, none, text.toUTF8.toList, true⟩

end IncidentDigest.Client
