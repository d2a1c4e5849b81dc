import IncidentDigest.Http.Redirect
import Mathlib

/-!
# Where requests lead

The other side answers each route by its own sequence of reactions.  What a route has ahead
is the part of its sequence that no request has used up; a request takes the first reaction
of its own route and leaves all others where they are.  If this reaction leads on, the next
request takes the first reaction of its route, and so on.

A set of routes is *closed* if whatever they have ahead leads to no other routes, and the
routes that some routes *reach* are the least closed set around them.  What comes of a
request is decided by what such a set has ahead, and no other route is touched
(`follow_congr`, `upcoming_follow_of_not_mem`).
-/

namespace IncidentDigest.Http

/-- The address that a reaction names, if it is a reply that names one. -/
def Reaction.location? : Reaction → Option String
  | .reply r => r.location
  | _ => none

namespace Network

/-! ## 1. What a route has ahead -/

/-- The reactions that the next requests of a route meet with, in order. -/
def upcoming (n : Network) (route : Route) (k : ℕ) : Reaction :=
  n.script route (n.asked.count route + k)

theorem upcoming_ofScript (script : Script) (route : Route) :
    (ofScript script).upcoming route = script route := by
  funext k
  simp [upcoming, ofScript]

theorem upcoming_exchange_self (n : Network) (r : Request) :
    (n.exchange r).2.upcoming r.route = fun k => n.upcoming r.route (k + 1) := by
  funext k
  unfold upcoming
  rw [exchange_script, exchange_asked, List.count_append, List.count_singleton_self]
  congr 1
  omega

theorem upcoming_exchange_of_ne (n : Network) (r : Request) {route : Route}
    (h : route ≠ r.route) : (n.exchange r).2.upcoming route = n.upcoming route := by
  funext k
  unfold upcoming
  have hnone : [r.route].count route = 0 :=
    List.count_eq_zero.mpr fun hmem => h (List.mem_singleton.mp hmem)
  rw [exchange_script, exchange_asked, List.count_append, hnone, Nat.add_zero]

/-- A network after some more requests. -/
structure Later (n m : Network) : Prop where
  script : m.script = n.script
  asked : n.asked <+: m.asked

section
variable {n m l : Network}

theorem Later.refl (n : Network) : n.Later n := ⟨rfl, List.prefix_rfl⟩

theorem Later.trans (h : n.Later m) (h' : m.Later l) : n.Later l :=
  ⟨h'.script.trans h.script, h.asked.trans h'.asked⟩

/-- Requests do nothing to a route but to use up some of its reactions. -/
theorem Later.upcoming (h : n.Later m) (route : Route) :
    ∃ used, ∀ k, m.upcoming route k = n.upcoming route (k + used) := by
  obtain ⟨routes, hasked⟩ := h.asked
  refine ⟨routes.count route, ?_⟩
  intro k
  unfold Network.upcoming
  rw [h.script, ← hasked, List.count_append, Nat.add_assoc, Nat.add_comm k]

end

/-- A network after exactly these requests, some of which have arrived. -/
structure Logged (n : Network) (rs : List Request) (m : Network) : Prop where
  script : m.script = n.script
  asked : m.asked = n.asked ++ rs.map Request.route
  arrived : ∃ came : List Request, came.Sublist rs ∧
    m.received = n.received ++ came.map Request.arrived

section
variable {n m l : Network} {rs more : List Request}

theorem Logged.nil (n : Network) : n.Logged [] n where
  script := rfl
  asked := (List.append_nil _).symm
  arrived := ⟨[], .refl [], (List.append_nil _).symm⟩

theorem Logged.append (h : n.Logged rs m) (h' : m.Logged more l) : n.Logged (rs ++ more) l where
  script := h'.script.trans h.script
  asked := by rw [h'.asked, h.asked, List.map_append, List.append_assoc]
  arrived := by
    obtain ⟨first, hfirst, hreceived⟩ := h.arrived
    obtain ⟨second, hsecond, hreceived'⟩ := h'.arrived
    refine ⟨first ++ second, hfirst.append hsecond, ?_⟩
    rw [hreceived', hreceived, List.map_append, List.append_assoc]

end

theorem logged_exchange (n : Network) (r : Request) : n.Logged [r] (n.exchange r).2 where
  script := n.exchange_script r
  asked := n.exchange_asked r
  arrived := by
    unfold exchange
    split
    · exact ⟨[r], .refl [r], rfl⟩
    · exact ⟨[r], .refl [r], rfl⟩
    · exact ⟨[], List.nil_sublist _, (List.append_nil _).symm⟩

theorem later_exchange (n : Network) (r : Request) : n.Later (n.exchange r).2 :=
  ⟨n.exchange_script r, by rw [exchange_asked]; exact List.prefix_append _ _⟩

/-! ## 2. Steps on the way -/

section
variable (limit : ℕ) (r : Request) (n : Network)

theorem follow_zero : follow 0 r n = match r.onward? (n.upcoming r.route 0) with
    | none => (.ended (n.upcoming r.route 0), (n.exchange r).2)
    | some _ => (.astray r.url.shown, (n.exchange r).2) := by
  have hreaction : (n.exchange r).1 = n.upcoming r.route 0 := n.exchange_fst r
  rw [← hreaction]
  rfl

theorem follow_succ : follow (limit + 1) r n = match r.onward? (n.upcoming r.route 0) with
    | none => (.ended (n.upcoming r.route 0), (n.exchange r).2)
    | some (.error shown) => (.stranded shown, (n.exchange r).2)
    | some (.ok next) => follow limit next (n.exchange r).2 := by
  have hreaction : (n.exchange r).1 = n.upcoming r.route 0 := n.exchange_fst r
  rw [← hreaction]
  rfl

/-- A request that leads nowhere is a single exchange. -/
theorem follow_of_stay (h : r.onward? (n.upcoming r.route 0) = none) :
    follow limit r n = (.ended (n.upcoming r.route 0), (n.exchange r).2) := by
  cases limit with
  | zero => rw [follow_zero, h]
  | succ limit => rw [follow_succ, h]

theorem later_follow : n.Later (follow limit r n).2 := by
  induction limit generalizing r n with
  | zero =>
      rw [follow_zero]
      split
      · exact n.later_exchange r
      · exact n.later_exchange r
  | succ limit ih =>
      rw [follow_succ]
      split
      · exact n.later_exchange r
      · exact n.later_exchange r
      · rename_i next hnext
        exact (n.later_exchange r).trans (ih next _)

end

/-- What a request meets with in the end has been ahead of some route. -/
theorem exists_upcoming_of_ended {limit : ℕ} {r : Request} {n : Network} {reaction : Reaction}
    (h : (follow limit r n).1 = .ended reaction) : ∃ route k, n.upcoming route k = reaction := by
  induction limit generalizing r n with
  | zero =>
      rw [follow_zero] at h
      split at h
      · exact ⟨r.route, 0, Delivery.ended.inj h⟩
      · cases h
  | succ limit ih =>
      rw [follow_succ] at h
      split at h
      · exact ⟨r.route, 0, Delivery.ended.inj h⟩
      · cases h
      · obtain ⟨route, k, hahead⟩ := ih h
        obtain ⟨used, hused⟩ := (n.later_exchange r).upcoming route
        exact ⟨route, k + used, (hused k).symm.trans hahead⟩

/-- Requests each of which a reaction to the one before leads to. -/
inductive Trail (n : Network) : Request → List Request → Prop where
  | stay (r : Request) : Trail n r [r]
  | next {r next : Request} {rs : List Request} {k : ℕ}
      (h : r.onward? (n.upcoming r.route k) = some (.ok next)) (hrest : Trail n next rs) :
      Trail n r (r :: rs)

theorem Trail.of_later {n m : Network} (hlater : n.Later m) {r : Request} {rs : List Request}
    (h : m.Trail r rs) : n.Trail r rs := by
  induction h with
  | stay r => exact .stay r
  | @next r next rs k hnext hrest ih =>
      obtain ⟨used, hused⟩ := hlater.upcoming r.route
      rw [hused] at hnext
      exact .next hnext ih

/-- A request that leads nowhere is the only one on the way. -/
theorem Trail.eq_of_stay {n : Network} {r : Request} {rs : List Request} (h : n.Trail r rs)
    (hstay : ∀ k, r.onward? (n.upcoming r.route k) = none) : rs = [r] := by
  cases h with
  | stay => rfl
  | next hnext hrest =>
      rw [hstay] at hnext
      cases hnext

/-- **The requests on the way**: the first one, and those that it leads to. -/
theorem exists_trail (limit : ℕ) (r : Request) (n : Network) :
    ∃ rs, n.Trail r rs ∧ rs.length ≤ limit + 1 ∧ n.Logged rs (follow limit r n).2 := by
  have hone := n.logged_exchange r
  induction limit generalizing r n with
  | zero =>
      rw [follow_zero]
      refine ⟨[r], .stay r, Nat.le_refl 1, ?_⟩
      split
      · exact hone
      · exact hone
  | succ limit ih =>
      rw [follow_succ]
      split
      · exact ⟨[r], .stay r, Nat.le_add_left 1 _, hone⟩
      · exact ⟨[r], .stay r, Nat.le_add_left 1 _, hone⟩
      · rename_i next hnext
        obtain ⟨rs, htrail, hlength, hrest⟩ :=
          ih next (n.exchange r).2 (logged_exchange _ next)
        refine ⟨r :: rs, .next hnext (htrail.of_later (n.later_exchange r)), ?_,
          hone.append hrest⟩
        rw [List.length_cons]
        omega

/-! ## 3. Closed sets of routes -/

/-- What some routes have ahead leads to these routes only. -/
def Closed (n : Network) (R : Set Route) : Prop :=
  ∀ (r next : Request) (k : ℕ), r.route ∈ R →
    r.onward? (n.upcoming r.route k) = some (.ok next) → next.route ∈ R

/-- Two networks have the same reactions ahead on some routes. -/
def AgreeOn (R : Set Route) (n m : Network) : Prop :=
  ∀ route ∈ R, n.upcoming route = m.upcoming route

section
variable {n m : Network} {R S : Set Route}

theorem closed_univ (n : Network) : n.Closed Set.univ := fun _ _ _ _ _ => Set.mem_univ _

theorem Closed.later (h : n.Closed R) (hlater : n.Later m) : m.Closed R := by
  intro r next k hr hnext
  obtain ⟨used, hused⟩ := hlater.upcoming r.route
  rw [hused] at hnext
  exact h r next _ hr hnext

theorem Closed.congr (h : n.Closed R) (hagree : AgreeOn R n m) : m.Closed R := by
  intro r next k hr hnext
  rw [← hagree r.route hr] at hnext
  exact h r next k hr hnext

theorem AgreeOn.mono (h : AgreeOn S n m) (hsub : R ⊆ S) : AgreeOn R n m :=
  fun route hroute => h route (hsub hroute)

theorem AgreeOn.exchange (h : AgreeOn R n m) (r : Request) (hr : r.route ∈ R) :
    AgreeOn R (n.exchange r).2 (m.exchange r).2 := by
  intro route hroute
  by_cases hself : route = r.route
  · subst hself
    rw [upcoming_exchange_self, upcoming_exchange_self, h r.route hr]
  · rw [upcoming_exchange_of_ne n r hself, upcoming_exchange_of_ne m r hself]
    exact h route hroute

/-- **What comes of a request** is decided by what a closed set around its route has ahead. -/
theorem follow_congr (hclosed : n.Closed R) (hagree : AgreeOn R n m) {r : Request}
    (hr : r.route ∈ R) (limit : ℕ) :
    (follow limit r n).1 = (follow limit r m).1 ∧
      AgreeOn R (follow limit r n).2 (follow limit r m).2 := by
  have hsame : n.upcoming r.route = m.upcoming r.route := hagree r.route hr
  have hleft := hagree.exchange r hr
  -- on the limit; the next request is made in two networks that agree as before
  induction limit generalizing r n m with
  | zero =>
      rw [follow_zero, follow_zero, ← hsame]
      split
      · exact ⟨rfl, hleft⟩
      · exact ⟨rfl, hleft⟩
  | succ limit ih =>
      rw [follow_succ, follow_succ, ← hsame]
      split
      · exact ⟨rfl, hleft⟩
      · exact ⟨rfl, hleft⟩
      · rename_i next hnext
        have hmem : next.route ∈ R := hclosed r next 0 hr hnext
        exact ih (hclosed.later (n.later_exchange r)) hleft hmem (hleft next.route hmem)
          (hleft.exchange next hmem)

/-- The routes outside a closed set are left alone. -/
theorem upcoming_follow_of_not_mem (hclosed : n.Closed R) {r : Request} (hr : r.route ∈ R)
    (limit : ℕ) {route : Route} (hroute : route ∉ R) :
    (follow limit r n).2.upcoming route = n.upcoming route := by
  have hother : (n.exchange r).2.upcoming route = n.upcoming route :=
    n.upcoming_exchange_of_ne r fun h => hroute (h ▸ hr)
  induction limit generalizing r n with
  | zero =>
      rw [follow_zero]
      split
      · exact hother
      · exact hother
  | succ limit ih =>
      rw [follow_succ]
      split
      · exact hother
      · exact hother
      · rename_i next hnext
        have hmem : next.route ∈ R := hclosed r next 0 hr hnext
        rw [ih (hclosed.later (n.later_exchange r)) hmem
          (upcoming_exchange_of_ne _ next fun h => hroute (h ▸ hmem)), hother]

end

/-! ### The routes that are reached -/

section
variable {n m : Network} {R S : Set Route}

/-- Nothing that some routes have ahead leads on. -/
def Direct (n : Network) (R : Set Route) : Prop :=
  ∀ (r : Request) (k : ℕ), r.route ∈ R → r.onward? (n.upcoming r.route k) = none

theorem Direct.mono (h : n.Direct S) (hsub : R ⊆ S) : n.Direct R :=
  fun r k hr => h r k (hsub hr)

/-- Replies that name no other address lead nowhere. -/
theorem direct_ofScript {script : Script} (h : ∀ route k, (script route k).location? = none)
    (R : Set Route) : (ofScript script).Direct R := by
  intro r k _
  have hnowhere := h r.route k
  rw [upcoming_ofScript]
  cases hreaction : script r.route k with
  | reply reply =>
      rw [hreaction] at hnowhere
      have hlocation : reply.location = none := hnowhere
      simp [Request.onward?, Reply.target?, hlocation]
  | closed => rfl
  | silence => rfl
  | refusal => rfl

theorem Direct.closed (h : n.Direct R) : n.Closed R := by
  intro r next k hr hnext
  rw [h r k hr] at hnext
  cases hnext

end

/-! ## 4. The same request again and again -/

/-- The network after a request has been sent so many times. -/
def afterSends (n : Network) (r : Request) (k : ℕ) : Network := (fun n => (n.deliver r).2)^[k] n

/-- What comes of a request when it is sent again and again. -/
def delivery (n : Network) (r : Request) (k : ℕ) : Delivery := ((n.afterSends r k).deliver r).1

section
variable (n : Network) (r : Request)

theorem afterSends_add (j k : ℕ) : n.afterSends r (j + k) = (n.afterSends r j).afterSends r k := by
  unfold afterSends
  rw [Nat.add_comm, Function.iterate_add_apply]

theorem delivery_add (j k : ℕ) : n.delivery r (j + k) = (n.afterSends r j).delivery r k := by
  unfold delivery
  rw [afterSends_add]

theorem later_deliver : n.Later (n.deliver r).2 := later_follow redirectLimit r n

theorem later_afterSends (k : ℕ) : n.Later (n.afterSends r k) := by
  induction k with
  | zero => exact .refl n
  | succ k ih =>
      rw [afterSends_add]
      exact ih.trans (later_deliver _ r)

variable {n r}

/-- As long as its reactions lead nowhere, each sending of a request is a single exchange. -/
theorem asked_afterSends_of_stay {k : ℕ}
    (h : ∀ j < k, r.onward? (n.upcoming r.route j) = none) :
    (n.afterSends r k).asked = n.asked ++ List.replicate k r.route := by
  induction k with
  | zero => exact (List.append_nil _).symm
  | succ k ih =>
      have hbefore := ih fun j hj => h j (Nat.lt_succ_of_lt hj)
      have hstay : r.onward? ((n.afterSends r k).upcoming r.route 0) = none := by
        unfold upcoming
        rw [(n.later_afterSends r k).script, hbefore, List.count_append,
          List.count_replicate_self]
        exact h k (Nat.lt_succ_self k)
      have hlast : (n.afterSends r (k + 1)).asked =
          (follow redirectLimit r (n.afterSends r k)).2.asked := by
        rw [afterSends_add]
        rfl
      rw [hlast, follow_of_stay _ _ _ hstay, exchange_asked, hbefore, List.append_assoc,
        List.replicate_succ']

/-- Then it comes to one reaction after another. -/
theorem delivery_of_stay {k : ℕ} (h : ∀ j ≤ k, r.onward? (n.upcoming r.route j) = none) :
    n.delivery r k = .ended (n.upcoming r.route k) := by
  have hasked := asked_afterSends_of_stay fun j (hj : j < k) => h j (Nat.le_of_lt hj)
  have hnext : (n.afterSends r k).upcoming r.route 0 = n.upcoming r.route k := by
    unfold upcoming
    rw [(n.later_afterSends r k).script, hasked, List.count_append, List.count_replicate_self]
    rfl
  have hstay : r.onward? ((n.afterSends r k).upcoming r.route 0) = none := by
    rw [hnext]
    exact h k (Nat.le_refl k)
  unfold delivery deliver
  rw [follow_of_stay _ _ _ hstay, hnext]

end

end Network
end IncidentDigest.Http
