import IncidentDigest.Proofs.Service.Isolation

/-!
# Where collections fail

A collection is a sequence of operations of the client.  Some of them are isolated: their
failures become values or warnings.  This module says, for each collection, which of its
operations are not, so that the collection fails exactly when one of these does.
-/

namespace IncidentDigest

/-- A sequence of two steps fails in the first one, or in the second one after the first
has succeeded. -/
theorem sequence_eq_error_iff {σ ε α β : Type} {first : Except ε α × σ}
    {second : α → σ → Except ε β × σ} {both : Except ε β × σ} {e : ε}
    (hok : ∀ v s, first = (.ok v, s) → both = second v s)
    (herror : ∀ e' s, first = (.error e', s) → both = (.error e', s)) :
    both.1 = .error e ↔
      first.1 = .error e ∨ ∃ v s, first = (.ok v, s) ∧ (second v s).1 = .error e := by
  rcases first with ⟨e' | v, s⟩
  · rw [herror e' s rfl]
    constructor
    · intro h
      exact Or.inl (congrArg Except.error (Except.error.inj h))
    · rintro (h | ⟨v, s', h, -⟩)
      · exact congrArg Except.error (Except.error.inj h)
      · exact absurd (congrArg Prod.fst h) (by simp)
  · rw [hok v s rfl]
    constructor
    · intro h
      exact Or.inr ⟨v, s, rfl, h⟩
    · rintro (h | ⟨v', s', h, hsecond⟩)
      · exact absurd h (by simp)
      · obtain ⟨rfl, rfl⟩ : v = v' ∧ s = s' := by simpa using h
        exact hsecond

namespace Call

variable {α β : Type}

/-- A call ends in a failure. -/
def Fails (c : Call α) (s : Session) (e : ServiceError) : Prop :=
  (c.runIn s).1 = .error e

theorem Fails.not_ok {c : Call α} {s s' : Session} {e : ServiceError} {v : α}
    (h : c.Fails s e) : c.runIn s ≠ (.ok v, s') := by
  intro hrun
  rw [Fails, hrun] at h
  exact absurd h (by simp)

theorem not_fails_pure (v : α) (s : Session) (e : ServiceError) : ¬ (pure v : Call α).Fails s e := by
  intro h
  exact h.not_ok (runIn_pure v s)

theorem ok_of_runIn_bind {c : Call α} {f : α → Call β} {s s' : Session} {v : β}
    (h : (c >>= f).runIn s = (.ok v, s')) :
    ∃ u s₁, c.runIn s = (.ok u, s₁) ∧ (f u).runIn s₁ = (.ok v, s') := by
  rcases hrun : c.runIn s with ⟨e | u, s₁⟩
  · rw [runIn_bind_error hrun] at h
    exact absurd (congrArg Prod.fst h) (by simp)
  · rw [runIn_bind_ok hrun] at h
    exact ⟨u, s₁, rfl, h⟩

theorem fails_bind_iff {c : Call α} {f : α → Call β} {s : Session} {e : ServiceError} :
    (c >>= f).Fails s e ↔ c.Fails s e ∨ ∃ v s', c.runIn s = (.ok v, s') ∧ (f v).Fails s' e :=
  sequence_eq_error_iff (fun _ _ h => runIn_bind_ok h) (fun _ _ h => runIn_bind_error h)

theorem fails_bind_pure_iff {c : Call α} {f : α → β} {s : Session} {e : ServiceError} :
    (c >>= fun v => pure (f v)).Fails s e ↔ c.Fails s e := by
  rw [fails_bind_iff]
  constructor
  · rintro (h | ⟨v, s', -, h⟩)
    · exact h
    · exact absurd h (not_fails_pure _ s' e)
  · exact Or.inl

end Call

namespace Client

open Call

/-! ## 1. Downloads -/

/-- The download of some scenarios fails with the first one that cannot be had. -/
theorem payloads_fails_iff (c : Client) (ids : List String) (s : Session) (e : ServiceError) :
    (c.payloads ids).Fails s e ↔
      ∃ before id after got s', ids = before ++ id :: after ∧
        (c.payloads before).runIn s = (.ok got, s') ∧ (c.payload id).Fails s' e := by
  induction ids generalizing s with
  | nil =>
      constructor
      · intro h
        exact absurd h (not_fails_pure _ s e)
      · rintro ⟨before, id, after, got, s', hids, -⟩
        exact absurd hids (by simp)
  | cons id rest ih =>
      have hcons : (c.payloads (id :: rest)).Fails s e ↔
          (c.payload id).Fails s e ∨
            ∃ p s', (c.payload id).runIn s = (.ok p, s') ∧ (c.payloads rest).Fails s' e := by
        rw [payloads, fails_bind_iff]
        simp only [fails_bind_pure_iff]
      -- the first scenario is to blame, or one behind it after the first has been had
      rw [hcons]
      constructor
      · rintro (h | ⟨p, s₁, hp, h⟩)
        · exact ⟨[], id, rest, [], s, rfl, rfl, h⟩
        · obtain ⟨before, id', after, got, s', rfl, hbefore, hid⟩ := (ih s₁).mp h
          refine ⟨id :: before, id', after, p :: got, s', rfl, ?_, hid⟩
          rw [payloads, runIn_bind_ok hp, runIn_bind_ok hbefore, runIn_pure]
      · rintro ⟨before, id', after, got, s', hids, hbefore, hid⟩
        cases before with
        | nil =>
            obtain ⟨rfl, rfl⟩ : id = id' ∧ rest = after := by simpa using hids
            obtain rfl : s = s' := congrArg Prod.snd hbefore
            exact Or.inl hid
        | cons first before =>
            obtain ⟨rfl, rfl⟩ : id = first ∧ rest = before ++ id' :: after := by simpa using hids
            rw [payloads] at hbefore
            obtain ⟨p, s₁, hp, hbefore⟩ := ok_of_runIn_bind hbefore
            obtain ⟨ps, s₂, hps, hbefore⟩ := ok_of_runIn_bind hbefore
            obtain rfl : s₂ = s' := congrArg Prod.snd hbefore
            exact Or.inr ⟨p, s₁, hp, (ih s₁).mpr ⟨before, id', after, ps, s₂, rfl, hps, hid⟩⟩

theorem fetchAll_fails_iff (c : Client) (s : Session) (e : ServiceError) :
    c.fetchAll.Fails s e ↔ c.list.Fails s e ∨
      ∃ entries s', c.list.runIn s = (.ok entries, s') ∧
        (c.payloads (entries.filterMap usableId?)).Fails s' e :=
  fails_bind_iff

/-! ## 2. Dumps -/

/-- A walk over the listing never fails, whichever scenario is wanted. -/
theorem dumpEntries_ok (c : Client) (only : Option String) (entries : List ScenarioSummary)
    (s : Session) : ∃ dumps s', (c.dumpEntries only entries).runIn s = (.ok dumps, s') := by
  rcases only with _ | wanted
  · obtain ⟨dumps, s', hrun, -⟩ := dumpEntries_none_ok c entries s
    exact ⟨dumps, s', hrun⟩
  · induction entries generalizing s with
    | nil => exact ⟨[], s, rfl⟩
    | cons e rest ih =>
        rw [dumpEntries]
        rcases usableId? e with _ | id
        · exact ih (s.warn _)
        · by_cases hwanted : wanted = id
          · -- the walk ends with the scenario that is wanted
            obtain ⟨d, s₁, hone, -⟩ := dumpOne_ok c e id s
            simp only [if_pos hwanted]
            exact ⟨[d], s₁, by rw [runIn_bind_ok hone, runIn_pure]⟩
          · simp only [if_neg hwanted]
            exact ih s

theorem dump_fails_iff (c : Client) (only : Option String) (s : Session) (e : ServiceError) :
    (c.dump only).Fails s e ↔ c.list.Fails s e := by
  unfold dump
  rw [fails_bind_iff]
  constructor
  · rintro (h | ⟨entries, s', -, h⟩)
    · exact h
    · obtain ⟨dumps, s'', hrun⟩ := dumpEntries_ok c (wanted? only) entries s'
      exact absurd hrun h.not_ok
  · exact Or.inl

/-! ## 3. Monitoring records -/

/-- Monitoring records never fail: a local file stands in for the service. -/
theorem recordsOrLocal_ok (c : Client) (files : FileTree) (id path : String) (s : Session) :
    ∃ records s', (c.recordsOrLocal files id path).runIn s = (.ok records, s') := by
  unfold recordsOrLocal
  rw [runIn_bind_ok (runIn_outcome _ s)]
  rcases ((c.records id).runIn s).1 with e | records
  · exact ⟨_, _, rfl⟩
  · exact ⟨_, _, rfl⟩

end Client
end IncidentDigest
