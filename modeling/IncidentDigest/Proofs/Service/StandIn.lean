import IncidentDigest.Proofs.Service.Tries
import IncidentDigest.Service.Collect

/-!
# Records that a local file stands in for

Monitoring records are those of the first try that gives an envelope: the records that stand in
it, in order, or none if it lacks them.  If there is one among the tries that are allowed, the
local file makes no difference, whatever it holds and whether it is there.  If there is none, the
records are those of the local file, and it makes no difference how the tries have failed.
-/

namespace IncidentDigest

open Http

/-! ## 1. Envelopes -/

/-- The members of an envelope that hold its records. -/
def recordsMembers (named : List (String × Json.Written)) : List (String × Json.Written) :=
  named.filter fun m => m.1 == "datadog_payloads"

section
variable {text : String} {ms : List (List Json.Piece × Json.Written)}
  {named : List (String × Json.Written)}

theorem slots?_of_recordsMembers (hnamed : Json.Shape.named? ms = some named)
    {slot : Json.Shape.Slot}
    (hslot : (recordsMembers named = [] ∧ slot = .absent) ∨
      ∃ m, recordsMembers named = [m] ∧ slot = .filled m.2) :
    Json.Shape.slots? ["datadog_payloads"] (.obj ms) = some [slot] := by
  unfold recordsMembers at hslot
  simp only [Json.Shape.slots?, hnamed, Option.bind_eq_bind, Option.bind_some, List.mapM_cons,
    List.mapM_nil]
  rcases hslot with ⟨hnone, rfl⟩ | ⟨m, hone, rfl⟩
  · rw [hnone]
    rfl
  · rw [hone]
    rfl

/-- An envelope is a matter of the one slot of its records. -/
theorem readText?_recordsEnvelope (htext : Json.Written.ofText? text = some (.obj ms))
    {slot : Json.Shape.Slot}
    (hslot : Json.Shape.slots? ["datadog_payloads"] (.obj ms) = some [slot]) :
    Json.Shape.readText? recordsEnvelope text = Json.Shape.defaulted none
      (Json.Shape.nullable (Json.Shape.list MonitoringRecord.shape)) (Json.maxDepth - 1) slot := by
  unfold Json.Shape.readText?
  rw [htext]
  change recordsEnvelope Json.maxDepth (.obj ms) = _
  unfold recordsEnvelope Json.Shape.record
  rw [if_neg (by decide), hslot]
  rfl

/-- An envelope without records, or with `null` in their place, is understood, and has none. -/
theorem readText?_recordsEnvelope_of_null (htext : Json.Written.ofText? text = some (.obj ms))
    (hnamed : Json.Shape.named? ms = some named) (honce : (recordsMembers named).length ≤ 1)
    (hnull : ∀ m ∈ recordsMembers named, m.2 = .null) :
    Json.Shape.readText? recordsEnvelope text = some none := by
  rcases hmembers : recordsMembers named with _ | ⟨m, _ | ⟨n, rest⟩⟩
  · have hslot := slots?_of_recordsMembers hnamed (.inl ⟨hmembers, rfl⟩)
    rw [readText?_recordsEnvelope htext hslot]
    rfl
  · have hslot := slots?_of_recordsMembers hnamed (.inr ⟨m, hmembers, rfl⟩)
    rw [readText?_recordsEnvelope htext hslot, hnull m (hmembers ▸ List.mem_singleton_self m)]
    rfl
  · rw [hmembers, List.length_cons, List.length_cons] at honce
    omega

/-- **An envelope with a list** has the records that the items of the list are read as, in
order. -/
theorem readText?_recordsEnvelope_of_list (htext : Json.Written.ofText? text = some (.obj ms))
    (hnamed : Json.Shape.named? ms = some named) {key : String} {items : List Json.Written}
    (honce : recordsMembers named = [(key, .arr items)]) :
    Json.Shape.readText? recordsEnvelope text =
      (items.mapM (MonitoringRecord.shape (Json.maxDepth - 2))).map some := by
  have hslot := slots?_of_recordsMembers hnamed (.inr ⟨_, honce, rfl⟩)
  rw [readText?_recordsEnvelope htext hslot]
  rfl

end

namespace Client

open Call

/-! ## 2. Live records -/

theorem runIn_records {c : Client} {id : String} {s t : Session}
    {result : Except ServiceError (Option (List MonitoringRecord))}
    (h : (c.get (scenarioPath id ++ "/datadog") recordsEnvelope).runIn s = (result, t)) :
    (c.records id).runIn s = (result.map (·.getD []), t) := by
  unfold records
  cases result with
  | error e => exact runIn_bind_error h
  | ok envelope => rw [runIn_bind_ok h]; rfl

theorem runIn_recordsOrLocal_of_ok {c : Client} {id : String} {s t : Session}
    {records : List MonitoringRecord} (h : (c.records id).runIn s = (.ok records, t))
    (files : FileTree) (path : String) :
    (c.recordsOrLocal files id path).runIn s = (.ok (.ok records), t) := by
  unfold recordsOrLocal
  rw [runIn_bind_ok (runIn_outcome _ s), h]
  rfl

theorem runIn_recordsOrLocal_of_error {c : Client} {id : String} {s t : Session}
    {e : ServiceError} (h : (c.records id).runIn s = (.error e, t)) (files : FileTree)
    (path : String) : (c.recordsOrLocal files id path).runIn s =
      (.ok (files.readMockRecords path), t.warn (.localRecords e path)) := by
  unfold recordsOrLocal
  rw [runIn_bind_ok (runIn_outcome _ s), h]
  rfl

/-! ## 3. The local file -/

/-- **A local file stands in for the service, and does nothing else.**  If one of the tries that
are allowed comes to a success whose body is an envelope, the records are those of the first such
envelope; every tree of files and every path leads to the same end.  If there is no such try, all
tries are made, and the records, or the failure, are those of the local file.

The records of an envelope are those that stand in it, in order; an envelope that lacks them has
none. -/
theorem recordsOrLocal_falls_back (c : Client) (id : String) (s : Session) :
    let url := c.url (scenarioPath id ++ "/datadog")
    let limit := max 1 c.attempts
    let answer (n : ℕ) := (c.getRequest? url).bind fun r =>
      (s.network.delivery r n).gives recordsEnvelope
    ((∃ n < limit, (answer n).isSome = true) →
      ∃ n envelope t, n < limit ∧ answer n = some envelope ∧ (∀ k < n, answer k = none) ∧
        c.Gets s (List.replicate (n + 1) url) t ∧
        ∀ files path, (c.recordsOrLocal files id path).runIn s =
          (.ok (.ok (envelope.getD [])), t)) ∧
    ((∀ n < limit, answer n = none) →
      ∃ e t, c.Gets s (List.replicate limit url) t ∧
        ∀ files path, (c.recordsOrLocal files id path).runIn s =
          (.ok (files.readMockRecords path), t.warn (.localRecords e path))) ∧
    ∀ text ms named, Json.Written.ofText? text = some (.obj ms) →
      Json.Shape.named? ms = some named →
      ((recordsMembers named).length ≤ 1 → (∀ m ∈ recordsMembers named, m.2 = .null) →
        Json.Shape.readText? recordsEnvelope text = some none) ∧
      ∀ key items records, recordsMembers named = [(key, .arr items)] →
        items.mapM (MonitoringRecord.shape (Json.maxDepth - 2)) = some records →
        Json.Shape.readText? recordsEnvelope text = some (some records) := by
  intro url limit answer
  have hanswer : ∀ n, answer n = (c.outcomes url recordsEnvelope s n).toOption := by
    intro n
    exact (c.toOption_outcomes url recordsEnvelope s n).symm
  obtain ⟨errors, hread⟩ := c.reads_get (scenarioPath id ++ "/datadog") recordsEnvelope s
  have hbound := hread.tries_bounds.2
  have hfailed : ∀ k < errors.length, answer k = none := by
    intro k hk
    rw [hanswer, hread.failed k hk]
    rfl
  have hlive : (∃ n < limit, (answer n).isSome = true) →
      ∃ n envelope t, n < limit ∧ answer n = some envelope ∧ (∀ k < n, answer k = none) ∧
        c.Gets s (List.replicate (n + 1) url) t ∧
        ∀ files path, (c.recordsOrLocal files id path).runIn s =
          (.ok (.ok (envelope.getD [])), t) := by
    rintro ⟨n, hn, hsome⟩
    rcases hget : (c.get (scenarioPath id ++ "/datadog") recordsEnvelope).runIn s with
      ⟨e | envelope, t⟩
    · -- every try has failed, the one in question among them
      rw [hget] at hread
      have hlength : errors.length + 1 = limit := hread.tries_of_error
      have hnone : answer n = none := by
        rcases Nat.lt_or_ge n errors.length with hlt | hge
        · exact hfailed n hlt
        · obtain rfl : n = errors.length := by omega
          rw [hanswer, hread.last]
          rfl
      rw [hnone] at hsome
      cases hsome
    · rw [hget] at hread
      have hlast : answer errors.length = some envelope := by
        rw [hanswer, hread.last]
        rfl
      exact ⟨errors.length, envelope, t, by omega, hlast, hfailed, hread.gets,
        fun files path => runIn_recordsOrLocal_of_ok (runIn_records hget) files path⟩
  have hlocal : (∀ n < limit, answer n = none) →
      ∃ e t, c.Gets s (List.replicate limit url) t ∧
        ∀ files path, (c.recordsOrLocal files id path).runIn s =
          (.ok (files.readMockRecords path), t.warn (.localRecords e path)) := by
    intro hall
    rcases hget : (c.get (scenarioPath id ++ "/datadog") recordsEnvelope).runIn s with
      ⟨e | envelope, t⟩
    · rw [hget] at hread
      have hlength : errors.length + 1 = limit := hread.tries_of_error
      exact ⟨e, t, hlength ▸ hread.gets, fun files path =>
        runIn_recordsOrLocal_of_error (runIn_records hget) files path⟩
    · rw [hget] at hread
      have hlast := hall errors.length (by omega)
      rw [hanswer, hread.last] at hlast
      cases hlast
  refine ⟨hlive, hlocal, ?_⟩
  intro text ms named htext hnamed
  constructor
  · exact readText?_recordsEnvelope_of_null htext hnamed
  · intro key items records honce hrecords
    rw [readText?_recordsEnvelope_of_list htext hnamed honce, hrecords]
    rfl

/-! ### Live and local records -/

/-- An envelope with one record. -/
def envelopeOf (name : String) : String :=
  "\x7b\"datadog_payloads\":[\x7b\"name\":\"" ++ name ++ "\"\x7d]\x7d"

/-- A tree with a local file that has a record. -/
def mockTree : FileTree := ⟨[(["mock.json"], .file (envelopeOf "local"))], []⟩

/-- The records of the second try count before those of any local file; without a connection, those
of the local file do. -/
theorem recordsOrLocal_falls_back_after_refusal :
    (∃ (live : List MonitoringRecord) (t : Session), live.map (·.name) = [some "live"] ∧ t.sent.length = 2 ∧
      ∀ files path, (sampleClient.recordsOrLocal files "a" path).runIn
        (.ofScript (busyOnce (envelopeOf "live"))) = (.ok (.ok live), t)) ∧
    ∃ (mock : List MonitoringRecord) (e : ServiceError) (t : Session), mock.map (·.name) = [some "local"] ∧ t.sent.length = 2 ∧
      (sampleClient.recordsOrLocal mockTree "a" "mock.json").runIn
        (.ofScript fun _ _ => .refusal) =
          (.ok (.ok mock), t.warn (.localRecords e "mock.json")) := by
  constructor
  · have hfirst : ((sampleClient.getRequest? "http://a/hackathon/scenarios/a/datadog").bind fun r =>
        ((Network.ofScript (busyOnce (envelopeOf "live"))).delivery r 0).gives
          recordsEnvelope).isNone = true := by decide +kernel
    have hsecond : ((sampleClient.getRequest? "http://a/hackathon/scenarios/a/datadog").bind fun r =>
        ((Network.ofScript (busyOnce (envelopeOf "live"))).delivery r 1).gives
          recordsEnvelope).map (fun envelope => (envelope.getD []).map (·.name)) =
            some [some "live"] := by decide +kernel
    have hlive := (recordsOrLocal_falls_back sampleClient "a"
      (.ofScript (busyOnce (envelopeOf "live")))).1
    obtain ⟨n, envelope, t, hn, hanswer, -, hgets, hrun⟩ :=
      hlive ⟨1, by decide, by
        rw [← Option.isSome_map]
        exact congrArg Option.isSome hsecond⟩
    obtain rfl : n = 1 := by
      rcases n with _ | _ | n
      · rw [Option.isNone_iff_eq_none] at hfirst
        exact absurd (hfirst.symm.trans hanswer) (by simp)
      · rfl
      · exact absurd hn (by simp [sampleClient])
    refine ⟨envelope.getD [], t, ?_, ?_, hrun⟩
    · have hnames := (congrArg (Option.map _) hanswer).symm.trans hsecond
      exact Option.some.inj hnames
    · rw [hgets.sent]
      rfl
  · have hmock : (mockTree.readMockRecords "mock.json").toOption.map
        (fun records => records.map (·.name)) = some [some "local"] := by decide +kernel
    have hrefused : ∀ n < 2,
        (sampleClient.getRequest? "http://a/hackathon/scenarios/a/datadog").bind (fun r =>
          ((Network.ofScript fun _ _ => .refusal).delivery r n).gives recordsEnvelope) = none := by
      decide +kernel
    have hlocal := (recordsOrLocal_falls_back sampleClient "a" (.ofScript fun _ _ => .refusal)).2.1
    obtain ⟨e, t, hgets, hrun⟩ := hlocal hrefused
    rcases hrecords : mockTree.readMockRecords "mock.json" with f | mock
    · rw [hrecords] at hmock
      cases hmock
    · rw [hrecords] at hmock
      refine ⟨mock, e, t, Option.some.inj hmock, ?_, ?_⟩
      · rw [hgets.sent]
        rfl
      · rw [hrun, hrecords]

end Client
end IncidentDigest
