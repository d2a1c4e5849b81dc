import IncidentDigest.Proofs.Counter.Heads
import IncidentDigest.Proofs.Instant.WellFormed
import IncidentDigest.Proofs.Summary.Reference
import IncidentDigest.Report.Analysis

/-!
# The two reports agree

The compact report and the analysis report are built from one summary, each in its own
way: the compact one asks the counters for their top entries, the analysis one lists the
five most frequent entries, and the findings in words mix both.  `Agree` states what the
two say of the same facts, and `reports_agree` that they agree for all records and
requests, and fail together.
-/

namespace IncidentDigest

/-! ## 1. The top of a ranking -/

namespace Counter

theorem head?_namedCounts (c : Counter) {k : Nat} (hk : 0 < k) :
    (c.namedCounts k).head? = c.top.map fun e => ⟨e.1, e.2⟩ := by
  unfold namedCounts
  rw [List.head?_map, top_eq_head?_mostCommon c hk]

/-- The name of the top entry is the first of the listed names. -/
theorem map_fst_top (c : Counter) {k : Nat} (hk : 0 < k) :
    c.top.map (·.1) = (c.namedCounts k).head?.map (·.name) := by
  rw [head?_namedCounts c hk, Option.map_map]
  rfl

end Counter

/-- No value is counted more often than there are records. -/
theorem IsBucket.count_le {f : Facet} {records : List MonitoringRecord}
    {bucket : List RankedEntry} (h : IsBucket (f.values records) bucket) :
    ∀ e ∈ bucket, e.count ≤ records.length := by
  obtain ⟨ranked, hranking, rfl⟩ := h
  intro e he
  obtain ⟨entry, hentry, rfl⟩ := List.mem_map.mp he
  have hmem : entry ∈ occurrences (f.values records) :=
    hranking.perm.mem_iff.mp (List.mem_of_mem_take hentry)
  calc entry.2 = (f.values records).count entry.1 := (mem_occurrences.mp hmem).2
    _ ≤ (f.values records).length := List.count_le_length
    _ ≤ records.length := f.length_values_le records

/-! ## 2. Agreement -/

/-- The finding about the most frequent error code. -/
def errorCodeFinding (e : RankedEntry) : String :=
  s!"Top error code: {e.value} ({e.count} occurrences)"

/-- The finding about the most frequent dependency. -/
def dependencyFinding (e : NamedCount) : String :=
  s!"Most active dependency: {e.name} ({e.count} calls)"

/-- What a compact report and an analysis report of the same records say of the same
facts. -/
structure Agree (request : ReportRequest) (records : List MonitoringRecord)
    (compact : CompactReport) (analysis : AnalysisReport) : Prop where
  window : compact.window = analysis.window
  versions : compact.buckets.byVersion = analysis.analysis.topVersions
  hosts : compact.buckets.byHost = analysis.analysis.topHosts
  errorCodes : compact.buckets.byErrorCode = analysis.analysis.errorCodes
  /-- There is one series for each version, with one point at the end of the window. -/
  series : compact.metricCheck.series = analysis.analysis.topVersions.map fun e =>
    ⟨e.value, [(request.stop.seconds * 1000, e.count)]⟩
  /-- No point overflows, as far as its instant exists and its count can be counted. -/
  inBounds : Instant.inRange request.stop.seconds = true →
    ∀ s ∈ compact.metricCheck.series, ∀ point ∈ s.points,
      -(Numeral.signedBound : Int) ≤ point.1 ∧ point.1 < Numeral.signedBound ∧
        0 ≤ point.2 ∧ point.2 ≤ records.length
  topDependency : compact.spans.topDependency = analysis.analysis.dependencies.head?.map (·.name)
  topOperation : compact.spans.topOperation = analysis.analysis.operations.head?.map (·.name)
  noDependency : compact.spans.topDependency = none ↔ analysis.analysis.dependencies = []
  noOperation : compact.spans.topOperation = none ↔ analysis.analysis.operations = []
  /-- There is a line for the first error code and one for the first dependency, each
  unless there is none. -/
  insights : analysis.insights =
    (analysis.analysis.errorCodes.head?.map errorCodeFinding).toList ++
      (analysis.analysis.dependencies.head?.map dependencyFinding).toList

/-- The findings of a summary are about the first entries that the reports list. -/
theorem FacetSummary.insights_eq (s : FacetSummary) :
    s.insights = (s.buckets.byErrorCode.head?.map errorCodeFinding).toList ++
      ((s.dependencies.namedCounts headSize).head?.map dependencyFinding).toList := by
  rw [s.dependencies.head?_namedCounts (by decide), Option.map_map]
  rfl

/-- **The two reports agree** on everything that both of them say, for all records and
requests.  They fail for the same requests, with the same error. -/
theorem reports_agree (records : List MonitoringRecord) (request : ReportRequest)
    (explained : Bool) :
    (∃ compact analysis,
      CompactReport.build request (summarize records) explained = .ok compact ∧
      AnalysisReport.build request (summarize records) = .ok analysis ∧
      Agree request records compact analysis) ∨
    ∃ error,
      CompactReport.build request (summarize records) explained = .error error ∧
      AnalysisReport.build request (summarize records) = .error error := by
  unfold CompactReport.build AnalysisReport.build
  cases TimeWindow.endingAt request.stop request.windowMinutes with
  | error e => exact Or.inr ⟨e, rfl, rfl⟩
  | ok window =>
      have hversions : IsBucket (Facet.version.values records)
          (summarize records).buckets.byVersion := (Tally.observed_foldl records .version).isBucket
      have hpositive : 0 < headSize := by decide
      have hdependency := (summarize records).dependencies.map_fst_top hpositive
      have hoperation := (summarize records).operations.map_fst_top hpositive
      refine Or.inl ⟨_, _, rfl, rfl, ?_⟩
      exact {
        window := rfl
        versions := rfl
        hosts := rfl
        errorCodes := rfl
        series := rfl
        inBounds := by
          intro hrange s hs point hpoint
          obtain ⟨e, he, rfl⟩ := List.mem_map.mp hs
          obtain rfl := List.mem_singleton.mp hpoint
          have hcount : e.count ≤ records.length := hversions.count_le e he
          have hmillis := Instant.milliseconds_inBounds hrange
          exact ⟨hmillis.1, hmillis.2, Int.natCast_nonneg _, Int.ofNat_le.mpr hcount⟩
        topDependency := hdependency
        topOperation := hoperation
        noDependency := by rw [hdependency, Option.map_eq_none_iff, List.head?_eq_none_iff]
        noOperation := by rw [hoperation, Option.map_eq_none_iff, List.head?_eq_none_iff]
        insights := (summarize records).insights_eq }

end IncidentDigest
