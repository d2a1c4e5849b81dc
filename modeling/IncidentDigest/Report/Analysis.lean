import IncidentDigest.Report.Compact
import IncidentDigest.Text.Character

/-!
The analysis report, with findings in words, and its rendering as plain text.
-/

namespace IncidentDigest

structure AnalysisSection where
  topVersions : List RankedEntry
  topHosts : List RankedEntry
  errorCodes : List RankedEntry
  dependencies : List NamedCount
  operations : List NamedCount
  deriving DecidableEq, Repr

namespace AnalysisSection

open Json.Shape in
def shape : Json.Shape AnalysisSection :=
  record ["top_versions", "top_hosts", "error_codes", "dependencies", "operations"] fun room slots =>
    match slots with
    | [versions, hosts, codes, dependencies, operations] => do
      return ⟨← required (list RankedEntry.shape) room versions,
        ← required (list RankedEntry.shape) room hosts,
        ← required (list RankedEntry.shape) room codes,
        ← required (list NamedCount.shape) room dependencies,
        ← required (list NamedCount.shape) room operations⟩
    | _ => none

def toJson (s : AnalysisSection) : Json :=
  .obj [("top_versions", .arr (s.topVersions.map RankedEntry.toJson)),
    ("top_hosts", .arr (s.topHosts.map RankedEntry.toJson)),
    ("error_codes", .arr (s.errorCodes.map RankedEntry.toJson)),
    ("dependencies", .arr (s.dependencies.map NamedCount.toJson)),
    ("operations", .arr (s.operations.map NamedCount.toJson))]

end AnalysisSection

structure AnalysisReport where
  window : TimeWindow
  service : String
  metric : String
  environment : String
  analysis : AnalysisSection
  insights : List String
  deriving DecidableEq, Repr

namespace AnalysisReport

open Json.Shape in
def shape : Json.Shape AnalysisReport :=
  record ["time_window", "service", "metric", "env", "analysis", "insights"] fun room slots =>
    match slots with
    | [window, service, metric, environment, analysis, insights] => do
      return ⟨← required TimeWindow.shape room window, ← required text room service,
        ← required text room metric, ← required text room environment,
        ← required AnalysisSection.shape room analysis, ← required (list text) room insights⟩
    | _ => none

def toJson (r : AnalysisReport) : Json :=
  .obj [("time_window", r.window.toJson), ("service", .str r.service), ("metric", .str r.metric),
    ("env", .str r.environment), ("analysis", r.analysis.toJson),
    ("insights", .arr (r.insights.map .str))]

def build (request : ReportRequest) (summary : FacetSummary) :
    Except TimestampError AnalysisReport := do
  let window ← TimeWindow.endingAt request.stop request.windowMinutes
  return {
    window
    service := request.service
    metric := request.metric
    environment := request.environment
    analysis := {
      topVersions := summary.buckets.byVersion
      topHosts := summary.buckets.byHost
      errorCodes := summary.buckets.byErrorCode
      dependencies := summary.dependencies.namedCounts headSize
      operations := summary.operations.namedCounts headSize }
    insights := summary.insights }

/-- The line of a ranked entry: `- value: count (share%)`. -/
def rankedLine (e : RankedEntry) : String :=
  s!"- {e.value}: {e.count} (" ++ String.ofList (e.percent.format .plain) ++ "%)"

/-- The line of a counted name: `- name: count`. -/
def namedLine (e : NamedCount) : String := s!"- {e.name}: {e.count}"

/-- A section after an empty line: its heading, and its lines or the word `none`. -/
def sectionLines (heading : String) (lines : List String) : List String :=
  "" :: (heading ++ ":") :: (if lines.isEmpty then ["- none"] else lines)

def textLines (r : AnalysisReport) : List String :=
  [s!"RCA summary for {r.service} ({r.environment})", s!"Metric: {r.metric}",
    s!"Window: {r.window.start} -> {r.window.stop}"] ++
  sectionLines "Top versions" (r.analysis.topVersions.map rankedLine) ++
  sectionLines "Top hosts" (r.analysis.topHosts.map rankedLine) ++
  sectionLines "Error codes" (r.analysis.errorCodes.map rankedLine) ++
  sectionLines "Dependencies" (r.analysis.dependencies.map namedLine) ++
  sectionLines "Operations" (r.analysis.operations.map namedLine) ++
  (if r.insights.isEmpty then [] else "" :: "Insights:" :: r.insights.map fun i => "- " ++ i)

/-- The plain-text digest, without a final line feed. -/
def renderText (r : AnalysisReport) : String := Text.joinWith "\n" r.textLines

end AnalysisReport
end IncidentDigest
