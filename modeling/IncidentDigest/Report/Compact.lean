import IncidentDigest.Summary
import IncidentDigest.Window

/-!
The compact report: a window, ranked buckets, one metric point for each version, and the most likely
dependency and operation.
-/

namespace IncidentDigest

namespace TimeWindow

open Json.Shape in
def shape : Json.Shape TimeWindow := record ["from", "to"] fun room slots =>
  match slots with
  | [start, stop] => do return ⟨← required text room start, ← required text room stop⟩
  | _ => none

def toJson (w : TimeWindow) : Json := .obj [("from", .str w.start), ("to", .str w.stop)]

end TimeWindow

def Json.ofOption (s : Option String) : Json :=
  match s with
  | some s => .str s
  | none => .null

/-- What both styles of report are made for. -/
structure ReportRequest where
  service : String
  metric : String
  environment : String
  windowMinutes : Int
  stop : Instant
  deriving Repr

/-- The points of one version: milliseconds and a value. -/
structure MetricSeries where
  key : String
  points : List (Int × Int)
  deriving DecidableEq, Repr

namespace MetricSeries

open Json.Shape in
def shape : Json.Shape MetricSeries := record ["key", "points"] fun room slots =>
  match slots with
  | [key, points] => do
    return ⟨← required text room key, ← required (list (pair signed signed)) room points⟩
  | _ => none

def toJson (s : MetricSeries) : Json :=
  .obj [("key", .str s.key), ("points", .arr (s.points.map fun p => .arr [.int p.1, .int p.2]))]

end MetricSeries

structure MetricCheck where
  metric : String
  splitBy : String
  series : List MetricSeries
  deriving DecidableEq, Repr

namespace MetricCheck

open Json.Shape in
def shape : Json.Shape MetricCheck := record ["metric", "split_by", "series"] fun room slots =>
  match slots with
  | [metric, splitBy, series] => do
    return ⟨← required text room metric, ← required text room splitBy,
      ← required (list MetricSeries.shape) room series⟩
  | _ => none

def toJson (m : MetricCheck) : Json :=
  .obj [("metric", .str m.metric), ("split_by", .str m.splitBy),
    ("series", .arr (m.series.map MetricSeries.toJson))]

end MetricCheck

/-- The most frequent dependency and operation, and samples. -/
structure SpansSample where
  topDependency : Option String
  topOperation : Option String
  sample : List Json
  deriving BEq, Repr

namespace SpansSample

open Json.Shape in
def shape : Json.Shape SpansSample :=
  record ["top_dependency", "top_operation", "sample"] fun room slots =>
    match slots with
    | [dependency, operation, sample] => do
      return ⟨← optional text room dependency, ← optional text room operation,
        ← required (list value) room sample⟩
    | _ => none

def toJson (s : SpansSample) : Json :=
  .obj [("top_dependency", .ofOption s.topDependency), ("top_operation", .ofOption s.topOperation),
    ("sample", .arr s.sample)]

end SpansSample

structure CompactReport where
  window : TimeWindow
  service : String
  environment : String
  buckets : TopBuckets
  metricCheck : MetricCheck
  events : List Json
  spans : SpansSample
  /-- Explanations of the fields, if they were asked for. -/
  explanations : Option Json
  deriving BEq, Repr

namespace CompactReport

open Json.Shape in
def shape : Json.Shape CompactReport :=
  record ["time_window", "service", "env", "logs_top_buckets", "metric_check", "events_near_spike",
      "spans_sample", "meta"] fun room slots =>
    match slots with
    | [window, service, environment, buckets, metricCheck, events, spans, explanations] => do
      return {
        window := ← required TimeWindow.shape room window
        service := ← required text room service
        environment := ← required text room environment
        buckets := ← required TopBuckets.shape room buckets
        metricCheck := ← required MetricCheck.shape room metricCheck
        events := ← required (list value) room events
        spans := ← required SpansSample.shape room spans
        explanations := ← optional value room explanations }
    | _ => none

def toJson (r : CompactReport) : Json :=
  .obj ([("time_window", r.window.toJson), ("service", .str r.service), ("env", .str r.environment),
    ("logs_top_buckets", r.buckets.toJson), ("metric_check", r.metricCheck.toJson),
    ("events_near_spike", .arr r.events), ("spans_sample", r.spans.toJson)] ++
    (r.explanations.map fun m => ("meta", m)).toList)

/-- An object whose values are strings. -/
private def glossary (entries : List (String × String)) : Json :=
  .ofMembers (entries.map fun e => (e.1, .str e.2))

/-- What the fields of a report mean, and where to read about the sources. -/
def explain (windowMinutes : Int) : Json :=
  .ofMembers [
    ("window_minutes", .int windowMinutes),
    ("semantics", .ofMembers [
      ("logs_top_buckets", glossary [
        ("by_version", "Top version tags observed among monitor payloads in the time window."),
        ("by_host", "Top host tags observed among monitor payloads in the time window."),
        ("by_error_code", "Top error.code tags or inferred categories when tags are absent.")]),
      ("counts_meaning", .str
        "count = number of monitor items matching the facet within the window (NOT request volume)."),
      ("metric_check", .str
        "Synthetic per-version magnitude using the bucket counts as a single point for visualization/localization."),
      ("spans_sample", .str
        "Heuristic summary of likely dependency/operation from tags or monitor names; no raw spans in mock.")]),
    ("sources", glossary [
      ("datadog_monitors", "https://docs.datadoghq.com/monitors/"),
      ("datadog_tags", "https://docs.datadoghq.com/getting_started/tagging/"),
      ("logs_analytics_api", "https://docs.datadoghq.com/api/latest/logs/"),
      ("metrics_timeseries_api", "https://docs.datadoghq.com/api/latest/metrics/"),
      ("events_api", "https://docs.datadoghq.com/api/latest/events/"),
      ("spans_search_api", "https://docs.datadoghq.com/api/latest/spans/"),
      ("latency_pXX_explainer", "https://docs.datadoghq.com/dashboards/guide/percentiles/"),
      ("http_error_rates", "https://docs.datadoghq.com/monitors/types/metric/#anomaly-and-outliers")])]

/-- The compact report of a summary.  Every version has one point at the whole seconds of the end. -/
def build (request : ReportRequest) (summary : FacetSummary) (explained : Bool) :
    Except TimestampError CompactReport := do
  let window ← TimeWindow.endingAt request.stop request.windowMinutes
  return {
    window
    service := request.service
    environment := request.environment
    buckets := summary.buckets
    metricCheck := {
      metric := request.metric
      splitBy := "version"
      series := summary.buckets.byVersion.map fun e =>
        ⟨e.value, [(request.stop.seconds * 1000, e.count)]⟩ }
    events := []
    spans := ⟨summary.dependencies.top.map (·.1), summary.operations.top.map (·.1), []⟩
    explanations := if explained then some (explain request.windowMinutes) else none }

end CompactReport
end IncidentDigest
