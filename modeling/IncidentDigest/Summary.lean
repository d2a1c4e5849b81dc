import IncidentDigest.Facet
import IncidentDigest.Ranking

/-!
Summaries of many monitoring records.

One pass over the records counts the values of all facets; the summary keeps the ranked heads of three of
them and the whole counters of the other two.
-/

namespace IncidentDigest

structure Tally where
  version : Counter
  host : Counter
  errorCode : Counter
  dependency : Counter
  operation : Counter

namespace Tally

def empty : Tally := ⟨.empty, .empty, .empty, .empty, .empty⟩

/-- Counts the facets of a record; a facet that it lacks is not counted. -/
def observe (t : Tally) (r : MonitoringRecord) : Tally where
  version := t.version.add? (Facet.version.extract r)
  host := t.host.add? (Facet.host.extract r)
  errorCode := t.errorCode.add? (Facet.errorCode.extract r)
  dependency := t.dependency.add? (Facet.dependency.extract r)
  operation := t.operation.add? (Facet.operation.extract r)

end Tally

structure TopBuckets where
  byVersion : List RankedEntry
  byHost : List RankedEntry
  byErrorCode : List RankedEntry
  deriving DecidableEq, Repr

namespace TopBuckets

open Json.Shape in
def shape : Json.Shape TopBuckets := record ["by_version", "by_host", "by_error_code"] fun room slots =>
  match slots with
  | [version, host, errorCode] => do
    return ⟨← required (list RankedEntry.shape) room version,
      ← required (list RankedEntry.shape) room host,
      ← required (list RankedEntry.shape) room errorCode⟩
  | _ => none

def toJson (b : TopBuckets) : Json :=
  .obj [("by_version", .arr (b.byVersion.map RankedEntry.toJson)),
    ("by_host", .arr (b.byHost.map RankedEntry.toJson)),
    ("by_error_code", .arr (b.byErrorCode.map RankedEntry.toJson))]

end TopBuckets

/-- The number of entries that a ranked head keeps. -/
def headSize : Nat := 5

structure FacetSummary where
  buckets : TopBuckets
  dependencies : Counter
  operations : Counter

def summarize (records : List MonitoringRecord) : FacetSummary :=
  let t := records.foldl Tally.observe .empty
  { buckets :=
      ⟨t.version.rankedEntries headSize, t.host.rankedEntries headSize,
        t.errorCode.rankedEntries headSize⟩
    dependencies := t.dependency
    operations := t.operation }

/-- Findings about the most frequent error code and dependency, a line each. -/
def FacetSummary.insights (s : FacetSummary) : List String :=
  let error := s.buckets.byErrorCode.head?.map fun e =>
    s!"Top error code: {e.value} ({e.count} occurrences)"
  let dependency := s.dependencies.top.map fun e =>
    s!"Most active dependency: {e.1} ({e.2} calls)"
  error.toList ++ dependency.toList

end IncidentDigest
