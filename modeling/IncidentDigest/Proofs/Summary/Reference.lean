import IncidentDigest.Proofs.Counter.Order
import IncidentDigest.Summary

/-!
# A summary counts what the records show

The summary of a batch is computed in one pass that threads five counters through
all records.  Here it is compared with a description that has no state: the values
of a facet are what the records yield for it, in order; dependencies and operations
are the occurrences of their values; and a bucket is the head of the ranking of the
values, with shares of all of them.
-/

namespace IncidentDigest

/-! ## 1. The description without state -/

/-- What the records yield for a facet, in order; a record that lacks the facet
yields nothing. -/
def Facet.values (f : Facet) (records : List MonitoringRecord) : List String :=
  records.filterMap f.extract

/-- A bucket lists the first five values of the ranking, each with its number of
occurrences and the percentage that this is of all occurrences. -/
def IsBucket (values : List String) (bucket : List RankedEntry) : Prop :=
  ∃ ranked, IsRanking values ranked ∧
    bucket = (ranked.take 5).map fun e => ⟨e.1, e.2, percentage e.2 values.length⟩

/-- A counter holds the values with their numbers of occurrences, in the order of first
occurrence, and their number as its total. -/
def IsCount (values : List String) (c : Counter) : Prop :=
  c.toList = occurrences values ∧ c.total = values.length

theorem Facet.values_concat (f : Facet) (records : List MonitoringRecord)
    (r : MonitoringRecord) :
    f.values (records ++ [r]) = f.values records ++ (f.extract r).toList := by
  unfold Facet.values
  cases h : f.extract r <;> simp [h]

theorem Facet.length_values_le (f : Facet) (records : List MonitoringRecord) :
    (f.values records).length ≤ records.length :=
  List.length_filterMap_le _ _

/-! ## 2. One pass over the records -/

namespace Tally

def counter (t : Tally) : Facet → Counter
  | .version => t.version
  | .host => t.host
  | .errorCode => t.errorCode
  | .dependency => t.dependency
  | .operation => t.operation

/-- The invariant of the pass: every counter has observed the values of its facet. -/
def Observed (t : Tally) (records : List MonitoringRecord) : Prop :=
  ∀ f : Facet, (t.counter f).Observed (f.values records)

theorem observed_empty : Observed empty [] := by
  intro f
  cases f <;> exact Counter.observed_empty

@[simp] theorem counter_observe (t : Tally) (r : MonitoringRecord) (f : Facet) :
    (t.observe r).counter f = (t.counter f).add? (f.extract r) := by
  cases f <;> rfl

/-- **One record** is counted at most once for each facet. -/
theorem Observed.observe {t : Tally} {records : List MonitoringRecord}
    (h : t.Observed records) (r : MonitoringRecord) :
    (t.observe r).Observed (records ++ [r]) := by
  intro f
  rw [counter_observe, Facet.values_concat]
  rcases f.extract r with _ | v
  · simpa [Counter.add?] using h f
  · simpa [Counter.add?] using (h f).add v

theorem Observed.foldl_observe {t : Tally} {seen : List MonitoringRecord}
    (h : t.Observed seen) (records : List MonitoringRecord) :
    (records.foldl Tally.observe t).Observed (seen ++ records) := by
  induction records generalizing t seen with
  | nil => simpa using h
  | cons r records ih => simpa using ih (h.observe r)

theorem observed_foldl (records : List MonitoringRecord) :
    (records.foldl Tally.observe empty).Observed records := by
  simpa using observed_empty.foldl_observe records

end Tally

/-! ## 3. Buckets and counts -/

theorem percentage_max_one (count total : Nat) :
    percentage count (max total 1) = percentage count total := by
  unfold percentage
  rw [Nat.max_eq_left (Nat.le_max_right total 1)]

namespace Counter

theorem Observed.isBucket {c : Counter} {values : List String} (h : c.Observed values) :
    IsBucket values (c.rankedEntries headSize) := by
  refine ⟨c.ranking, h.isRanking, ?_⟩
  unfold rankedEntries mostCommon
  apply List.map_congr_left
  intro e _
  rw [percentage_max_one, h.total_eq]

theorem Observed.isCount {c : Counter} {values : List String} (h : c.Observed values) :
    IsCount values c :=
  ⟨h.toList_eq, h.total_eq⟩

end Counter

/-- **A summary equals the description without state.**  Dependencies and operations
are the occurrences of the values of their facets, in the order of first occurrence,
and their totals are the numbers of those values, at most one for each record.  The
three buckets are the heads of the rankings of their facets, and the shares in them
are shares of all values, those that the head leaves out included. -/
theorem summarize_eq_reference (records : List MonitoringRecord) :
    IsCount (Facet.dependency.values records) (summarize records).dependencies ∧
    IsCount (Facet.operation.values records) (summarize records).operations ∧
    IsBucket (Facet.version.values records) (summarize records).buckets.byVersion ∧
    IsBucket (Facet.host.values records) (summarize records).buckets.byHost ∧
    IsBucket (Facet.errorCode.values records) (summarize records).buckets.byErrorCode ∧
    ∀ f : Facet, (f.values records).length ≤ records.length := by
  have h := Tally.observed_foldl records
  refine ⟨?_, ?_, ?_, ?_, ?_, fun f => f.length_values_le records⟩
  · exact (h .dependency).isCount
  · exact (h .operation).isCount
  · exact (h .version).isBucket
  · exact (h .host).isBucket
  · exact (h .errorCode).isBucket

end IncidentDigest
