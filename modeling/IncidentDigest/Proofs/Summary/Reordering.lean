import IncidentDigest.Proofs.Counter.Index
import IncidentDigest.Proofs.Summary.Reference

/-!
# Summaries of reordered records

The order of the records decides which of two equally frequent values comes first, and nothing
else.  The counts of a ranking are sorted numbers, so that two rankings of the same occurrences
show the same counts, place by place, and a head shows the same counts and shares even where a
tie straddles its end.  Without ties the order of first occurrence is never consulted, and the
values are the same as well.
-/

namespace IncidentDigest

variable {values values' : List String}

/-! ## 1. Occurrences -/

/-- No two values occur equally often. -/
def Untied (values : List String) : Prop :=
  ∀ u ∈ values, ∀ v ∈ values, values.count u = values.count v → u = v

instance (values : List String) : Decidable (Untied values) := by
  unfold Untied
  infer_instance

/-- Reordered observations have the same occurrences, up to their order. -/
theorem perm_occurrences (h : values.Perm values') :
    (occurrences values).Perm (occurrences values') := by
  have hkeys : values.eraseDups.Perm values'.eraseDups := by
    apply (List.perm_ext_iff_of_nodup (nodup_eraseDups values) (nodup_eraseDups values')).mpr
    intro v
    rw [List.mem_eraseDups, List.mem_eraseDups]
    exact h.mem_iff
  have hcounts : ∀ v ∈ values.eraseDups, (v, values.count v) = (v, values'.count v) := by
    intro v _
    rw [h.count_eq v]
  unfold occurrences
  rw [List.map_congr_left hcounts]
  exact hkeys.map _

/-! ## 2. Rankings -/

namespace IsRanking

variable {ranked ranked' : List (String × Nat)}

theorem pairwise_count (h : IsRanking values ranked) :
    (ranked.map (·.2)).Pairwise fun m n => n ≤ m := by
  rw [List.pairwise_map]
  apply h.ordered.imp
  intro a b hab
  unfold Precedes at hab
  omega

/-- **Rankings of reordered observations show the same counts, place by place.** -/
theorem counts_eq (h : IsRanking values ranked) (h' : IsRanking values' ranked')
    (hperm : values.Perm values') : ranked.map (·.2) = ranked'.map (·.2) := by
  have hcounts : (ranked.map (·.2)).Perm (ranked'.map (·.2)) :=
    (h.perm.trans ((perm_occurrences hperm).trans h'.perm.symm)).map _
  apply List.Perm.eq_of_pairwise _ h.pairwise_count h'.pairwise_count hcounts
  intro m n _ _ hnm hmn
  exact Nat.le_antisymm hmn hnm

/-- Without ties, a ranking of some observations also ranks the reordered ones. -/
theorem of_perm (h : IsRanking values ranked) (huntied : Untied values)
    (hperm : values.Perm values') : IsRanking values' ranked where
  perm := h.perm.trans (perm_occurrences hperm)
  ordered := by
    apply h.ordered.imp_of_mem
    intro a b ha hb hab
    obtain ⟨ha, hacount⟩ := mem_occurrences.mp (h.perm.mem_iff.mp ha)
    obtain ⟨hb, hbcount⟩ := mem_occurrences.mp (h.perm.mem_iff.mp hb)
    rcases hab with hlt | ⟨htie, hfirst⟩
    · exact Or.inl hlt
    · -- the order of first occurrence would have to decide between equal values
      have heq : a.1 = b.1 := huntied _ ha _ hb (by rw [← hacount, ← hbcount, htie])
      rw [heq] at hfirst
      exact absurd hfirst (Nat.lt_irrefl _)

end IsRanking

/-! ## 3. Buckets and counts -/

/-- Two buckets, the first one of some values, differ at most in how they order ties. -/
structure SameUpToTies (values : List String) (bucket bucket' : List RankedEntry) : Prop where
  shares : bucket.map (fun e => (e.count, e.percent)) = bucket'.map fun e => (e.count, e.percent)
  untied : Untied values → bucket.map (·.value) = bucket'.map (·.value)

theorem IsBucket.sameUpToTies {bucket bucket' : List RankedEntry} (h : IsBucket values bucket)
    (h' : IsBucket values' bucket') (hperm : values.Perm values') :
    SameUpToTies values bucket bucket' := by
  obtain ⟨ranked, hranked, rfl⟩ := h
  obtain ⟨ranked', hranked', rfl⟩ := h'
  constructor
  · have hshares : ∀ (l : List (String × Nat)) (total : Nat),
        (((l.take 5).map fun e => (⟨e.1, e.2, percentage e.2 total⟩ : RankedEntry)).map
          fun e => (e.count, e.percent)) =
          ((l.map (·.2)).take 5).map fun n => (n, percentage n total) := by
      intro l total
      rw [← List.map_take, List.map_map, List.map_map]
      rfl
    rw [hshares, hshares, hranked.counts_eq hranked' hperm, hperm.length_eq]
  · intro huntied
    rw [(hranked.of_perm huntied hperm).unique hranked', List.map_map, List.map_map]
    rfl

/-- Two counters hold the same values, each equally often. -/
structure SameCounts (c c' : Counter) : Prop where
  count_eq : ∀ v, c.count v = c'.count v
  perm : c.toList.Perm c'.toList

theorem Counter.Observed.sameCounts {c c' : Counter} (h : c.Observed values)
    (h' : c'.Observed values') (hperm : values.Perm values') : SameCounts c c' where
  count_eq v := by
    rw [h.count_eq, h'.count_eq]
    exact hperm.count_eq v
  perm := by
    rw [h.toList_eq, h'.toList_eq]
    exact perm_occurrences hperm

/-! ## 4. Summaries -/

theorem Facet.perm_values (f : Facet) {records records' : List MonitoringRecord}
    (h : records.Perm records') : (f.values records).Perm (f.values records') :=
  h.filterMap f.extract

/-- **The order of the records matters for ties only.**  A summary of the same records in another
order counts every dependency and every operation as often, and its buckets show the same counts
and shares, place by place.  They show the same values as well, if no two values of the facet
occur equally often. -/
theorem summarize_perm {records records' : List MonitoringRecord} (h : records.Perm records') :
    SameCounts (summarize records).dependencies (summarize records').dependencies ∧
    SameCounts (summarize records).operations (summarize records').operations ∧
    SameUpToTies (Facet.version.values records) (summarize records).buckets.byVersion
      (summarize records').buckets.byVersion ∧
    SameUpToTies (Facet.host.values records) (summarize records).buckets.byHost
      (summarize records').buckets.byHost ∧
    SameUpToTies (Facet.errorCode.values records) (summarize records).buckets.byErrorCode
      (summarize records').buckets.byErrorCode := by
  have hone := Tally.observed_foldl records
  have hother := Tally.observed_foldl records'
  refine ⟨?_, ?_, ?_, ?_, ?_⟩
  · exact (hone .dependency).sameCounts (hother .dependency) (Facet.dependency.perm_values h)
  · exact (hone .operation).sameCounts (hother .operation) (Facet.operation.perm_values h)
  · exact (hone .version).isBucket.sameUpToTies (hother .version).isBucket
      (Facet.version.perm_values h)
  · exact (hone .host).isBucket.sameUpToTies (hother .host).isBucket (Facet.host.perm_values h)
  · exact (hone .errorCode).isBucket.sameUpToTies (hother .errorCode).isBucket
      (Facet.errorCode.perm_values h)

/-- Six versions of which five fit into a bucket, all equally frequent, and three hosts that are
not. -/
def tiedRecords : List MonitoringRecord :=
  [("a", "x"), ("b", "y"), ("c", "x"), ("d", "z"), ("e", "y"), ("f", "x")].map fun names =>
    ⟨["version:" ++ names.1, "host:" ++ names.2], none, []⟩

/-- The versions of these records are tied across the end of their bucket, and the hosts are not
tied: read from the end, the former still show the same counts and shares, and the latter the same
values. -/
theorem summarize_perm_tiedRecords :
    tiedRecords.Perm tiedRecords.reverse ∧ Untied (Facet.host.values tiedRecords) ∧
    ¬ Untied (Facet.version.values tiedRecords) ∧
    (summarize tiedRecords).buckets.byVersion.map (fun e => (e.count, e.percent)) =
      (summarize tiedRecords.reverse).buckets.byVersion.map (fun e => (e.count, e.percent)) ∧
    (summarize tiedRecords).buckets.byHost.map (·.value) =
      (summarize tiedRecords.reverse).buckets.byHost.map (·.value) := by
  have hperm : tiedRecords.Perm tiedRecords.reverse := tiedRecords.reverse_perm.symm
  have huntied : Untied (Facet.host.values tiedRecords) := by decide
  obtain ⟨-, -, hversion, hhost, -⟩ := summarize_perm hperm
  exact ⟨hperm, huntied, by decide, hversion.shares, hhost.untied huntied⟩

end IncidentDigest
