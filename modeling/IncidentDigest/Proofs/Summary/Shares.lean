import IncidentDigest.Proofs.Counter.Heads
import IncidentDigest.Proofs.Json.WrittenForm
import IncidentDigest.Proofs.Ranking.Percentage
import IncidentDigest.Proofs.Record.Fields
import IncidentDigest.Proofs.Summary.Reference

/-!
# Shares that add up

Each share of a bucket is rounded to hundredths by itself, so that the shares of a bucket add up
to a hundred only up to the roundings.  A share is too large by half a hundredth at most, and the
sum is again a number of hundredths.  So two entries exceed a hundred by one hundredth at most,
and a whole bucket of five by two.
-/

namespace IncidentDigest

open Binary64 (Rounds)
open Json (floatNumeral numberStyle)

/-! ## 1. Shares as they are written -/

/-- The percentages of a bucket, from the text of a report. -/
def writtenShares? (bucket : String) (text : String) : Option (List ℚ) := do
  let report ← Json.Written.ofText? text
  let entries ← (← report.member? bucket).items?
  entries.mapM fun entry => do (← entry.member? "pct").decimal?

/-- The decimal that a percentage is written as. -/
def shown (percent : Binary64) : ℚ := (floatNumeral numberStyle percent).toRat

theorem decimal?_written_pct (e : RankedEntry) :
    (do (← e.toJson.written.member? "pct").decimal?) = some (shown e.percent) := by
  rw [RankedEntry.toJson, Json.member?_written]
  rfl

namespace TopBuckets

/-- The buckets under their names in a report. -/
def named (b : TopBuckets) : List (String × List RankedEntry) :=
  [("by_version", b.byVersion), ("by_host", b.byHost), ("by_error_code", b.byErrorCode)]

theorem toJson_eq (b : TopBuckets) :
    b.toJson = .obj (b.named.map fun e => (e.1, Json.arr (e.2.map RankedEntry.toJson))) := rfl

/-- The text of a report shows the shares of each bucket. -/
theorem writtenShares?_render (b : TopBuckets) (indented : Bool) :
    ∀ e ∈ b.named, writtenShares? e.1 (b.toJson.render indented) =
      some (e.2.map fun entry => shown entry.percent) := by
  intro e he
  have hmember : Json.member? e.1
      (b.named.map fun e => (e.1, Json.arr (e.2.map RankedEntry.toJson))) =
      some (.arr (e.2.map RankedEntry.toJson)) := by
    simp only [named, List.mem_cons, List.not_mem_nil, or_false] at he
    rcases he with rfl | rfl | rfl
    all_goals rfl
  rw [writtenShares?, Json.ofText?_render, toJson_eq, Option.bind_eq_bind, Option.bind_some,
    Json.member?_written, hmember, Option.map_some, Option.bind_eq_bind, Option.bind_some,
    Json.items?_written, Option.bind_eq_bind, Option.bind_some, List.map_map, List.mapM_map]
  exact mapM_eq_some_map fun entry _ => decimal?_written_pct entry

end TopBuckets

/-! ## 2. The sum of the shares -/

/-- Hundredths are written as they are, whatever the style. -/
theorem toRat_floatNumeral_of_rounds (style : NumberStyle) {k : Nat} {x : Binary64}
    (hk : k ≤ 10000) (h : Rounds (k / 100) x) : (floatNumeral style x).toRat = k / 100 := by
  rw [Json.toRat_floatNumeral, h.negative_eq, Binary64.shortest_hundredths _ hk h,
    if_neg (by decide), one_mul]

theorem shown_of_rounds {k : Nat} {x : Binary64} (hk : k ≤ 10000) (h : Rounds (k / 100) x) :
    shown x = k / 100 :=
  toRat_floatNumeral_of_rounds numberStyle hk h

/-- A percentage is written in hundredths, and is too large by half a hundredth at most. -/
theorem exists_shown_percentage {count total : Nat} (htotal : 0 < total) (hle : count ≤ total) :
    ∃ k : Nat, shown (percentage count total) = k / 100 ∧
      (k : ℚ) ≤ 10000 * (count / total) + (1 / 2 + 2 ^ (-35 : ℤ)) := by
  rcases percentage_hundredths htotal hle with ⟨-, hzero⟩ | ⟨k, hk⟩
  · refine ⟨0, ?_, ?_⟩
    · rw [hzero, shown, Json.toRat_floatNumeral, Binary64.shortest_of_isZero _ rfl]
      simp [Decimal.value]
    · rw [Nat.cast_zero]
      positivity
  · refine ⟨k, shown_of_rounds hk.le hk.rounds, ?_⟩
    have hupper := (abs_le.mp hk.near).2
    linarith

theorem exists_sum_percentages {total : Nat} (htotal : 0 < total) (counts : List Nat)
    (hle : ∀ n ∈ counts, n ≤ total) :
    ∃ k : Nat,
      (counts.map fun n => shown (percentage n total)).sum = k / 100 ∧
      (k : ℚ) ≤ 10000 * (counts.sum / total) + counts.length * (1 / 2 + 2 ^ (-35 : ℤ)) := by
  induction counts with
  | nil => exact ⟨0, by simp, by simp⟩
  | cons n rest ih =>
      obtain ⟨k, hk, hkLe⟩ := exists_shown_percentage htotal (hle n List.mem_cons_self)
      obtain ⟨j, hj, hjLe⟩ := ih fun m hm => hle m (List.mem_cons_of_mem n hm)
      refine ⟨k + j, ?_, ?_⟩
      · rw [List.map_cons, List.sum_cons, hk, hj]
        push_cast
        ring
      · rw [List.sum_cons, List.length_cons, Nat.cast_add, Nat.cast_add, Nat.cast_succ, add_div]
        linarith

/-- Half a hundredth for each entry: what is left of the halves after the last whole hundredth
is lost. -/
theorem hundredths_le {k n : Nat} {share : ℚ} (hshare : share ≤ 1) (hn : n ≤ headSize)
    (h : (k : ℚ) ≤ 10000 * share + n * (1 / 2 + 2 ^ (-35 : ℤ))) : k ≤ 10000 + n / 2 := by
  have hsize : (n : ℚ) ≤ 5 := by exact_mod_cast hn
  have hdouble : ((2 * k : Nat) : ℚ) < (20000 + n + 1 : Nat) := by
    push_cast
    norm_num at h
    linarith
  have hlt : 2 * k < 20000 + n + 1 := Nat.cast_lt.mp hdouble
  omega

theorem sum_percentages_le {total : Nat} (htotal : 0 < total) {counts : List Nat}
    (hsum : counts.sum ≤ total) (hlength : counts.length ≤ headSize) :
    (counts.map fun n => shown (percentage n total)).sum ≤
      100 + ((counts.length / 2 : Nat) : ℚ) / 100 := by
  obtain ⟨k, hk, hkLe⟩ := exists_sum_percentages htotal counts
    fun n hn => (List.le_sum_of_mem hn).trans hsum
  have hshare : (counts.sum : ℚ) / total ≤ 1 := by
    rw [div_le_one (Nat.cast_pos.mpr htotal)]
    exact Nat.cast_le.mpr hsum
  have hbound : (k : ℚ) ≤ (10000 + counts.length / 2 : Nat) :=
    Nat.cast_le.mpr (hundredths_le hshare hlength hkLe)
  rw [Nat.cast_add] at hbound
  rw [hk]
  norm_num at hbound ⊢
  linarith

namespace Counter

theorem sum_mostCommon_le (c : Counter) (k : Nat) :
    ((c.mostCommon k).map (·.2)).sum ≤ c.total := by
  have hperm : (c.ranking.map (·.2)).Perm (c.toList.map (·.2)) :=
    (List.mergeSort_perm c.toList _).map _
  rw [total_eq_sum, ← hperm.sum_eq]
  exact ((List.take_sublist k c.ranking).map _).sum_le_sum fun _ _ => Nat.zero_le _

theorem length_mostCommon_le (c : Counter) (k : Nat) : (c.mostCommon k).length ≤ k := by
  rw [length_mostCommon]
  exact Nat.min_le_left k c.size

/-- **The shares of a bucket add up to a hundred**, and one hundredth more for every two of
them. -/
theorem sum_shares_le (c : Counter) :
    ((c.rankedEntries headSize).map fun e => shown e.percent).sum ≤
      100 + (((c.rankedEntries headSize).length / 2 : Nat) : ℚ) / 100 := by
  have htotal : 0 < max c.total 1 := Nat.lt_of_lt_of_le Nat.one_pos (Nat.le_max_right _ _)
  have hsum := (c.sum_mostCommon_le headSize).trans (Nat.le_max_left c.total 1)
  have hlength : ((c.mostCommon headSize).map (·.2)).length ≤ headSize := by
    rw [List.length_map]
    exact c.length_mostCommon_le headSize
  have hshares := sum_percentages_le htotal hsum hlength
  rw [List.map_map, List.length_map] at hshares
  rw [rankedEntries, List.map_map, List.length_map]
  exact hshares

end Counter

/-! ## 3. The buckets of a summary -/

/-- A text shows the shares of a bucket: five at most, that add up to a hundred, and to one
hundredth more for every two of them at most. -/
def SharesAddUp (bucket text : String) : Prop :=
  ∃ shares, writtenShares? bucket text = some shares ∧ shares.length ≤ 5 ∧
    shares.sum ≤ 100 + ((shares.length / 2 : Nat) : ℚ) / 100

theorem sharesAddUp_of_named {b : TopBuckets} {name : String} {c : Counter}
    (hname : (name, c.rankedEntries headSize) ∈ b.named) (indented : Bool) :
    SharesAddUp name (b.toJson.render indented) := by
  refine ⟨_, b.writtenShares?_render indented _ hname, ?_, ?_⟩
  · rw [List.length_map, Counter.rankedEntries, List.length_map]
    exact c.length_mostCommon_le headSize
  · rw [List.length_map]
    exact c.sum_shares_le

/-- **The shares in a report add up to a hundred**, up to the roundings: to 100 at most for a
single share, to 100.01 for two or three and to 100.02 for four or five. -/
theorem shares_add_up (records : List MonitoringRecord) (indented : Bool) :
    SharesAddUp "by_version" ((summarize records).buckets.toJson.render indented) ∧
    SharesAddUp "by_host" ((summarize records).buckets.toJson.render indented) ∧
    SharesAddUp "by_error_code" ((summarize records).buckets.toJson.render indented) := by
  refine ⟨?_, ?_, ?_⟩
  · exact sharesAddUp_of_named (c := (records.foldl Tally.observe .empty).version)
      (by simp [TopBuckets.named, summarize]) indented
  · exact sharesAddUp_of_named (c := (records.foldl Tally.observe .empty).host)
      (by simp [TopBuckets.named, summarize]) indented
  · exact sharesAddUp_of_named (c := (records.foldl Tally.observe .empty).errorCode)
      (by simp [TopBuckets.named, summarize]) indented

/-- Seven records with three, one, one, one and one of five versions: all five shares are rounded
up. -/
theorem shares_exceed_hundred :
    writtenShares? "by_version"
        ((summarize (["a", "a", "a", "b", "c", "d", "e"].map fun v =>
          ⟨["version:" ++ v], none, []⟩)).buckets.toJson.render false) =
      some [4286 / 100, 1429 / 100, 1429 / 100, 1429 / 100, 1429 / 100] ∧
    (100 : ℚ) < [4286 / 100, 1429 / 100, 1429 / 100, 1429 / 100, 1429 / 100].sum := by
  generalize hrecords : (["a", "a", "a", "b", "c", "d", "e"].map fun v =>
    (⟨["version:" ++ v], none, []⟩ : MonitoringRecord)) = records
  have hvalues : Facet.version.values records = ["a", "a", "a", "b", "c", "d", "e"] := by
    rw [← hrecords]
    decide
  have hranking : IsRanking (Facet.version.values records)
      [("a", 3), ("b", 1), ("c", 1), ("d", 1), ("e", 1)] := by
    rw [hvalues]
    constructor
    · decide
    · decide
  have hthree : shown (percentage 3 7) = (4286 : Nat) / 100 :=
    shown_of_rounds (by decide) ⟨4286, 100, by decide, by norm_num, by decide +kernel⟩
  have hone : shown (percentage 1 7) = (1429 : Nat) / 100 :=
    shown_of_rounds (by decide) ⟨1429, 100, by decide, by norm_num, by decide +kernel⟩
  -- the bucket is known from its ranking alone
  obtain ⟨ranked, hranked, hbucket⟩ := (Tally.observed_foldl records .version).isBucket
  rw [hranked.unique hranking, hvalues] at hbucket
  have hversion : (summarize records).buckets.byVersion = _ := hbucket
  have hshown := (summarize records).buckets.writtenShares?_render false
    ("by_version", (summarize records).buckets.byVersion) (by simp [TopBuckets.named])
  rw [hshown, hversion]
  simp only [List.map_cons, List.map_nil, List.take_succ_cons, List.take_nil, List.length_cons,
    List.length_nil, Nat.zero_add, Nat.reduceAdd, hthree, hone, Nat.cast_ofNat, true_and]
  norm_num

end IncidentDigest
