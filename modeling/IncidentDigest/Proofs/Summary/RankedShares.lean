import IncidentDigest.Proofs.Summary.Shares

/-!
# Shares follow counts

With a total of up to `10 ^ 9` a share is the exact percentage, rounded to the nearest hundredth,
and a text shows it with just these hundredths, in whatever style it is written.  So shares are in
the order of their counts (`noLarger_of_le`), and those of a ranked bucket never increase
(`Counter.pairwise_shares`).
-/

namespace IncidentDigest

open Json (floatNumeral)

/-! ## 1. The decimal of a text -/

/-- The decimal that stands in the text of a number, without any rounding. -/
def writtenDecimal? (style : NumberStyle) (x : Binary64) : Option ℚ := do
  (← Json.Written.ofText? (String.ofList (x.format style))).decimal?

theorem writtenDecimal?_eq (style : NumberStyle) (x : Binary64) :
    writtenDecimal? style x = some (floatNumeral style x).toRat := by
  rw [writtenDecimal?, Json.ofText?_format]
  rfl

namespace Hundredths

variable {count total k : Nat}

theorem writtenDecimal?_percentage (h : Hundredths count total k) (style : NumberStyle) :
    writtenDecimal? style (percentage count total) = some ((k : ℚ) / 100) := by
  rw [writtenDecimal?_eq, toRat_floatNumeral_of_rounds style h.le h.rounds]

theorem shown_eq (h : Hundredths count total k) : shown (percentage count total) = k / 100 :=
  shown_of_rounds h.le h.rounds

theorem shown_near (h : Hundredths count total k) (htotal : 0 < total)
    (hmax : total ≤ 10 ^ 9) :
    |shown (percentage count total) - 100 * count / total| ≤ 5 / 1000 := by
  have hscale : shown (percentage count total) - 100 * count / total =
      ((k : ℚ) - 10000 * (count / total)) / 100 := by
    rw [h.shown_eq]
    ring
  have hnear := h.near_half htotal hmax
  rw [hscale, abs_div, abs_of_pos (by norm_num : (0 : ℚ) < 100), div_le_iff₀ (by norm_num)]
  linarith

end Hundredths

/-! ## 2. The shares of a total -/

/-- A share is no larger than another one, neither as a number nor as it is written. -/
def NoLarger (x y : Binary64) : Prop := x.toRat ≤ y.toRat ∧ shown x ≤ shown y

/-- **A larger count has no smaller share.** -/
theorem noLarger_of_le {c₁ c₂ total : Nat} (htotal : 0 < total) (hmax : total ≤ 10 ^ 9)
    (hle : c₁ ≤ c₂) (hbound : c₂ ≤ total) :
    NoLarger (percentage c₁ total) (percentage c₂ total) := by
  rcases Nat.eq_or_lt_of_le hle with rfl | hlt
  · exact ⟨le_rfl, le_rfl⟩
  · obtain ⟨k₁, h₁⟩ := exists_hundredths htotal hmax (hle.trans hbound)
    obtain ⟨k₂, h₂⟩ := exists_hundredths htotal hmax hbound
    have hcast : (k₁ : ℚ) ≤ k₂ := Nat.cast_le.mpr (h₁.le_of_lt h₂ htotal hmax hlt)
    have hshares : (k₁ : ℚ) / 100 ≤ k₂ / 100 := by linarith
    constructor
    · rw [h₁.rounds.toRat_eq, h₂.rounds.toRat_eq]
      exact h₁.rounds.magnitude_mono h₂.rounds hshares
    · rw [h₁.shown_eq, h₂.shown_eq]
      exact hshares

/-- What the shares of counts in a total are. -/
structure FaithfulShares (total : Nat) : Prop where
  /-- Every style shows the same decimal. -/
  written : ∀ count ≤ total, ∀ style,
    writtenDecimal? style (percentage count total) = some (shown (percentage count total))
  hundredths : ∀ count ≤ total, ∃ k : Nat, shown (percentage count total) = k / 100
  bounded : ∀ count ≤ total,
    0 ≤ shown (percentage count total) ∧ shown (percentage count total) ≤ 100
  ordered : ∀ c₁ c₂, c₁ ≤ c₂ → c₂ ≤ total →
    NoLarger (percentage c₁ total) (percentage c₂ total)
  /-- The decimal is off by half a hundredth at most. -/
  near : ∀ count ≤ total, |shown (percentage count total) - 100 * count / total| ≤ 5 / 1000
  whole : shown (percentage total total) = 100

theorem faithfulShares {total : Nat} (htotal : 0 < total) (hmax : total ≤ 10 ^ 9) :
    FaithfulShares total where
  written := by
    intro count hle style
    obtain ⟨k, hk⟩ := exists_hundredths htotal hmax hle
    rw [hk.writtenDecimal?_percentage, hk.shown_eq]
  hundredths := by
    intro count hle
    obtain ⟨k, hk⟩ := exists_hundredths htotal hmax hle
    exact ⟨k, hk.shown_eq⟩
  bounded := by
    intro count hle
    obtain ⟨k, hk⟩ := exists_hundredths htotal hmax hle
    have hcast : (k : ℚ) ≤ 10000 := by exact_mod_cast hk.le
    rw [hk.shown_eq]
    constructor
    · positivity
    · linarith
  ordered := by
    intro c₁ c₂ hle hbound
    exact noLarger_of_le htotal hmax hle hbound
  near := by
    intro count hle
    obtain ⟨k, hk⟩ := exists_hundredths htotal hmax hle
    exact hk.shown_near htotal hmax
  whole := by
    obtain ⟨k, hk⟩ := exists_hundredths htotal hmax le_rfl
    rw [hk.shown_eq, hk.eq_of_whole htotal hmax]
    norm_num

/-! ## 3. The shares of a ranked bucket -/

namespace Counter

theorem le_total_of_mem_mostCommon {c : Counter} {k : Nat} {e : String × Nat}
    (he : e ∈ c.mostCommon k) : e.2 ≤ c.total :=
  (List.le_sum_of_mem (List.mem_map_of_mem he)).trans (c.sum_mostCommon_le k)

/-- **Shares never increase along a bucket**, because counts do not. -/
theorem pairwise_shares (c : Counter) (k : Nat) (hmax : c.total ≤ 10 ^ 9) :
    (c.rankedEntries k).Pairwise fun a b => NoLarger b.percent a.percent := by
  have htotal : 0 < max c.total 1 := Nat.lt_of_lt_of_le Nat.one_pos (Nat.le_max_right _ _)
  have hbound : max c.total 1 ≤ 10 ^ 9 := Nat.max_le.mpr ⟨hmax, by decide⟩
  rw [rankedEntries, List.pairwise_map]
  refine (c.pairwise_ranking.sublist (List.take_sublist k _)).imp_of_mem ?_
  intro a b ha _ hle
  exact noLarger_of_le htotal hbound hle
    ((le_total_of_mem_mostCommon ha).trans (Nat.le_max_left _ _))

end Counter

/-- The facets of the ranked buckets, under the names of the buckets in a report. -/
def rankedFacets : List (String × Facet) :=
  [("by_version", .version), ("by_host", .host), ("by_error_code", .errorCode)]

theorem mem_named_summarize (records : List MonitoringRecord) {e : String × Facet}
    (he : e ∈ rankedFacets) :
    (e.1, ((records.foldl Tally.observe .empty).counter e.2).rankedEntries headSize) ∈
      (summarize records).buckets.named := by
  simp only [rankedFacets, List.mem_cons, List.not_mem_nil, or_false] at he
  rcases he with rfl | rfl | rfl
  all_goals simp [TopBuckets.named, summarize, Tally.counter]

/-- **Shares follow counts.**  With a total of up to `10 ^ 9`, the share of a count is written as
a number of hundredths between 0 and 100 that is off from the exact percentage by half a hundredth
at most; a larger count has no smaller share, and the whole has the share 100.  So shares never
increase along a ranked bucket, be it the bucket of any counter or one in the text of a report. -/
theorem shares_follow_counts :
    (∀ total, 1 ≤ total → total ≤ 10 ^ 9 → FaithfulShares total) ∧
    (∀ (c : Counter) (k : Nat), c.total ≤ 10 ^ 9 →
      (c.rankedEntries k).Pairwise fun a b => NoLarger b.percent a.percent) ∧
    ∀ (records : List MonitoringRecord) (indented : Bool), ∀ e ∈ rankedFacets,
      (e.2.values records).length ≤ 10 ^ 9 →
      ∃ shares, writtenShares? e.1 ((summarize records).buckets.toJson.render indented) =
        some shares ∧ shares.Pairwise (· ≥ ·) := by
  refine ⟨fun total => faithfulShares, Counter.pairwise_shares, ?_⟩
  intro records indented e he hmax
  have hobserved := Tally.observed_foldl records e.2
  have hshares := Counter.pairwise_shares _ headSize (hobserved.total_eq.trans_le hmax)
  refine ⟨_, TopBuckets.writtenShares?_render _ indented _ (mem_named_summarize records he), ?_⟩
  exact List.pairwise_map.mpr (hshares.imp And.right)

/-- Two of three are written as 66.67, and a host that is named by one of three records comes
with its share behind a host that is named by two. -/
theorem shares_follow_counts_two_of_three :
    1 ≤ 3 ∧ 3 ≤ 10 ^ 9 ∧ shown (percentage 2 3) = 6667 / 100 ∧
    NoLarger (percentage 1 3) (percentage 2 3) ∧ shown (percentage 3 3) = 100 ∧
    ((Counter.ofList ["a", "b", "b"]).rankedEntries 5).Pairwise
      (fun a b => NoLarger b.percent a.percent) ∧
    ∃ shares, writtenShares? "by_host"
        ((summarize (["a", "b", "b"].map fun v =>
          ⟨["host:" ++ v], none, []⟩)).buckets.toJson.render false) = some shares ∧
      shares.Pairwise (· ≥ ·) := by
  obtain ⟨htotals, hcounters, hreports⟩ := shares_follow_counts
  have hthree := htotals 3 (by decide) (by decide)
  refine ⟨by decide, by decide, ?_, hthree.ordered 1 2 (by decide) (by decide), hthree.whole,
    hcounters _ 5 ?_, hreports _ false ("by_host", .host) (by simp [rankedFacets]) ?_⟩
  · obtain ⟨k, hk⟩ := hthree.hundredths 2 (by decide)
    obtain ⟨hlower, hupper⟩ := abs_le.mp (hthree.near 2 (by decide))
    rw [hk] at hlower hupper ⊢
    norm_num at hlower hupper
    have hfrom : ((6666 : Nat) : ℚ) < k := by
      push_cast
      linarith
    have hto : (k : ℚ) < (6668 : Nat) := by
      push_cast
      linarith
    rw [Nat.cast_lt] at hfrom hto
    rw [show k = 6667 by omega]
    norm_num
  · rw [(Counter.observed_ofList ["a", "b", "b"]).total_eq]
    decide
  · exact (Facet.length_values_le _ _).trans (by decide)

end IncidentDigest
