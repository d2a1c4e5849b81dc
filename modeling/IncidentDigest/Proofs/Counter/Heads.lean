import IncidentDigest.Proofs.Counter.Index
import IncidentDigest.Proofs.Counter.Order
import IncidentDigest.Ranking

/-!
# Heads of a ranking

The most frequent values of a counter are a head of its ranking, and the ranking is sorted
without ties.  So a head keeps the entries that precede all others, a shorter head is a prefix
of a longer one, and every listing that is made from a head shows the same values and counts.

One more observation of a value changes one entry only.  The others keep their order, because
they keep their counts and their first occurrences, and the place of the value itself is the
number of entries that precede it, which cannot grow.
-/

namespace IncidentDigest

/-! ## 1. Places in a list without ties -/

/-- In a list where a relation holds from left to right, the first element of a key stands
behind as many elements as precede it. -/
theorem findIdx_eq_countP {α : Type} {R : α → α → Prop} [DecidableRel R]
    (asymm : ∀ a b, R a b → ¬ R b a) {same : α → Bool} {l : List α} (h : l.Pairwise R)
    {e : α} (he : e ∈ l) (hsame : ∀ a ∈ l, same a = true ↔ a = e) :
    l.findIdx same = l.countP fun a => decide (R a e) := by
  induction l with
  | nil => cases he
  | cons a l ih =>
      obtain ⟨hhead, htail⟩ := List.pairwise_cons.mp h
      rw [List.findIdx_cons, List.countP_cons]
      by_cases hae : a = e
      · subst hae
        have hnone : l.countP (fun b => decide (R b a)) = 0 := by
          apply List.countP_eq_zero.mpr
          intro b hb
          simpa using asymm a b (hhead b hb)
        have hself : ¬ R a a := fun haa => asymm a a haa haa
        simp [(hsame a List.mem_cons_self).mpr rfl, hnone, hself]
      · have hmem : e ∈ l := (List.mem_cons.mp he).resolve_left fun heq => hae heq.symm
        have hfalse : same a = false := by
          apply Bool.eq_false_iff.mpr
          intro htrue
          exact hae ((hsame a List.mem_cons_self).mp htrue)
        have hrest := ih htail hmem fun b hb => hsame b (List.mem_cons_of_mem a hb)
        simp [hfalse, hhead e hmem, hrest]

/-! ## 2. Precedence after one more observation -/

instance (values : List String) : DecidableRel (Precedes values) := by
  intro a b
  unfold Precedes
  infer_instance

/-- What has been observed before keeps its first occurrence. -/
theorem precedes_concat_iff {values : List String} {v : String} {a b : String × Nat}
    (ha : a.1 ∈ values) (hb : b.1 ∈ values) :
    Precedes (values ++ [v]) a b ↔ Precedes values a b := by
  unfold Precedes
  rw [List.idxOf_append_of_mem ha, List.idxOf_append_of_mem hb]

/-- One more observation leaves the entries of all other values alone. -/
theorem filter_occurrences_concat (values : List String) (v : String) :
    (occurrences (values ++ [v])).filter (fun e => e.1 != v) =
      (occurrences values).filter (fun e => e.1 != v) := by
  unfold occurrences
  have hkeys : (values ++ [v]).eraseDups.filter (fun u => u != v) =
      values.eraseDups.filter (fun u => u != v) := by
    rw [eraseDups_concat]
    by_cases hv : v ∈ values
    · rw [if_pos hv]
    · rw [if_neg hv, List.filter_append]
      simp
  rw [List.filter_map, List.filter_map]
  change ((values ++ [v]).eraseDups.filter fun u => u != v).map _ =
    (values.eraseDups.filter fun u => u != v).map _
  rw [hkeys]
  apply List.map_congr_left
  intro u hu
  have hne : v ≠ u := by
    rintro rfl
    simp at hu
  simp [List.count_append, hne]

namespace Counter

variable {c : Counter} {values : List String}

/-! ## 3. The ranking of a counter -/

theorem Observed.perm_ranking (h : c.Observed values) : c.ranking.Perm (occurrences values) :=
  h.isRanking.perm

theorem Observed.mem_ranking (h : c.Observed values) {e : String × Nat} :
    e ∈ c.ranking ↔ e.1 ∈ values ∧ e.2 = values.count e.1 := by
  rw [h.perm_ranking.mem_iff, mem_occurrences]

theorem Observed.nodup_ranking (h : c.Observed values) : (c.ranking.map (·.1)).Nodup := by
  have hperm := h.perm_ranking.map (·.1)
  rw [hperm.nodup_iff, ← h.toList_eq, h.map_fst_toList]
  exact nodup_eraseDups values

theorem length_ranking (c : Counter) : c.ranking.length = c.size := by
  unfold ranking size
  rw [List.length_mergeSort]
  exact Array.length_toList

/-! ## 4. Heads -/

theorem length_mostCommon (c : Counter) (k : Nat) : (c.mostCommon k).length = min k c.size := by
  rw [mostCommon, List.length_take, length_ranking]

/-- The top entry is the first of any ranked head that is not cut down to nothing. -/
theorem top_eq_head?_mostCommon (c : Counter) {k : Nat} (hk : 0 < k) :
    c.top = (c.mostCommon k).head? := by
  unfold top mostCommon
  rw [List.head?_take, List.head?_take, if_neg Nat.one_ne_zero, if_neg hk.ne']

theorem map_namedCounts (c : Counter) (k : Nat) :
    (c.namedCounts k).map (fun e => (e.name, e.count)) = c.mostCommon k := by
  unfold namedCounts
  rw [List.map_map]
  exact List.map_id _

theorem map_rankedEntries (c : Counter) (k : Nat) :
    (c.rankedEntries k).map (fun e => (e.value, e.count)) = c.mostCommon k := by
  unfold rankedEntries
  rw [List.map_map]
  exact List.map_id _

/-- Every entry of a head precedes every entry that the head leaves out. -/
theorem Observed.precedes_of_notMem (h : c.Observed values) {k : Nat} {kept e : String × Nat}
    (hkept : kept ∈ c.mostCommon k) (he : e ∈ c.ranking) (hout : e ∉ c.mostCommon k) :
    Precedes values kept e := by
  have hordered := h.isRanking.ordered
  rw [← List.take_append_drop k c.ranking] at hordered he
  have hdropped : e ∈ c.ranking.drop k := (List.mem_append.mp he).resolve_left hout
  exact (List.pairwise_append.mp hordered).2.2 kept hkept e hdropped

/-- What the `k` most frequent values of a counter are, after some observations. -/
structure RanksFirst (c : Counter) (values : List String) (k : Nat) : Prop where
  length_eq : (c.mostCommon k).length = min k c.size
  distinct : ((c.mostCommon k).map (·.1)).Nodup
  /-- They are entries of the counter, with the numbers of occurrences. -/
  exact : ∀ e ∈ c.mostCommon k, e ∈ c.toList ∧ e.2 = values.count e.1
  /-- The more frequent one comes first, and of two equally frequent ones the one that has been
  observed first. -/
  ordered : (c.mostCommon k).Pairwise (Precedes values)
  /-- What is left out comes after all that is kept, so does not precede any of it. -/
  leftOut : ∀ e ∈ c.toList, e ∉ c.mostCommon k → ∀ kept ∈ c.mostCommon k,
    Precedes values kept e ∧ ¬ Precedes values e kept
  whole : c.size ≤ k → c.mostCommon k = c.ranking
  shorter : ∀ j ≤ k, c.mostCommon j <+: c.mostCommon k
  top_eq : 1 ≤ k → c.top = (c.mostCommon k).head?
  named : (c.namedCounts k).map (fun e => (e.name, e.count)) = c.mostCommon k
  ranked : (c.rankedEntries k).map (fun e => (e.value, e.count)) = c.mostCommon k

theorem Observed.ranksFirst (h : c.Observed values) (k : Nat) : c.RanksFirst values k where
  length_eq := c.length_mostCommon k
  distinct := h.nodup_ranking.sublist ((List.take_sublist k c.ranking).map _)
  exact := by
    intro e he
    have hmem := List.mem_of_mem_take he
    refine ⟨?_, (h.mem_ranking.mp hmem).2⟩
    rw [h.toList_eq]
    exact h.perm_ranking.mem_iff.mp hmem
  ordered := h.isRanking.ordered.sublist (List.take_sublist k c.ranking)
  leftOut := by
    intro e he hout kept hkept
    rw [h.toList_eq] at he
    have hprecedes := h.precedes_of_notMem hkept (h.perm_ranking.mem_iff.mpr he) hout
    exact ⟨hprecedes, hprecedes.asymm⟩
  whole := by
    intro hk
    apply List.take_of_length_le
    rw [length_ranking]
    exact hk
  shorter := by
    intro j hj
    exact List.take_prefix_take_left hj
  top_eq := c.top_eq_head?_mostCommon
  named := c.map_namedCounts k
  ranked := c.map_rankedEntries k

/-! ## 5. One more observation -/

/-- The place of a value in the ranking: how many entries stand before it, all of them if the
value is unknown. -/
def rank (c : Counter) (v : String) : Nat := c.ranking.findIdx fun e => e.1 == v

theorem Observed.rank_eq_countP (h : c.Observed values) {v : String} (hv : v ∈ values) :
    c.rank v = c.ranking.countP fun e => decide (Precedes values e (v, values.count v)) := by
  have hmem : (v, values.count v) ∈ c.ranking := h.mem_ranking.mpr ⟨hv, rfl⟩
  refine findIdx_eq_countP (fun _ _ => Precedes.asymm) h.isRanking.ordered hmem ?_
  intro e he
  rw [beq_iff_eq]
  constructor
  · rintro rfl
    exact Prod.ext rfl (h.mem_ranking.mp he).2
  · rintro rfl
    rfl

/-- **The other values keep their order**, and their counts. -/
theorem Observed.filter_ranking_add (h : c.Observed values) (v : String) :
    (c.add v).ranking.filter (fun e => e.1 != v) = c.ranking.filter (fun e => e.1 != v) := by
  have hadd := h.add v
  have hperm : ((c.add v).ranking.filter fun e => e.1 != v).Perm
      (c.ranking.filter fun e => e.1 != v) := by
    have hnew := hadd.perm_ranking.filter fun e => e.1 != v
    have hold := h.perm_ranking.filter fun e => e.1 != v
    rw [filter_occurrences_concat] at hnew
    exact hnew.trans hold.symm
  have hold : (c.ranking.filter fun e => e.1 != v).Pairwise (Precedes values) :=
    h.isRanking.ordered.filter _
  have hnew : ((c.add v).ranking.filter fun e => e.1 != v).Pairwise (Precedes values) := by
    refine (hadd.isRanking.ordered.filter _).imp_of_mem ?_
    intro a b ha hb hab
    -- a value other than the new observation has been observed before
    have hknown : ∀ e ∈ (c.add v).ranking.filter (fun e => e.1 != v), e.1 ∈ values := by
      intro e he
      have hold := List.mem_of_mem_filter (hperm.mem_iff.mp he)
      exact (h.mem_ranking.mp hold).1
    exact (precedes_concat_iff (hknown a ha) (hknown b hb)).mp hab
  refine hperm.eq_of_pairwise ?_ hnew hold
  intro a b _ _ hab hba
  exact absurd hba hab.asymm

/-- An entry never precedes itself, so that only the entries of other values count. -/
theorem countP_precedes_eq_filter (values : List String) (l : List (String × Nat))
    {v : String} {n : Nat} (hown : ∀ e ∈ l, e.1 = v → e.2 = n) :
    l.countP (fun e => decide (Precedes values e (v, n))) =
      (l.filter fun e => e.1 != v).countP fun e => decide (Precedes values e (v, n)) := by
  rw [List.countP_filter]
  apply List.countP_congr
  intro e he
  simp only [Bool.and_eq_true, decide_eq_true_eq, bne_iff_ne, ne_eq]
  constructor
  · intro hprecedes
    refine ⟨hprecedes, ?_⟩
    intro heq
    obtain rfl : e = (v, n) := Prod.ext heq (hown e he heq)
    exact hprecedes.asymm hprecedes
  · exact And.left

/-- **An observation never lowers its own value.** -/
theorem Observed.rank_add_le (h : c.Observed values) (v : String) :
    (c.add v).rank v ≤ c.rank v := by
  have hadd := h.add v
  have hlast : v ∈ values ++ [v] := List.mem_append_right values (List.mem_singleton_self v)
  by_cases hv : v ∈ values
  · have hcount : (values ++ [v]).count v = values.count v + 1 := by simp
    have hnew : ∀ e ∈ (c.add v).ranking, e.1 = v → e.2 = (values ++ [v]).count v := by
      rintro e he rfl
      exact (hadd.mem_ranking.mp he).2
    have hold : ∀ e ∈ c.ranking, e.1 = v → e.2 = values.count v := by
      rintro e he rfl
      exact (h.mem_ranking.mp he).2
    rw [hadd.rank_eq_countP hlast, h.rank_eq_countP hv, countP_precedes_eq_filter _ _ hnew,
      countP_precedes_eq_filter _ _ hold, h.filter_ranking_add v]
    apply List.countP_mono_left
    intro e he
    have hknown := (h.mem_ranking.mp (List.mem_of_mem_filter he)).1
    rw [decide_eq_true_eq, decide_eq_true_eq, precedes_concat_iff hknown hv, hcount]
    unfold Precedes
    omega
  · -- a new value comes somewhere in a list that is longer by one
    have hmem : (v, (values ++ [v]).count v) ∈ (c.add v).ranking :=
      hadd.mem_ranking.mpr ⟨hlast, rfl⟩
    have hlt : (c.add v).rank v < (c.add v).ranking.length :=
      List.findIdx_lt_length_of_exists ⟨_, hmem, beq_self_eq_true v⟩
    have hunknown : c.rank v = c.ranking.length := by
      apply List.findIdx_eq_length.mpr
      intro e he
      apply beq_eq_false_iff_ne.mpr
      rintro rfl
      exact hv (h.mem_ranking.mp he).1
    rw [length_ranking, hadd.size_eq, eraseDups_concat, if_neg hv, List.length_append,
      List.length_singleton] at hlt
    rw [hunknown, length_ranking, h.size_eq]
    exact Nat.le_of_lt_succ hlt

/-- **The most frequent values are a head of the one ranking**, of whatever length, and one more
observation moves its value forward, if at all, past others that keep their order. -/
theorem mostCommon_ranks_first (values : List String) (k : Nat) (v : String) :
    (ofList values).RanksFirst values k ∧
      ((ofList values).add v).rank v ≤ (ofList values).rank v ∧
      ((ofList values).add v).ranking.filter (fun e => e.1 != v) =
        (ofList values).ranking.filter (fun e => e.1 != v) := by
  have h := observed_ofList values
  exact ⟨h.ranksFirst k, h.rank_add_le v, h.filter_ranking_add v⟩

end Counter
end IncidentDigest
