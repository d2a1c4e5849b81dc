import IncidentDigest.Proofs.Counter.Occurrences

/-!
# The order of a ranking

The ranking of a counter puts frequent values first and leaves equally frequent
ones in the order of first observation.  `Precedes` states this order on entries
without sorting anything; no two entries of different values are tied in it, so
it leaves only one way to list the distinct values (`IsRanking.unique`), and the
stable sort of the counter finds it (`Counter.Observed.isRanking`).
-/

namespace IncidentDigest

/-! ## 1. Stability

Sorting keeps a relation that holds along the list wherever the order of the sort
does not decide. -/

theorem pairwise_mergeSort_of_tie {α : Type} {le : α → α → Bool} {R : α → α → Prop}
    (trans : ∀ a b c, le a b → le b c → le a c) (total : ∀ a b, le a b || le b a)
    {l : List α} (h : l.Pairwise R) :
    (l.mergeSort le).Pairwise fun a b => le b a = true → R a b := by
  induction l with
  | nil =>
      rw [List.mergeSort_nil]
      exact List.Pairwise.nil
  | cons a l ih =>
      obtain ⟨hhead, htail⟩ := List.pairwise_cons.mp h
      -- the head is put after the entries that it does not come before
      obtain ⟨before, after, hcons, hrest, hbefore⟩ := List.mergeSort_cons trans total a l
      have hmem : ∀ b ∈ after, b ∈ l := by
        intro b hb
        have hsorted : b ∈ l.mergeSort le := hrest ▸ List.mem_append_right before hb
        exact List.mem_mergeSort.mp hsorted
      have ih' := ih htail
      rw [hrest, List.pairwise_append] at ih'
      obtain ⟨hleft, hright, hcross⟩ := ih'
      rw [hcons, List.pairwise_append, List.pairwise_cons]
      refine ⟨hleft, ⟨fun b hb _ => hhead b (hmem b hb), hright⟩, ?_⟩
      intro b hb c hc hle
      rcases List.mem_cons.mp hc with rfl | hc
      · have hnot := hbefore b hb
        simp [hle] at hnot
      · exact hcross b hb c hc hle

/-! ## 2. The order on entries -/

/-- Whether an entry comes before another one: it is the more frequent one, or it is
as frequent and its value has been observed first. -/
def Precedes (values : List String) (a b : String × Nat) : Prop :=
  b.2 < a.2 ∨ (a.2 = b.2 ∧ values.idxOf a.1 < values.idxOf b.1)

theorem Precedes.asymm {values : List String} {a b : String × Nat}
    (hab : Precedes values a b) : ¬ Precedes values b a := by
  intro hba
  unfold Precedes at hab hba
  omega

/-- A listing of the distinct values, frequent ones first. -/
structure IsRanking (values : List String) (ranked : List (String × Nat)) : Prop where
  /-- It lists every distinct value once, with its number of occurrences. -/
  perm : ranked.Perm (occurrences values)
  ordered : ranked.Pairwise (Precedes values)

/-- **There is no second ranking.** -/
theorem IsRanking.unique {values : List String} {l m : List (String × Nat)}
    (hl : IsRanking values l) (hm : IsRanking values m) : l = m := by
  refine List.Perm.eq_of_pairwise ?_ hl.ordered hm.ordered (hl.perm.trans hm.perm.symm)
  intro a b _ _ hab hba
  exact absurd hba hab.asymm

theorem pairwise_occurrences (values : List String) :
    (occurrences values).Pairwise fun a b => values.idxOf a.1 < values.idxOf b.1 := by
  unfold occurrences
  rw [List.pairwise_map]
  exact pairwise_eraseDups values

/-! ## 3. The ranking of a counter -/

theorem frequency_trans (a b c : String × Nat) (hab : decide (b.2 ≤ a.2) = true)
    (hbc : decide (c.2 ≤ b.2) = true) : decide (c.2 ≤ a.2) = true := by
  rw [decide_eq_true_eq] at hab hbc ⊢
  exact Nat.le_trans hbc hab

theorem frequency_total (a b : String × Nat) :
    (decide (b.2 ≤ a.2) || decide (a.2 ≤ b.2)) = true := by
  rw [Bool.or_eq_true, decide_eq_true_eq, decide_eq_true_eq]
  exact Nat.le_total b.2 a.2

namespace Counter

theorem pairwise_ranking (c : Counter) : c.ranking.Pairwise fun a b => b.2 ≤ a.2 :=
  (List.pairwise_mergeSort frequency_trans frequency_total c.toList).imp of_decide_eq_true

/-- **A counter ranks what it has observed.** -/
theorem Observed.isRanking {c : Counter} {values : List String} (h : Observed c values) :
    IsRanking values c.ranking := by
  have hsorted := c.pairwise_ranking
  have hstable :=
    pairwise_mergeSort_of_tie frequency_trans frequency_total (pairwise_occurrences values)
  unfold ranking at hsorted ⊢
  rw [h.toList_eq] at hsorted ⊢
  refine ⟨List.mergeSort_perm _ _, (hsorted.and hstable).imp ?_⟩
  rintro a b ⟨hle, htie⟩
  rcases Nat.lt_or_eq_of_le hle with hlt | heq
  · exact Or.inl hlt
  · exact Or.inr ⟨heq.symm, htie (decide_eq_true (Nat.le_of_eq heq.symm))⟩

end Counter
end IncidentDigest
