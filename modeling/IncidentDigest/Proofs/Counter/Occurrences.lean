import IncidentDigest.Counter
import Mathlib

/-!
# Counters count occurrences

A counter keeps a list of entries and an index into it.  Both are determined by
the values that have been observed: the entries are the distinct values in the
order of their first occurrence, each with its number of occurrences, and the
index sends a value to its place among the distinct ones.  `Counter.Observed` is
the invariant, `Counter.Observed.add` its step, and `Counter.observed_ofList`
what it gives for a whole list of observations.
-/

namespace IncidentDigest

/-! ## 1. Distinct values in the order of first occurrence -/

/-- The distinct values of a list in the order of first occurrence, each with its
number of occurrences. -/
def occurrences (values : List String) : List (String × Nat) :=
  values.eraseDups.map fun v => (v, values.count v)

/-- A repeated value adds nothing to the distinct ones; a new one comes last. -/
theorem eraseDups_concat (values : List String) (v : String) :
    (values ++ [v]).eraseDups =
      if v ∈ values then values.eraseDups else values.eraseDups ++ [v] := by
  rw [List.eraseDups_append]
  by_cases h : v ∈ values
  · have hnone : [v].removeAll values = [] := by simp [List.removeAll, h]
    rw [if_pos h, hnone, List.eraseDups_nil, List.append_nil]
  · have hone : [v].removeAll values = [v] := by simp [List.removeAll, h]
    rw [if_neg h, hone, List.eraseDups_cons]
    rfl

theorem nodup_eraseDups (values : List String) : values.eraseDups.Nodup := by
  induction values using List.reverseRecOn with
  | nil => exact List.nodup_nil
  | append_singleton values v ih =>
      rw [eraseDups_concat]
      by_cases h : v ∈ values
      · rw [if_pos h]
        exact ih
      · rw [if_neg h]
        refine List.nodup_append.mpr ⟨ih, List.nodup_singleton v, ?_⟩
        intro a ha b hb hab
        rw [List.mem_singleton] at hb
        subst hab hb
        exact h (List.mem_eraseDups.mp ha)

/-- **The distinct values stand in the order of their first occurrence.** -/
theorem pairwise_eraseDups (values : List String) :
    values.eraseDups.Pairwise fun a b => values.idxOf a < values.idxOf b := by
  induction values using List.reverseRecOn with
  | nil => exact List.Pairwise.nil
  | append_singleton values v ih =>
      -- what has been seen before keeps its first position
      have hkeep : ∀ a ∈ values.eraseDups, (values ++ [v]).idxOf a = values.idxOf a :=
        fun a ha => List.idxOf_append_of_mem (List.mem_eraseDups.mp ha)
      have hold : values.eraseDups.Pairwise fun a b =>
          (values ++ [v]).idxOf a < (values ++ [v]).idxOf b := by
        refine ih.imp_of_mem ?_
        intro a b ha hb hab
        rw [hkeep a ha, hkeep b hb]
        exact hab
      rw [eraseDups_concat]
      by_cases h : v ∈ values
      · rw [if_pos h]
        exact hold
      · rw [if_neg h]
        refine List.pairwise_append.mpr ⟨hold, List.pairwise_singleton _ v, ?_⟩
        intro a ha b hb
        rw [List.mem_singleton] at hb
        subst hb
        rw [hkeep a ha, List.idxOf_append_of_notMem h]
        exact Nat.lt_of_lt_of_le (List.idxOf_lt_length_of_mem (List.mem_eraseDups.mp ha))
          (Nat.le_add_right _ _)

theorem occurrences_concat_of_notMem {values : List String} {v : String} (h : v ∉ values) :
    occurrences (values ++ [v]) = occurrences values ++ [(v, 1)] := by
  unfold occurrences
  rw [eraseDups_concat, if_neg h, List.map_append]
  congr 1
  · apply List.map_congr_left
    intro a ha
    have hne : v ≠ a := fun heq => h (heq ▸ List.mem_eraseDups.mp ha)
    simp [List.count_append, hne]
  · simp [List.count_append, List.count_eq_zero.mpr h]

theorem occurrences_concat_of_mem {values : List String} {v : String} (h : v ∈ values) :
    occurrences (values ++ [v]) =
      (occurrences values).modify (values.eraseDups.idxOf v) fun e => (e.1, e.2 + 1) := by
  unfold occurrences
  rw [eraseDups_concat, if_pos h]
  have hdup := nodup_eraseDups values
  apply List.ext_getElem?
  intro i
  simp only [List.getElem?_map, List.getElem?_modify]
  rcases hi : values.eraseDups[i]? with _ | a
  · simp
  · by_cases hv : values.eraseDups.idxOf v = i
    · have ha : a = v := by
        have := List.getElem?_idxOf (List.mem_eraseDups.mpr h)
        rw [hv, hi] at this
        exact Option.some.inj this
      simp [hv, ha, List.count_append]
    · have ha : v ≠ a := by
        intro heq
        subst heq
        obtain ⟨hlt, hget⟩ := List.getElem?_eq_some_iff.mp hi
        exact hv (by rw [← hget]; exact hdup.idxOf_getElem i hlt)
      simp [hv, ha, List.count_append, List.count_singleton]

@[simp] theorem length_occurrences (values : List String) :
    (occurrences values).length = values.eraseDups.length := by
  simp [occurrences]

theorem mem_occurrences {values : List String} {e : String × Nat} :
    e ∈ occurrences values ↔ e.1 ∈ values ∧ e.2 = values.count e.1 := by
  unfold occurrences
  constructor
  · intro h
    obtain ⟨v, hv, rfl⟩ := List.mem_map.mp h
    exact ⟨List.mem_eraseDups.mp hv, rfl⟩
  · rintro ⟨hmem, hcount⟩
    exact List.mem_map.mpr ⟨e.1, List.mem_eraseDups.mpr hmem, Prod.ext rfl hcount.symm⟩

/-! ## 2. The invariant of a counter -/

namespace Counter

/-- What a counter holds after some observations. -/
structure Observed (c : Counter) (values : List String) : Prop where
  /-- The entries are the distinct values with their numbers of occurrences. -/
  toList_eq : c.toList = occurrences values
  /-- The index knows the observed values and no others, each by its place. -/
  slot_eq : ∀ v, c.slots[v]? =
    if v ∈ values then some (values.eraseDups.idxOf v) else none

theorem observed_empty : Observed empty [] where
  toList_eq := rfl
  slot_eq v := by simp [empty]

/-- **One observation.**  A value that is known raises its own entry; a new one gets
the place after all others. -/
theorem Observed.add {c : Counter} {values : List String} (h : Observed c values)
    (v : String) : Observed (c.add v) (values ++ [v]) := by
  by_cases hv : v ∈ values
  · have hslot : c.slots[v]? = some (values.eraseDups.idxOf v) := by
      rw [h.slot_eq, if_pos hv]
    have hadd : c.add v =
        ⟨c.entries.modify (values.eraseDups.idxOf v) fun e => (e.1, e.2 + 1), c.slots⟩ := by
      unfold Counter.add
      rw [hslot]
    refine ⟨?_, ?_⟩
    · rw [hadd, occurrences_concat_of_mem hv, ← h.toList_eq]
      exact Array.toList_modify ..
    · intro w
      rw [hadd, eraseDups_concat, if_pos hv, h.slot_eq w]
      have hiff : w ∈ values ++ [v] ↔ w ∈ values := by
        rw [List.mem_append, List.mem_singleton]
        exact ⟨fun hw => hw.elim id fun heq => heq ▸ hv, Or.inl⟩
      simp only [hiff]
  · have hslot : c.slots[v]? = none := by rw [h.slot_eq, if_neg hv]
    have hsize : c.entries.size = values.eraseDups.length := by
      rw [← length_occurrences, ← h.toList_eq]
      exact Array.length_toList.symm
    have hadd : c.add v = ⟨c.entries.push (v, 1), c.slots.insert v values.eraseDups.length⟩ := by
      unfold Counter.add
      rw [hslot, hsize]
    refine ⟨?_, ?_⟩
    · rw [hadd, occurrences_concat_of_notMem hv, ← h.toList_eq]
      exact Array.toList_push
    · intro w
      rw [hadd, Std.HashMap.getElem?_insert, h.slot_eq w, eraseDups_concat, if_neg hv]
      by_cases hw : w = v
      · subst hw
        have hnew : w ∉ values.eraseDups := fun hmem => hv (List.mem_eraseDups.mp hmem)
        simp [List.idxOf_append_of_notMem hnew]
      · have hne : v ≠ w := fun heq => hw heq.symm
        by_cases hmem : w ∈ values
        · have hold : w ∈ values.eraseDups := List.mem_eraseDups.mpr hmem
          simp [hne, hmem, List.idxOf_append_of_mem hold]
        · simp [hne, hw, hmem]

theorem Observed.foldl_add {c : Counter} {seen : List String} (h : Observed c seen)
    (values : List String) : Observed (values.foldl Counter.add c) (seen ++ values) := by
  induction values generalizing c seen with
  | nil => simpa using h
  | cons v values ih => simpa using ih (h.add v)

/-- **A counter of a list of observations refines the list.** -/
theorem observed_ofList (values : List String) : Observed (ofList values) values := by
  simpa [ofList] using observed_empty.foldl_add values

/-! ## 3. Totals -/

theorem sum_count_eraseDups (values : List String) :
    (values.eraseDups.map fun v => values.count v).sum = values.length := by
  have hperm : values.eraseDups.Perm values.dedup := by
    rw [List.perm_ext_iff_of_nodup (nodup_eraseDups values) values.nodup_dedup]
    intro v
    rw [List.mem_eraseDups, List.mem_dedup]
  rw [(hperm.map _).sum_eq]
  exact List.sum_map_count_dedup_eq_length values

theorem total_eq_sum (c : Counter) : c.total = (c.toList.map (·.2)).sum := by
  unfold total
  induction c.toList with
  | nil => rfl
  | cons e es ih => rw [List.foldr_cons, List.map_cons, List.sum_cons, ih]

/-- No observation is lost, and none is counted twice. -/
theorem Observed.total_eq {c : Counter} {values : List String} (h : Observed c values) :
    c.total = values.length := by
  rw [total_eq_sum, h.toList_eq, occurrences, List.map_map]
  exact sum_count_eraseDups values

end Counter
end IncidentDigest
