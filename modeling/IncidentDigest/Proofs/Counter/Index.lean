import IncidentDigest.Proofs.Counter.Occurrences

/-!
# The index of a counter

A counter is redundant: its index only repeats what the entries say.  Here the two parts are
compared slot by slot (`Observed.slot_iff`): the index sends a value to the one slot that
bears it, so that no slot is out of bounds and no value has two.  All observers follow, and
equality of counters comes down to equality of their entries, whatever the observations were
(`Observed.beq_iff`).
-/

namespace IncidentDigest

/-! ## 1. Slots -/

/-- A place among the distinct values belongs to the value that stands there, and to no other
one. -/
theorem getElem?_eraseDups_eq_some_iff {values : List String} {slot : Nat} {v : String} :
    values.eraseDups[slot]? = some v ↔ v ∈ values ∧ values.eraseDups.idxOf v = slot := by
  constructor
  · intro h
    obtain ⟨hlt, hget⟩ := List.getElem?_eq_some_iff.mp h
    have hmem : v ∈ values := List.mem_eraseDups.mp (List.mem_of_getElem? h)
    refine ⟨hmem, ?_⟩
    rw [← hget]
    exact (nodup_eraseDups values).idxOf_getElem slot hlt
  · rintro ⟨hmem, rfl⟩
    exact List.getElem?_idxOf (List.mem_eraseDups.mpr hmem)

namespace Counter

variable {c d : Counter} {values values' : List String}

/-- A slot bears a value with its number of occurrences. -/
theorem Observed.getElem?_entries (h : c.Observed values) (slot : Nat) :
    c.entries[slot]? = values.eraseDups[slot]?.map fun v => (v, values.count v) := by
  have hlist := congrArg (fun entries => entries[slot]?) h.toList_eq
  simpa [toList, occurrences] using hlist

/-- **The index sends a value to the slot that bears it, and to no other one.** -/
theorem Observed.slot_iff (h : c.Observed values) (v : String) (slot : Nat) :
    c.slots[v]? = some slot ↔ ∃ n, c.entries[slot]? = some (v, n) := by
  rw [h.slot_eq v, h.getElem?_entries slot]
  constructor
  · intro hslot
    have hmem : v ∈ values := by
      by_contra hnot
      rw [if_neg hnot] at hslot
      cases hslot
    rw [if_pos hmem] at hslot
    have hplace := getElem?_eraseDups_eq_some_iff.mpr ⟨hmem, Option.some.inj hslot⟩
    exact ⟨values.count v, by rw [hplace, Option.map_some]⟩
  · rintro ⟨n, hentry⟩
    obtain ⟨u, hu, heq⟩ := Option.map_eq_some_iff.mp hentry
    obtain rfl : u = v := congrArg Prod.fst heq
    obtain ⟨hmem, hplace⟩ := getElem?_eraseDups_eq_some_iff.mp hu
    rw [if_pos hmem, hplace]

theorem Observed.mem_slots_iff (h : c.Observed values) (v : String) :
    v ∈ c.slots ↔ v ∈ values := by
  rw [Std.HashMap.mem_iff_isSome_getElem?, h.slot_eq v]
  by_cases hv : v ∈ values
  · simp [hv]
  · simp [hv]

theorem Observed.map_fst_toList (h : c.Observed values) :
    c.toList.map (·.1) = values.eraseDups := by
  rw [h.toList_eq, occurrences, List.map_map]
  exact List.map_id _

/-- A value that has not been observed counts zero. -/
theorem Observed.count_eq (h : c.Observed values) (v : String) :
    c.count v = values.count v := by
  unfold Counter.count
  by_cases hv : v ∈ values
  · have hplace := getElem?_eraseDups_eq_some_iff.mpr ⟨hv, rfl⟩
    rw [h.slot_eq v, if_pos hv]
    simp [h.getElem?_entries, hplace]
  · rw [h.slot_eq v, if_neg hv, List.count_eq_zero.mpr hv]

theorem Observed.size_eq (h : c.Observed values) : c.size = values.eraseDups.length := by
  rw [← h.map_fst_toList, List.length_map]
  exact Array.length_toList.symm

/-! ## 2. Equality -/

/-- Counters are compared part by part. -/
theorem beq_eq (c d : Counter) : (c == d) = (c.entries == d.entries && c.slots == d.slots) := rfl

/-- **Counters are equal if their entries are**, because the entries determine the index. -/
theorem Observed.beq_iff (hc : c.Observed values) (hd : d.Observed values') :
    (c == d) = true ↔ c.toList = d.toList := by
  rw [beq_eq, Bool.and_eq_true, beq_iff_eq]
  constructor
  · rintro ⟨hentries, -⟩
    exact congrArg Array.toList hentries
  · intro hlists
    have hentries : c.entries = d.entries := Array.toList_inj.mp hlists
    refine ⟨hentries, ?_⟩
    rw [Std.HashMap.beq_iff_equiv]
    apply Std.HashMap.Equiv.of_forall_getElem?_eq
    intro v
    apply Option.ext
    intro slot
    rw [hc.slot_iff v slot, hd.slot_iff v slot, hentries]

/-! ## 3. A counter refines the list of its observations -/

/-- What both parts of a counter hold after some observations, and what its observers tell. -/
structure Refines (c : Counter) (values : List String) : Prop where
  /-- The index knows the observed values and no others. -/
  mem_slots : ∀ v : String, v ∈ c.slots ↔ v ∈ values
  /-- It sends a value to the slot that bears it. -/
  slot_iff : ∀ (v : String) (slot : Nat),
    c.slots[v]? = some slot ↔ ∃ n, c.entries[slot]? = some (v, n)
  inBounds : ∀ (v : String) (slot : Nat), c.slots[v]? = some slot → slot < c.entries.size
  /-- No value has two slots. -/
  unique : ∀ (v : String) (i j n m : Nat),
    c.entries[i]? = some (v, n) → c.entries[j]? = some (v, m) → i = j
  /-- The listed values are the observed ones. -/
  listed : ∀ v, v ∈ c.toList.map (·.1) ↔ v ∈ values
  distinct : (c.toList.map (·.1)).Nodup
  firstFirst : c.toList.Pairwise fun a b => values.idxOf a.1 < values.idxOf b.1
  /-- The listed counts are the numbers of occurrences. -/
  counts : ∀ e ∈ c.toList, e.2 = values.count e.1 ∧ 1 ≤ e.2
  count_eq : ∀ v, c.count v = values.count v
  total_eq : c.total = values.length
  size_eq : c.size = values.toFinset.card
  isEmpty_iff : c.isEmpty = true ↔ values = []

/-- As many values are distinct as there are in the set of them. -/
theorem length_eraseDups_eq_card (values : List String) :
    values.eraseDups.length = values.toFinset.card := by
  have hset : values.toFinset = values.eraseDups.toFinset := by
    ext v
    rw [List.mem_toFinset, List.mem_toFinset, List.mem_eraseDups]
  rw [hset, List.toFinset_card_of_nodup (nodup_eraseDups values)]

theorem Observed.isEmpty_iff (h : c.Observed values) : c.isEmpty = true ↔ values = [] := by
  have hempty : c.isEmpty = true ↔ c.size = 0 := Array.isEmpty_iff_size_eq_zero
  rw [hempty, h.size_eq, List.length_eq_zero_iff]
  constructor
  · intro hnone
    apply List.eq_nil_iff_forall_not_mem.mpr
    intro v hv
    have hmem := List.mem_eraseDups.mpr hv
    rw [hnone] at hmem
    cases hmem
  · rintro rfl
    rfl

/-- **The index never leads astray, and the observers tell what has been observed.** -/
theorem Observed.refines (h : c.Observed values) : c.Refines values where
  mem_slots := h.mem_slots_iff
  slot_iff := h.slot_iff
  inBounds := by
    intro v slot hslot
    obtain ⟨n, hentry⟩ := (h.slot_iff v slot).mp hslot
    exact (Array.getElem?_eq_some_iff.mp hentry).1
  unique := by
    intro v i j n m hi hj
    have hslot := (h.slot_iff v i).mpr ⟨n, hi⟩
    rw [(h.slot_iff v j).mpr ⟨m, hj⟩] at hslot
    exact (Option.some.inj hslot).symm
  listed := by
    intro v
    rw [h.map_fst_toList, List.mem_eraseDups]
  distinct := by
    rw [h.map_fst_toList]
    exact nodup_eraseDups values
  firstFirst := by
    rw [h.toList_eq, occurrences, List.pairwise_map]
    exact pairwise_eraseDups values
  counts := by
    intro e he
    rw [h.toList_eq] at he
    obtain ⟨hmem, hcount⟩ := mem_occurrences.mp he
    refine ⟨hcount, ?_⟩
    rw [hcount]
    exact List.count_pos_iff.mpr hmem
  count_eq := h.count_eq
  total_eq := h.total_eq
  size_eq := by rw [h.size_eq, length_eraseDups_eq_card]
  isEmpty_iff := h.isEmpty_iff

/-- **A counter is as good as the list of its observations**, in both of its parts and for all
of its observers, and two counters are equal exactly if they list the same entries. -/
theorem ofList_refines_and_beq (values : List String) :
    (ofList values).Refines values ∧
      ∀ values', (ofList values == ofList values') = true ↔
        (ofList values).toList = (ofList values').toList := by
  refine ⟨(observed_ofList values).refines, ?_⟩
  intro values'
  exact (observed_ofList values).beq_iff (observed_ofList values')

end Counter
end IncidentDigest
