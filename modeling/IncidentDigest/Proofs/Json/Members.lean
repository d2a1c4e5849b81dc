import IncidentDigest.Json.Reader
import Mathlib

/-!
# Members of an object

Members are sorted by key as they are read, and a repeated key keeps its last value.  So an
object is a finite map: what it holds for a key is the last member of this key in the text
(`member?_sortMembers`), and members that are sorted already stay as they are.
-/

namespace IncidentDigest.Json

variable {α : Type}

/-! ## 1. Order -/

/-- Members in the order of their keys, each key once. -/
def SortedKeys (ms : List (String × α)) : Prop := ms.Pairwise fun m n => m.1 < n.1

theorem mem_insertMember {key : String} {value : α} {ms : List (String × α)} {m : String × α}
    (h : m ∈ insertMember key value ms) : m = (key, value) ∨ m ∈ ms := by
  induction ms with
  | nil => exact Or.inl (List.mem_singleton.mp h)
  | cons first rest ih =>
      obtain ⟨k, v⟩ := first
      rw [insertMember] at h
      split at h
      · exact List.mem_cons.mp h
      · split at h
        · rcases List.mem_cons.mp h with h | h
          · exact Or.inl h
          · exact Or.inr (List.mem_cons_of_mem _ h)
        · rcases List.mem_cons.mp h with h | h
          · exact Or.inr (h ▸ List.mem_cons_self)
          · rcases ih h with h | h
            · exact Or.inl h
            · exact Or.inr (List.mem_cons_of_mem _ h)

theorem sortedKeys_insertMember (key : String) (value : α) {ms : List (String × α)}
    (h : SortedKeys ms) : SortedKeys (insertMember key value ms) := by
  induction ms with
  | nil => exact List.pairwise_singleton _ _
  | cons first rest ih =>
      obtain ⟨k, v⟩ := first
      obtain ⟨hfirst, hrest⟩ := List.pairwise_cons.mp h
      rw [insertMember]
      split
      · rename_i hlt
        apply List.pairwise_cons.mpr
        constructor
        · intro m hm
          rcases List.mem_cons.mp hm with rfl | hm
          · exact hlt
          · exact lt_trans hlt (hfirst m hm)
        · exact h
      · split
        · rename_i heq
          subst heq
          exact List.pairwise_cons.mpr ⟨hfirst, hrest⟩
        · rename_i hlt hne
          have hgt : k < key := lt_of_le_of_ne (not_lt.mp hlt) (Ne.symm hne)
          apply List.pairwise_cons.mpr
          constructor
          · intro m hm
            rcases mem_insertMember hm with rfl | hm
            · exact hgt
            · exact hfirst m hm
          · exact ih hrest

theorem insertMember_of_gt {key : String} {value : α} {ms : List (String × α)}
    (h : ∀ m ∈ ms, m.1 < key) : insertMember key value ms = ms ++ [(key, value)] := by
  induction ms with
  | nil => rfl
  | cons first rest ih =>
      obtain ⟨k, v⟩ := first
      have hk : k < key := h (k, v) List.mem_cons_self
      rw [insertMember, if_neg (not_lt_of_gt hk), if_neg (ne_of_gt hk),
        ih fun m hm => h m (List.mem_cons_of_mem _ hm)]
      rfl

theorem sortMembers_append_singleton (ms : List (String × α)) (m : String × α) :
    sortMembers (ms ++ [m]) = insertMember m.1 m.2 (sortMembers ms) := by
  unfold sortMembers
  rw [List.foldl_append]
  rfl

theorem sortedKeys_sortMembers (ms : List (String × α)) : SortedKeys (sortMembers ms) := by
  induction ms using List.reverseRecOn with
  | nil => exact List.Pairwise.nil
  | append_singleton ms m ih =>
      rw [sortMembers_append_singleton]
      exact sortedKeys_insertMember _ _ ih

/-- Sorted members stay as they are. -/
theorem sortMembers_of_sortedKeys {ms : List (String × α)} (h : SortedKeys ms) :
    sortMembers ms = ms := by
  induction ms using List.reverseRecOn with
  | nil => rfl
  | append_singleton ms m ih =>
      obtain ⟨hms, -, hlast⟩ := List.pairwise_append.mp h
      rw [sortMembers_append_singleton, ih hms]
      apply insertMember_of_gt
      intro n hn
      exact hlast n hn m (List.mem_singleton_self m)

theorem mem_of_mem_sortMembers {ms : List (String × α)} {m : String × α}
    (h : m ∈ sortMembers ms) : m ∈ ms := by
  induction ms using List.reverseRecOn with
  | nil => exact h
  | append_singleton ms last ih =>
      rw [sortMembers_append_singleton] at h
      rcases mem_insertMember h with rfl | h
      · exact List.mem_append_right _ (List.mem_singleton_self _)
      · exact List.mem_append_left _ (ih h)

/-! ## 2. Values of a key -/

theorem member?_cons (key : String) (m : String × α) (ms : List (String × α)) :
    member? key (m :: ms) = if m.1 = key then some m.2 else member? key ms := by
  unfold member?
  by_cases h : m.1 = key
  · rw [List.find?_cons_of_pos (by simpa using h), if_pos h]
    rfl
  · rw [List.find?_cons_of_neg (by simpa using h), if_neg h]

theorem member?_insertMember (key : String) (value : α) {ms : List (String × α)}
    (h : SortedKeys ms) (wanted : String) :
    member? wanted (insertMember key value ms) =
      if key = wanted then some value else member? wanted ms := by
  induction ms with
  | nil => exact member?_cons wanted (key, value) []
  | cons first rest ih =>
      obtain ⟨k, v⟩ := first
      obtain ⟨-, hrest⟩ := List.pairwise_cons.mp h
      rw [insertMember]
      split
      · exact member?_cons wanted (key, value) _
      · split
        · rename_i heq
          subst heq
          rw [member?_cons, member?_cons]
          by_cases hkey : key = wanted
          · rw [if_pos hkey, if_pos hkey]
          · rw [if_neg hkey, if_neg hkey, if_neg hkey]
        · rename_i hne
          rw [member?_cons, member?_cons, ih hrest]
          by_cases hk : k = wanted
          · rw [if_pos hk, if_pos hk, if_neg]
            rintro rfl
            exact hne hk.symm
          · rw [if_neg hk, if_neg hk]

/-- **An object holds for each key the last value that the text gives it.** -/
theorem member?_sortMembers (ms : List (String × α)) (key : String) :
    member? key (sortMembers ms) = member? key ms.reverse := by
  induction ms using List.reverseRecOn with
  | nil => rfl
  | append_singleton ms m ih =>
      rw [sortMembers_append_singleton,
        member?_insertMember _ _ (sortedKeys_sortMembers ms), ih, List.reverse_append,
        List.reverse_singleton, List.singleton_append, member?_cons]

end IncidentDigest.Json
