import IncidentDigest.Proofs.Json.Members
import IncidentDigest.Proofs.Json.Scalar
import IncidentDigest.Record

/-!
# Known fields of a record

A record is refused only for a known field that is repeated.  An object that has been read as
a value holds each of its keys once, so that it is always accepted: a list that has been read
is a listing of scenarios exactly if all of its items are objects.
-/

namespace IncidentDigest

/-! ## 1. Lists of readings -/

theorem exists_mapM_eq_some {α β : Type} {f : α → Option β} {xs : List α}
    (h : ∀ x ∈ xs, ∃ y, f x = some y) : ∃ ys, xs.mapM f = some ys ∧ ys.length = xs.length := by
  induction xs with
  | nil => exact ⟨[], rfl, rfl⟩
  | cons x xs ih =>
      obtain ⟨y, hy⟩ := h x List.mem_cons_self
      obtain ⟨ys, hys, hlength⟩ := ih fun z hz => h z (List.mem_cons_of_mem x hz)
      refine ⟨y :: ys, ?_, ?_⟩
      · rw [List.mapM_cons, hy, hys]
        rfl
      · rw [List.length_cons, List.length_cons, hlength]

theorem mapM_eq_some_map {α β : Type} {f : α → Option β} {g : α → β} {xs : List α}
    (h : ∀ x ∈ xs, f x = some (g x)) : xs.mapM f = some (xs.map g) := by
  induction xs with
  | nil => rfl
  | cons x xs ih =>
      rw [List.mapM_cons, h x List.mem_cons_self, ih fun z hz => h z (List.mem_cons_of_mem x hz)]
      rfl

theorem mapM_eq_none {α β : Type} {f : α → Option β} {x : α} {xs : List α} (hx : x ∈ xs)
    (h : f x = none) : xs.mapM f = none := by
  induction xs with
  | nil => cases hx
  | cons first xs ih =>
      rw [List.mapM_cons]
      rcases List.mem_cons.mp hx with rfl | hx
      · rw [h]
        rfl
      · rw [ih hx]
        cases f first with
        | none => rfl
        | some y => rfl

/-! ## 2. Repeated keys -/

namespace Json

/-- Sorted members hold each key at most once. -/
theorem SortedKeys.length_filter_le {α : Type} {ms : List (String × α)} (h : SortedKeys ms)
    (key : String) : (ms.filter fun m => m.1 == key).length ≤ 1 := by
  have hsorted : (ms.filter fun m => m.1 == key).Pairwise fun m n => m.1 < n.1 := h.filter _
  have hkey : ∀ m ∈ ms.filter fun m => m.1 == key, m.1 = key := by
    intro m hm
    exact beq_iff_eq.mp (List.mem_filter.mp hm).2
  generalize ms.filter (fun m => m.1 == key) = found at hsorted hkey
  match found with
  | [] => exact Nat.zero_le 1
  | [m] => exact Nat.le_refl 1
  | m :: n :: rest =>
      have hlt : m.1 < n.1 := (List.pairwise_cons.mp hsorted).1 n List.mem_cons_self
      rw [hkey m (by simp), hkey n (by simp)] at hlt
      exact absurd hlt (lt_irrefl key)

/-- The members of an object that has been read are sorted. -/
theorem sortedKeys_of_ofWritten? {room : ℕ} {w : Written} {ms : List (String × Json)}
    (h : ofWritten? room w = some (.obj ms)) : SortedKeys ms := by
  cases w with
  | obj members =>
      rw [ofWritten?] at h
      split at h
      · cases h
      · obtain ⟨read, -, hread⟩ := Option.map_eq_some_iff.mp h
        obtain rfl : sortMembers read = ms := Json.obj.inj hread
        exact sortedKeys_sortMembers read
  | number n => simpa using Numeral.value?_cases h
  | _ => simp [ofWritten?] at h

/-- The items of a list that has been read have been read themselves. -/
theorem exists_ofWritten?_of_mem {room : ℕ} {ws : List Written} {items : List Json}
    (h : ofWrittenItems? room ws = some items) :
    ∀ item ∈ items, ∃ w, ofWritten? room w = some item := by
  induction ws generalizing items with
  | nil =>
      obtain rfl : [] = items := by simpa [ofWrittenItems?] using h
      intro item hitem
      cases hitem
  | cons w ws ih =>
      rw [ofWrittenItems?] at h
      obtain ⟨v, hv, h⟩ := Option.bind_eq_some_iff.mp h
      obtain ⟨vs, hvs, h⟩ := Option.bind_eq_some_iff.mp h
      obtain rfl : v :: vs = items := Option.some.inj h
      intro item hitem
      rcases List.mem_cons.mp hitem with rfl | hitem
      · exact ⟨w, hv⟩
      · exact ih hvs item hitem

/-- The objects of a list that has been read hold each of their keys once. -/
theorem sortedKeys_of_readBytes? {bytes : List UInt8} {items : List Json}
    (h : Shape.readBytes? Shape.value bytes = some (.arr items)) {ms : List (String × Json)}
    (hitem : .obj ms ∈ items) : SortedKeys ms := by
  unfold Shape.readBytes? Shape.readText? at h
  obtain ⟨w, -, hw⟩ := Option.bind_eq_some_iff.mp h
  unfold Shape.value at hw
  cases w with
  | arr ws =>
      rw [ofWritten?] at hw
      split at hw
      · cases hw
      · obtain ⟨read, hread, harr⟩ := Option.map_eq_some_iff.mp hw
        obtain rfl : read = items := Json.arr.inj harr
        obtain ⟨written, hwritten⟩ := exists_ofWritten?_of_mem hread _ hitem
        exact sortedKeys_of_ofWritten? hwritten
  | obj members =>
      rw [ofWritten?] at hw
      split at hw
      · cases hw
      · obtain ⟨read, -, hobj⟩ := Option.map_eq_some_iff.mp hw
        cases hobj
  | number n => simpa using Numeral.value?_cases hw
  | _ => simp [ofWritten?] at hw

end Json

/-! ## 3. Records -/

namespace Extras

/-- No known field stands twice among the members. -/
def Unrepeated (known : List String) (members : List (String × Json)) : Prop :=
  ∀ field ∈ known, (members.filter fun m => m.1 == field).length ≤ 1

def others (known : List String) (members : List (String × Json)) : Extras :=
  Json.sortMembers (members.filter fun m => !known.contains m.1)

/-- **Members are split unless a known field is repeated.** -/
theorem split?_of_unrepeated {known : List String} {members : List (String × Json)}
    (h : Unrepeated known members) :
    split? known members =
      some (known.map fun field => Json.member? field members, others known members) := by
  unfold split?
  dsimp only
  rw [@mapM_eq_some_map _ _ _ fun field => Json.member? field members]
  · rfl
  · intro field hfield
    have hlength := h field hfield
    have hfirst : (members.filter fun m => m.1 == field).head?.map (·.2) =
        Json.member? field members := by
      rw [List.head?_filter]
      rfl
    rw [← hfirst]
    rcases hfound : members.filter fun m => m.1 == field with _ | ⟨m, _ | ⟨n, rest⟩⟩
    · simp [hfound]
    · simp [hfound]
    · simp [hfound] at hlength

theorem split?_of_repeated {known : List String} {members : List (String × Json)}
    (h : ¬ Unrepeated known members) : split? known members = none := by
  simp only [Unrepeated, not_forall, not_le] at h
  obtain ⟨field, hfield, hlength⟩ := h
  unfold split?
  dsimp only
  rw [mapM_eq_none hfield]
  · rfl
  · rcases hfound : members.filter fun m => m.1 == field with _ | ⟨m, _ | ⟨n, rest⟩⟩
    · simp [hfound] at hlength
    · simp [hfound] at hlength
    · simp [hfound]

end Extras

namespace ScenarioSummary

theorem exists_ofJson? {ms : List (String × Json)} (h : Json.SortedKeys ms) :
    ∃ entry, ofJson? (.obj ms) = some entry := by
  have hunrepeated : Extras.Unrepeated ["scenario_id", "title"] ms :=
    fun field _ => h.length_filter_le field
  rw [ofJson?, ofMembers?, Extras.split?_of_unrepeated hunrepeated]
  exact ⟨_, rfl⟩

end ScenarioSummary
end IncidentDigest
