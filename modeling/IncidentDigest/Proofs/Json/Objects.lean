import IncidentDigest.Proofs.Json.RoundTrip

/-!
# Objects member by member

A record takes the members of an object in the order of the text, repeated ones included, so
that values, which hold sorted members, do not say what it sees.  Here an object is a list of
members.  Written in either layout, it is read as the same list, whatever the order of its keys
(`membersOf?_render`), and a member that has been read is exact and has room for one container
around it.
-/

namespace IncidentDigest.Json

/-! ## 1. What has been read -/

/-- The members of the object that a text holds, in the order of the text. -/
def membersOf? (text : String) : Option (List (String × Json)) :=
  Shape.members.readText? text

theorem membersOf?_eq_some_iff {text : String} {ms : List (String × Json)} :
    membersOf? text = some ms ↔
      ∃ ws, Written.ofText? text = some (.obj ws) ∧ ofWrittenMembers? (maxDepth - 1) ws = some ms := by
  unfold membersOf? Shape.readText?
  constructor
  · intro h
    obtain ⟨w, hw, h⟩ := Option.bind_eq_some_iff.mp h
    cases w with
    | obj ws => exact ⟨ws, hw, h⟩
    | _ => simp [Shape.members] at h
  · rintro ⟨ws, hw, hms⟩
    exact Option.bind_eq_some_iff.mpr ⟨.obj ws, hw, hms⟩

/-- A text has members exactly if it is read as an object. -/
theorem exists_membersOf?_iff {text : String} :
    (∃ ms, membersOf? text = some ms) ↔ ∃ ms, read? text = some (.obj ms) := by
  constructor
  · rintro ⟨ms, h⟩
    obtain ⟨ws, hw, hms⟩ := membersOf?_eq_some_iff.mp h
    refine ⟨sortMembers ms, ?_⟩
    apply Option.bind_eq_some_iff.mpr
    refine ⟨.obj ws, hw, ?_⟩
    rw [ofWritten?, if_neg (by decide), hms]
    rfl
  · rintro ⟨ms, h⟩
    obtain ⟨w, hw, h⟩ := Option.bind_eq_some_iff.mp h
    cases w with
    | obj ws =>
        rw [ofWritten?, if_neg (by decide)] at h
        obtain ⟨read, hread, -⟩ := Option.map_eq_some_iff.mp h
        exact ⟨read, membersOf?_eq_some_iff.mpr ⟨ws, hw, hread⟩⟩
    | arr ws =>
        rw [ofWritten?, if_neg (by decide)] at h
        obtain ⟨read, -, hread⟩ := Option.map_eq_some_iff.mp h
        cases hread
    | number n =>
        obtain ⟨x, hx⟩ | ⟨x, hx⟩ := Numeral.value?_cases h
        all_goals cases hx
    | _ => simp [ofWritten?] at h

theorem depthOfMembers_le {ms : List (String × Json)} {n : Nat} (h : ∀ m ∈ ms, m.2.depth ≤ n) :
    depthOfMembers ms ≤ n := by
  induction ms with
  | nil => exact Nat.zero_le n
  | cons first rest ih =>
      obtain ⟨k, v⟩ := first
      rw [depthOfMembers]
      apply max_le
      · exact h (k, v) List.mem_cons_self
      · exact ih fun m hm => h m (List.mem_cons_of_mem _ hm)

mutual
/-- A value that has been read nests no more containers than there was room for. -/
theorem depth_le_of_ofWritten? : ∀ {w : Written} {room : Nat} {v : Json},
    ofWritten? room w = some v → v.depth ≤ room
  | .null, room, _, h => by
      obtain rfl := Option.some.inj h
      exact Nat.zero_le room
  | .bool b, room, _, h => by
      obtain rfl := Option.some.inj h
      exact Nat.zero_le room
  | .number n, room, _, h => by
      obtain ⟨x, rfl⟩ | ⟨x, rfl⟩ := Numeral.value?_cases h
      all_goals exact Nat.zero_le room
  | .str pieces, room, _, h => by
      obtain ⟨s, -, rfl⟩ := Option.map_eq_some_iff.mp h
      exact Nat.zero_le room
  | .arr items, room, _, h => by
      rw [ofWritten?] at h
      split at h
      · cases h
      · obtain ⟨vs, hvs, rfl⟩ := Option.map_eq_some_iff.mp h
        have hitems := depthOfItems_le (depth_le_of_ofWrittenItems? hvs)
        rw [depth]
        omega
  | .obj members, room, _, h => by
      rw [ofWritten?] at h
      split at h
      · cases h
      · obtain ⟨ms, hms, rfl⟩ := Option.map_eq_some_iff.mp h
        have hmembers : depthOfMembers (sortMembers ms) ≤ room - 1 := by
          apply depthOfMembers_le
          intro m hm
          exact depth_le_of_ofWrittenMembers? hms m (mem_of_mem_sortMembers hm)
        rw [ofMembers, depth]
        omega

theorem depth_le_of_ofWrittenItems? : ∀ {ws : List Written} {room : Nat} {vs : List Json},
    ofWrittenItems? room ws = some vs → ∀ v ∈ vs, v.depth ≤ room
  | [], _, _, h => by
      obtain rfl := Option.some.inj h
      intro v hv
      cases hv
  | w :: ws, _, _, h => by
      rw [ofWrittenItems?] at h
      obtain ⟨first, hfirst, h⟩ := Option.bind_eq_some_iff.mp h
      obtain ⟨rest, hrest, h⟩ := Option.bind_eq_some_iff.mp h
      obtain rfl := Option.some.inj h
      intro v hv
      rcases List.mem_cons.mp hv with rfl | hv
      · exact depth_le_of_ofWritten? hfirst
      · exact depth_le_of_ofWrittenItems? hrest v hv

theorem depth_le_of_ofWrittenMembers? : ∀ {ws : List (List Piece × Written)} {room : Nat}
    {ms : List (String × Json)}, ofWrittenMembers? room ws = some ms → ∀ m ∈ ms, m.2.depth ≤ room
  | [], _, _, h => by
      obtain rfl := Option.some.inj h
      intro m hm
      cases hm
  | (key, w) :: ws, _, _, h => by
      rw [ofWrittenMembers?] at h
      obtain ⟨k, hk, h⟩ := Option.bind_eq_some_iff.mp h
      obtain ⟨first, hfirst, h⟩ := Option.bind_eq_some_iff.mp h
      obtain ⟨rest, hrest, h⟩ := Option.bind_eq_some_iff.mp h
      obtain rfl := Option.some.inj h
      intro m hm
      rcases List.mem_cons.mp hm with rfl | hm
      · exact depth_le_of_ofWritten? hfirst
      · exact depth_le_of_ofWrittenMembers? hrest m hm
end

/-- A value that may stand as a member of a whole object. -/
def FitsMember (v : Json) : Prop := v.Exact ∧ v.depth ≤ maxDepth - 1

theorem fitsMember_of_membersOf? {text : String} {ms : List (String × Json)}
    (h : membersOf? text = some ms) {m : String × Json} (hm : m ∈ ms)
    (hfree : m.2.isFloatFree = true) : FitsMember m.2 := by
  obtain ⟨ws, -, hms⟩ := membersOf?_eq_some_iff.mp h
  exact ⟨exact_of_ofWrittenMembers? hms m hm hfree, depth_le_of_ofWrittenMembers? hms m hm⟩

/-! ## 2. What has been written -/

theorem membersOf?_of_readsAs {cs : List Char} {ws : List (List Piece × Written)}
    {ms : List (String × Json)} (hhead : StartsValue cs) (h : ReadsAs cs (.obj ws))
    (hms : ofWrittenMembers? (maxDepth - 1) ws = some ms) :
    membersOf? (String.ofList cs) = some ms :=
  membersOf?_eq_some_iff.mpr ⟨ws, ofText?_of_startsValue hhead h, hms⟩

theorem membersOf?_of_spelling {gap cs : List Char} {ms : List (String × Json)}
    (hgap : Blank gap) (h : MemberSpelling (maxDepth - 1) ms cs) :
    membersOf? (String.ofList ('{' :: (gap ++ cs))) = some ms := by
  obtain ⟨ws, hreads, hms⟩ := h.reads
  have hhead : StartsValue ('{' :: (gap ++ cs)) := ⟨_, _, rfl, by decide, by decide⟩
  exact membersOf?_of_readsAs hhead (readsAs_members hgap h.head hreads) hms

theorem membersOf?_braces : membersOf? (String.ofList ['{', '}']) = some [] :=
  membersOf?_of_readsAs ⟨_, _, rfl, by decide, by decide⟩ (readsAs_noMembers blank_nil) rfl

/-- **An object is read member by member as it has been written**, in either layout, also where
its keys are not sorted. -/
theorem membersOf?_render {ms : List (String × Json)} (h : ∀ m ∈ ms, FitsMember m.2)
    (indented : Bool) : membersOf? ((Json.obj ms).render indented) = some ms := by
  have hspelling : ∀ m ∈ ms, Spelling (maxDepth - 1) m.2 m.2.compactChars ∧
      ∀ level, Spelling (maxDepth - 1) m.2 (m.2.prettyChars level) := by
    intro m hm
    exact (h m hm).1.spelling (h m hm).2
  cases ms with
  | nil =>
      cases indented with
      | false => exact membersOf?_braces
      | true => exact membersOf?_braces
  | cons m ms =>
      cases indented with
      | false =>
          have hmembers := memberSpelling_compact m ms fun n hn => (hspelling n hn).1
          have htext := membersOf?_of_spelling blank_nil hmembers
          exact htext
      | true =>
          have hmembers := memberSpelling_pretty m ms fun n hn => (hspelling n hn).2 1
          have htext := membersOf?_of_spelling (blank_newline 1) hmembers
          simpa only [render, pretty, prettyChars, if_true, List.append_assoc] using htext

end IncidentDigest.Json
