import IncidentDigest.Json.Shape
import IncidentDigest.Proofs.Json.Spelling

/-!
# What is written is read back

Values with integers of 64 bits, without floating-point numbers and with sorted members are
*exact*.  Both layouts write a spelling of an exact value, so it is read back from either of
them (`read?_render`).  And whatever is read without floating-point numbers is exact, so that
a value that came from a text once survives any number of rounds.
-/

namespace IncidentDigest.Json

open IncidentDigest.Numeral (signedBound unsignedBound)

/-! ## 1. Exact values -/

/-- A value that text can hold without loss. -/
inductive Exact : Json → Prop where
  | null : Exact .null
  | bool (b : Bool) : Exact (.bool b)
  | int {n : Int} (h : Numeral.Integral n) : Exact (.int n)
  | str (s : String) : Exact (.str s)
  | arr {items : List Json} (h : ∀ v ∈ items, Exact v) : Exact (.arr items)
  | obj {ms : List (String × Json)} (hsorted : SortedKeys ms) (h : ∀ m ∈ ms, Exact m.2) :
      Exact (.obj ms)

theorem depth_le_depthOfItems {items : List Json} {v : Json} (h : v ∈ items) :
    v.depth ≤ depthOfItems items := by
  induction items with
  | nil => cases h
  | cons first rest ih =>
      rw [depthOfItems]
      rcases List.mem_cons.mp h with rfl | h
      · exact le_max_left _ _
      · exact le_max_of_le_right (ih h)

theorem depthOfItems_le {items : List Json} {n : Nat} (h : ∀ v ∈ items, v.depth ≤ n) :
    depthOfItems items ≤ n := by
  induction items with
  | nil => exact Nat.zero_le n
  | cons first rest ih =>
      rw [depthOfItems]
      apply max_le
      · exact h first List.mem_cons_self
      · exact ih fun v hv => h v (List.mem_cons_of_mem first hv)

theorem depth_le_depthOfMembers {ms : List (String × Json)} {m : String × Json} (h : m ∈ ms) :
    m.2.depth ≤ depthOfMembers ms := by
  induction ms with
  | nil => cases h
  | cons first rest ih =>
      obtain ⟨k, v⟩ := first
      rw [depthOfMembers]
      rcases List.mem_cons.mp h with rfl | h
      · exact le_max_left _ _
      · exact le_max_of_le_right (ih h)

/-! ## 2. Writing -/

theorem blank_space : Blank [' '] := by
  intro c hc
  rw [List.mem_singleton.mp hc]
  rfl

theorem blank_newline (level : Nat) : Blank (newline level) := by
  intro c hc
  rcases List.mem_cons.mp hc with rfl | hc
  · rfl
  · rw [List.eq_of_mem_replicate hc]
    rfl

/-- A writer that puts a comma between two items builds a list in the two steps of the grammar,
so that whatever these steps preserve holds of the text. -/
theorem items_of_writer {write : List Json → List Char} {text : Json → List Char}
    {gap last : List Char} {P : List Json → List Char → Prop} {Q : Json → Prop}
    (hone : ∀ v, write [v] = text v)
    (hmore : ∀ v w vs, write (v :: w :: vs) = text v ++ ',' :: (gap ++ write (w :: vs)))
    (hlast : ∀ v, Q v → P [v] (text v ++ (last ++ [']'])))
    (hcons : ∀ v vs cs, Q v → P vs cs → P (v :: vs) (text v ++ ',' :: (gap ++ cs)))
    (v : Json) (vs : List Json) (h : ∀ u ∈ v :: vs, Q u) :
    P (v :: vs) (write (v :: vs) ++ (last ++ [']'])) := by
  induction vs generalizing v with
  | nil =>
      rw [hone]
      exact hlast v (h v List.mem_cons_self)
  | cons w vs ih =>
      have hrest := ih w fun u hu => h u (List.mem_cons_of_mem v hu)
      rw [hmore]
      simp only [List.append_assoc, List.cons_append]
      exact hcons v _ _ (h v List.mem_cons_self) hrest

theorem members_of_writer {write : List (String × Json) → List Char} {text : Json → List Char}
    {after gap last : List Char} {P : List (String × Json) → List Char → Prop} {Q : Json → Prop}
    (hone : ∀ k v, write [(k, v)] = quoted k ++ ':' :: (after ++ text v))
    (hmore : ∀ k v m ms, write ((k, v) :: m :: ms) =
      quoted k ++ ':' :: (after ++ (text v ++ ',' :: (gap ++ write (m :: ms)))))
    (hlast : ∀ k v, Q v → P [(k, v)] (quoted k ++ ':' :: (after ++ (text v ++ (last ++ ['}'])))))
    (hcons : ∀ k v ms cs, Q v → P ms cs →
      P ((k, v) :: ms) (quoted k ++ ':' :: (after ++ (text v ++ ',' :: (gap ++ cs)))))
    (m : String × Json) (ms : List (String × Json)) (h : ∀ n ∈ m :: ms, Q n.2) :
    P (m :: ms) (write (m :: ms) ++ (last ++ ['}'])) := by
  induction ms generalizing m with
  | nil =>
      obtain ⟨k, v⟩ := m
      rw [hone]
      simp only [List.append_assoc, List.cons_append]
      exact hlast k v (h (k, v) List.mem_cons_self)
  | cons n ms ih =>
      obtain ⟨k, v⟩ := m
      have hrest := ih n fun u hu => h u (List.mem_cons_of_mem _ hu)
      rw [hmore]
      simp only [List.append_assoc, List.cons_append]
      exact hcons k v _ _ (h (k, v) List.mem_cons_self) hrest

theorem itemSpelling_of_writer {write : List Json → List Char} {text : Json → List Char}
    {gap last : List Char} (hone : ∀ v, write [v] = text v)
    (hmore : ∀ v w vs, write (v :: w :: vs) = text v ++ ',' :: (gap ++ write (w :: vs)))
    (hgap : Blank gap) (hlast : Blank last) {room : Nat} (v : Json) (vs : List Json)
    (h : ∀ u ∈ v :: vs, Spelling room u (text u)) :
    ItemSpelling room (v :: vs) (write (v :: vs) ++ (last ++ [']'])) := by
  apply items_of_writer (Q := fun u => Spelling room u (text u)) hone hmore ?_ ?_ v vs h
  · intro v hv
    exact .last hv hlast
  · intro v vs cs hv hrest
    exact .cons hv blank_nil hgap hrest

theorem memberSpelling_of_writer {write : List (String × Json) → List Char}
    {text : Json → List Char} {after gap last : List Char}
    (hone : ∀ k v, write [(k, v)] = quoted k ++ ':' :: (after ++ text v))
    (hmore : ∀ k v m ms, write ((k, v) :: m :: ms) =
      quoted k ++ ':' :: (after ++ (text v ++ ',' :: (gap ++ write (m :: ms)))))
    (hafter : Blank after) (hgap : Blank gap) (hlast : Blank last) {room : Nat}
    (m : String × Json) (ms : List (String × Json))
    (h : ∀ n ∈ m :: ms, Spelling room n.2 (text n.2)) :
    MemberSpelling room (m :: ms) (write (m :: ms) ++ (last ++ ['}'])) := by
  apply members_of_writer (Q := fun u => Spelling room u (text u)) hone hmore ?_ ?_ m ms h
  · intro k v hv
    exact .last blank_nil hafter hv hlast
  · intro k v ms cs hv hrest
    exact .cons blank_nil hafter hv blank_nil hgap hrest

theorem itemSpelling_compact {room : Nat} (v : Json) (vs : List Json)
    (h : ∀ u ∈ v :: vs, Spelling room u u.compactChars) :
    ItemSpelling room (v :: vs) (compactItems (v :: vs) ++ [']']) :=
  @itemSpelling_of_writer compactItems compactChars [] [] (fun _ => rfl) (fun _ _ _ => rfl)
    blank_nil blank_nil room v vs h

theorem itemSpelling_pretty {room level : Nat} (v : Json) (vs : List Json)
    (h : ∀ u ∈ v :: vs, Spelling room u (u.prettyChars (level + 1))) :
    ItemSpelling room (v :: vs) (prettyItems (level + 1) (v :: vs) ++ (newline level ++ [']'])) :=
  itemSpelling_of_writer (fun _ => rfl) (fun _ _ _ => rfl) (blank_newline (level + 1))
    (blank_newline level) v vs h

theorem memberSpelling_compact {room : Nat} (m : String × Json) (ms : List (String × Json))
    (h : ∀ n ∈ m :: ms, Spelling room n.2 n.2.compactChars) :
    MemberSpelling room (m :: ms) (compactMembers (m :: ms) ++ ['}']) :=
  @memberSpelling_of_writer compactMembers compactChars [] [] [] (fun _ _ => rfl)
    (fun _ _ _ _ => rfl) blank_nil blank_nil blank_nil room m ms h

theorem memberSpelling_pretty {room level : Nat} (m : String × Json) (ms : List (String × Json))
    (h : ∀ n ∈ m :: ms, Spelling room n.2 (n.2.prettyChars (level + 1))) :
    MemberSpelling room (m :: ms)
      (prettyMembers (level + 1) (m :: ms) ++ (newline level ++ ['}'])) :=
  memberSpelling_of_writer (fun _ _ => rfl) (fun _ _ _ _ => rfl) blank_space
    (blank_newline (level + 1)) (blank_newline level) m ms h

/-- Both layouts write a spelling of an exact value. -/
theorem Exact.spelling {v : Json} (h : v.Exact) {room : Nat} (hroom : v.depth ≤ room) :
    Spelling room v v.compactChars ∧ ∀ level, Spelling room v (v.prettyChars level) := by
  induction h generalizing room with
  | null => exact ⟨.null, fun _ => .null⟩
  | bool b =>
      cases b with
      | true => exact ⟨.truth, fun _ => .truth⟩
      | false => exact ⟨.falsehood, fun _ => .falsehood⟩
  | int h => exact ⟨.int h, fun _ => .int h⟩
  | str s => exact ⟨.str s, fun _ => .str s⟩
  | @arr items h ih =>
      rw [depth] at hroom
      obtain ⟨room, rfl⟩ : ∃ r, room = r + 1 := ⟨room - 1, by omega⟩
      have hitems : ∀ v ∈ items, Spelling room v v.compactChars ∧
          ∀ level, Spelling room v (v.prettyChars level) := by
        intro v hv
        apply ih v hv
        have hdepth := depth_le_depthOfItems hv
        omega
      cases items with
      | nil => exact ⟨.noItems blank_nil, fun _ => .noItems blank_nil⟩
      | cons v vs =>
          constructor
          · have htext := Spelling.items blank_nil
              (itemSpelling_compact v vs fun u hu => (hitems u hu).1)
            exact htext
          · intro level
            have htext := Spelling.items (blank_newline (level + 1))
              (itemSpelling_pretty v vs fun u hu => (hitems u hu).2 (level + 1))
            simpa only [prettyChars, List.append_assoc] using htext
  | @obj ms hsorted h ih =>
      rw [depth] at hroom
      obtain ⟨room, rfl⟩ : ∃ r, room = r + 1 := ⟨room - 1, by omega⟩
      have hmembers : ∀ m ∈ ms, Spelling room m.2 m.2.compactChars ∧
          ∀ level, Spelling room m.2 (m.2.prettyChars level) := by
        intro m hm
        apply ih m hm
        have hdepth := depth_le_depthOfMembers hm
        omega
      have hsame : ofMembers ms = .obj ms := congrArg Json.obj (sortMembers_of_sortedKeys hsorted)
      cases ms with
      | nil => exact ⟨.noMembers blank_nil, fun _ => .noMembers blank_nil⟩
      | cons m ms =>
          rw [← hsame]
          constructor
          · have htext := Spelling.members blank_nil
              (memberSpelling_compact m ms fun n hn => (hmembers n hn).1)
            rwa [hsame] at htext ⊢
          · intro level
            have htext := Spelling.members (blank_newline (level + 1))
              (memberSpelling_pretty m ms fun n hn => (hmembers n hn).2 (level + 1))
            rw [hsame] at htext ⊢
            simpa only [prettyChars, List.append_assoc] using htext

/-- **What is written is read back**, in either layout, from a value with no more containers
in each other than the reader takes. -/
theorem read?_render {v : Json} (h : v.Exact) (hdepth : v.depth ≤ maxDepth) (indented : Bool) :
    read? (v.render indented) = some v := by
  obtain ⟨hcompact, hpretty⟩ := h.spelling hdepth
  have hread : ∀ {cs}, Spelling maxDepth v cs → read? (String.ofList cs) = some v := by
    intro cs hcs
    have hwhole := read?_of_spelling blank_nil hcs blank_nil
    rwa [List.nil_append, List.append_nil] at hwhole
  cases indented with
  | false => exact hread hcompact
  | true => exact hread (hpretty 0)

/-! ## 3. Reading -/

theorem allFloatFree_iff {items : List Json} :
    allFloatFree items = true ↔ ∀ v ∈ items, v.isFloatFree = true := by
  induction items with
  | nil => simp [allFloatFree]
  | cons v rest ih => simp [allFloatFree, ih]

theorem allMembersFloatFree_iff {ms : List (String × Json)} :
    allMembersFloatFree ms = true ↔ ∀ m ∈ ms, m.2.isFloatFree = true := by
  induction ms with
  | nil => simp [allMembersFloatFree]
  | cons m rest ih => simp [allMembersFloatFree, ih]

/-- A significand that is kept stays below `2 ^ 64`. -/
theorem Numeral.extendSignificand_lt {significand : Nat} (ds : List Char)
    (h : significand < unsignedBound) :
    (extendSignificand significand ds).1 < unsignedBound := by
  induction ds generalizing significand with
  | nil => exact h
  | cons c ds ih =>
      rw [extendSignificand]
      split
      · rename_i hnext
        exact ih hnext
      · exact h

/-- A numeral is read as an integer of 64 bits or as a floating-point number. -/
theorem Numeral.exact_of_value? {n : Numeral} {v : Json} (h : n.value? = some v)
    (hfree : v.isFloatFree = true) : v.Exact := by
  have hbound := extendSignificand_lt n.whole (by decide : 0 < unsignedBound)
  unfold value? at h
  dsimp only at h
  split at h
  · rename_i hwhole
    obtain rfl := Option.some.inj h
    apply Exact.int
    have hsigned : signedBound < unsignedBound := by decide
    unfold Integral
    cases hnegative : n.negative with
    | false =>
        rw [if_neg (by decide)]
        omega
    | true =>
        have hrange : ¬ signedBound < (extendSignificand 0 n.whole).1 := by
          intro hlarge
          simp [hnegative, hlarge] at hwhole
        rw [if_pos rfl]
        omega
  · obtain ⟨x, -, rfl⟩ := Option.map_eq_some_iff.mp h
    cases hfree

mutual
/-- What is read without floating-point numbers is exact. -/
theorem exact_of_ofWritten? : ∀ {w : Written} {room : Nat} {v : Json},
    ofWritten? room w = some v → v.isFloatFree = true → v.Exact
  | .null, _, _, h, _ => by
      obtain rfl := Option.some.inj h
      exact .null
  | .bool b, _, _, h, _ => by
      obtain rfl := Option.some.inj h
      exact .bool b
  | .number n, _, _, h, hfree => Numeral.exact_of_value? h hfree
  | .str pieces, _, _, h, _ => by
      obtain ⟨s, -, rfl⟩ := Option.map_eq_some_iff.mp h
      exact .str s
  | .arr items, room, _, h, hfree => by
      rw [ofWritten?] at h
      split at h
      · cases h
      · obtain ⟨vs, hvs, rfl⟩ := Option.map_eq_some_iff.mp h
        rw [isFloatFree, allFloatFree_iff] at hfree
        exact .arr fun v hv => exact_of_ofWrittenItems? hvs v hv (hfree v hv)
  | .obj members, room, _, h, hfree => by
      rw [ofWritten?] at h
      split at h
      · cases h
      · obtain ⟨ms, hms, rfl⟩ := Option.map_eq_some_iff.mp h
        rw [ofMembers, isFloatFree, allMembersFloatFree_iff] at hfree
        apply Exact.obj (sortedKeys_sortMembers ms)
        intro m hm
        exact exact_of_ofWrittenMembers? hms m (mem_of_mem_sortMembers hm) (hfree m hm)

theorem exact_of_ofWrittenItems? : ∀ {ws : List Written} {room : Nat} {vs : List Json},
    ofWrittenItems? room ws = some vs → ∀ v ∈ vs, v.isFloatFree = true → v.Exact
  | [], _, _, h => by
      obtain rfl := Option.some.inj h
      intro v hv
      cases hv
  | w :: ws, room, _, h => by
      rw [ofWrittenItems?] at h
      obtain ⟨first, hfirst, h⟩ := Option.bind_eq_some_iff.mp h
      obtain ⟨rest, hrest, h⟩ := Option.bind_eq_some_iff.mp h
      obtain rfl := Option.some.inj h
      intro v hv hfree
      rcases List.mem_cons.mp hv with rfl | hv
      · exact exact_of_ofWritten? hfirst hfree
      · exact exact_of_ofWrittenItems? hrest v hv hfree

theorem exact_of_ofWrittenMembers? : ∀ {ws : List (List Piece × Written)} {room : Nat}
    {ms : List (String × Json)}, ofWrittenMembers? room ws = some ms →
      ∀ m ∈ ms, m.2.isFloatFree = true → m.2.Exact
  | [], _, _, h => by
      obtain rfl := Option.some.inj h
      intro m hm
      cases hm
  | (key, w) :: ws, room, _, h => by
      rw [ofWrittenMembers?] at h
      obtain ⟨k, hk, h⟩ := Option.bind_eq_some_iff.mp h
      obtain ⟨first, hfirst, h⟩ := Option.bind_eq_some_iff.mp h
      obtain ⟨rest, hrest, h⟩ := Option.bind_eq_some_iff.mp h
      obtain rfl := Option.some.inj h
      intro m hm hfree
      rcases List.mem_cons.mp hm with rfl | hm
      · exact exact_of_ofWritten? hfirst hfree
      · exact exact_of_ofWrittenMembers? hrest m hm hfree
end

/-- Whatever bytes a value has been read from, it is exact if it holds no floating-point
number. -/
theorem exact_of_readBytes? {bytes : List UInt8} {v : Json}
    (h : Shape.readBytes? Shape.value bytes = some v) (hfree : v.isFloatFree = true) :
    v.Exact := by
  unfold Shape.readBytes? Shape.readText? at h
  obtain ⟨w, -, hw⟩ := Option.bind_eq_some_iff.mp h
  exact exact_of_ofWritten? hw hfree

end IncidentDigest.Json
