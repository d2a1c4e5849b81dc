import IncidentDigest.Proofs.Json.Decimals
import IncidentDigest.Proofs.Json.RoundTrip

/-!
# The written form of a value

Reading takes two steps, from a text to its written form and from there to a value, and only the
second one rounds and sorts.  The first step undoes both layouts of the writer for every value,
floating-point numbers, unsorted and repeated members included (`ofText?_render`).  So whatever
can be read off the written form of a value stands in the text.
-/

namespace IncidentDigest.Json

open IncidentDigest.Numeral (digits)

/-! ## 1. Written forms -/

mutual
/-- What stands in the text of a value. -/
def written : Json → Written
  | .null => .null
  | .bool b => .bool b
  | .int n => .number ⟨decide (n < 0), digits n.natAbs, [], none⟩
  | .float x => .number (floatNumeral numberStyle x)
  | .str s => .str (s.toList.map pieceOf)
  | .arr items => .arr (writtenItems items)
  | .obj members => .obj (writtenMembers members)

def writtenItems : List Json → List Written
  | [] => []
  | v :: rest => v.written :: writtenItems rest

def writtenMembers : List (String × Json) → List (List Piece × Written)
  | [] => []
  | (k, v) :: rest => (k.toList.map pieceOf, v.written) :: writtenMembers rest
end

/-- The first member of a written object under a key. -/
def Written.member? (key : String) : Written → Option Written
  | .obj members => (members.find? fun m => pieceText? m.1 == some key).map (·.2)
  | _ => none

def Written.items? : Written → Option (List Written)
  | .arr items => some items
  | _ => none

/-- The number that is written, without any rounding. -/
def Written.decimal? : Written → Option ℚ
  | .number n => some n.toRat
  | _ => none

theorem items?_written (items : List Json) :
    (Json.arr items).written.items? = some (items.map written) := by
  rw [written, Written.items?]
  congr 1
  induction items with
  | nil => rfl
  | cons v rest ih => rw [writtenItems, ih, List.map_cons]

theorem member?_written (key : String) (ms : List (String × Json)) :
    (Json.obj ms).written.member? key = (member? key ms).map written := by
  rw [written, Written.member?, member?]
  induction ms with
  | nil => rfl
  | cons m rest ih =>
      obtain ⟨k, v⟩ := m
      rw [writtenMembers, List.find?_cons, List.find?_cons, pieceText?_map]
      dsimp only
      by_cases hkey : k = key
      · subst hkey
        simp
      · have hbeq : (k == key) = false := beq_eq_false_iff_ne.mpr hkey
        have hsome : (some k == some key) = false := hbeq
        rw [hbeq, hsome]
        exact ih

/-- A text shows a value: it is read as the written form of the value, up to its end. -/
structure Shows (cs : List Char) (v : Json) : Prop where
  head : StartsValue cs
  reads : ReadsAs cs v.written

theorem shows_word {c : Char} {cs : List Char} {v : Json}
    (hhead : isBlank c = false ∧ c ≠ ']')
    (h : ∀ fuel rest, readValue (fuel + 1) (c :: cs ++ rest) = some (v.written, rest)) :
    Shows (c :: cs) v :=
  ⟨⟨c, cs, rfl, hhead⟩, readsAs_word h⟩

theorem shows_int (n : Int) : Shows (Numeral.signed n) (.int n) :=
  ⟨chars_int n ▸ (grammatical_digits _ n.natAbs).startsValue, readsAs_int n⟩

theorem shows_float (x : Binary64) : Shows (x.format numberStyle) (.float x) := by
  have hgrammatical := (floatNumeral_shows numberStyle x).grammatical
  rw [← chars_floatNumeral]
  exact ⟨hgrammatical.startsValue, readsAs_number hgrammatical⟩

theorem Shows.ofText? {cs : List Char} {v : Json} (h : Shows cs v) :
    Written.ofText? (String.ofList cs) = some v.written :=
  ofText?_of_startsValue h.head h.reads

/-- A number is read as its numeral in every style, those of running text included. -/
theorem ofText?_format (style : NumberStyle) (x : Binary64) :
    Written.ofText? (String.ofList (x.format style)) = some (.number (floatNumeral style x)) := by
  have hgrammatical := (floatNumeral_shows style x).grammatical
  rw [← chars_floatNumeral]
  exact ofText?_of_startsValue hgrammatical.startsValue (readsAs_number hgrammatical)

theorem shows_str (s : String) : Shows (quoted s) (.str s) :=
  ⟨⟨_, _, rfl, by decide, by decide⟩, readsAs_str s⟩

/-! ## 2. Lists and objects -/

section Writers

variable {text : Json → List Char} {gap last : List Char}

theorem shows_items (write : List Json → List Char) (hone : ∀ v, write [v] = text v)
    (hmore : ∀ v w vs, write (v :: w :: vs) = text v ++ ',' :: (gap ++ write (w :: vs)))
    (hgap : Blank gap) (hlast : Blank last) {first : List Char} (hfirst : Blank first)
    (v : Json) (vs : List Json) (h : ∀ u ∈ v :: vs, Shows (text u) u) :
    Shows ('[' :: (first ++ (write (v :: vs) ++ (last ++ [']'])))) (.arr (v :: vs)) := by
  have hitems := items_of_writer (Q := fun u => Shows (text u) u)
    (P := fun vs cs => StartsValue cs ∧ ReadsItemsAs cs (writtenItems vs)) hone hmore
    (fun v hv => ⟨hv.head.append _, readsItemsAs_last hv.reads hlast⟩)
    (fun v vs cs hv hrest =>
      ⟨hv.head.append _, readsItemsAs_cons hv.reads blank_nil hgap hrest.1 hrest.2⟩) v vs h
  exact ⟨⟨_, _, rfl, by decide, by decide⟩, readsAs_items hfirst hitems.1 hitems.2⟩

theorem shows_members (write : List (String × Json) → List Char) {after : List Char}
    (hone : ∀ k v, write [(k, v)] = quoted k ++ ':' :: (after ++ text v))
    (hmore : ∀ k v m ms, write ((k, v) :: m :: ms) =
      quoted k ++ ':' :: (after ++ (text v ++ ',' :: (gap ++ write (m :: ms)))))
    (hafter : Blank after) (hgap : Blank gap) (hlast : Blank last) {first : List Char}
    (hfirst : Blank first) (m : String × Json) (ms : List (String × Json))
    (h : ∀ n ∈ m :: ms, Shows (text n.2) n.2) :
    Shows ('{' :: (first ++ (write (m :: ms) ++ (last ++ ['}'])))) (.obj (m :: ms)) := by
  have hmembers := members_of_writer (Q := fun u => Shows (text u) u)
    (P := fun ms cs => (∃ ds, cs = '"' :: ds) ∧ ReadsMembersAs cs (writtenMembers ms)) hone hmore
    (fun k v hv => ⟨⟨_, rfl⟩, readsMembersAs_last k blank_nil hafter hv.reads hv.head hlast⟩)
    (fun k v ms cs hv hrest => ⟨⟨_, rfl⟩,
      readsMembersAs_cons k blank_nil hafter hv.reads hv.head blank_nil hgap hrest.1 hrest.2⟩)
    m ms h
  exact ⟨⟨_, _, rfl, by decide, by decide⟩, readsAs_members hfirst hmembers.1 hmembers.2⟩

end Writers

/-! ## 3. Both layouts -/

/-- Both layouts of a value show it. -/
def ShownByLayouts (v : Json) : Prop :=
  Shows v.compactChars v ∧ ∀ level, Shows (v.prettyChars level) v

theorem shownByLayouts_arr {items : List Json} (h : ∀ v ∈ items, ShownByLayouts v) :
    ShownByLayouts (.arr items) := by
  have hhead : ∀ cs, StartsValue ('[' :: cs) := fun cs => ⟨_, _, rfl, by decide, by decide⟩
  cases items with
  | nil =>
      have hempty : Shows ['[', ']'] (.arr []) := ⟨hhead _, readsAs_noItems blank_nil⟩
      exact ⟨hempty, fun _ => hempty⟩
  | cons v vs =>
      constructor
      · have htext := @shows_items compactChars [] [] compactItems (fun _ => rfl)
          (fun _ _ _ => rfl) blank_nil blank_nil [] blank_nil v vs fun u hu => (h u hu).1
        exact htext
      · intro level
        have htext := shows_items (prettyItems (level + 1)) (fun _ => rfl)
          (fun _ _ _ => rfl) (blank_newline (level + 1)) (blank_newline level)
          (blank_newline (level + 1)) v vs fun u hu => (h u hu).2 (level + 1)
        simpa only [prettyChars, List.append_assoc] using htext

theorem shownByLayouts_obj {ms : List (String × Json)} (h : ∀ m ∈ ms, ShownByLayouts m.2) :
    ShownByLayouts (.obj ms) := by
  have hhead : ∀ cs, StartsValue ('{' :: cs) := fun cs => ⟨_, _, rfl, by decide, by decide⟩
  cases ms with
  | nil =>
      have hempty : Shows ['{', '}'] (.obj []) := ⟨hhead _, readsAs_noMembers blank_nil⟩
      exact ⟨hempty, fun _ => hempty⟩
  | cons m ms =>
      constructor
      · have htext := @shows_members compactChars [] [] compactMembers [] (fun _ _ => rfl)
          (fun _ _ _ _ => rfl) blank_nil blank_nil blank_nil [] blank_nil m ms
          fun n hn => (h n hn).1
        exact htext
      · intro level
        have htext := shows_members (prettyMembers (level + 1)) (fun _ _ => rfl)
          (fun _ _ _ _ => rfl) blank_space (blank_newline (level + 1)) (blank_newline level)
          (blank_newline (level + 1)) m ms fun n hn => (h n hn).2 (level + 1)
        simpa only [prettyChars, List.append_assoc] using htext

mutual
/-- **Both layouts show every value.** -/
theorem shownByLayouts : ∀ v : Json, ShownByLayouts v
  | .null =>
      have h : Shows ['n', 'u', 'l', 'l'] .null := shows_word (by decide) fun _ _ => rfl
      ⟨h, fun _ => h⟩
  | .bool true =>
      have h : Shows ['t', 'r', 'u', 'e'] (.bool true) := shows_word (by decide) fun _ _ => rfl
      ⟨h, fun _ => h⟩
  | .bool false =>
      have h : Shows ['f', 'a', 'l', 's', 'e'] (.bool false) :=
        shows_word (by decide) fun _ _ => rfl
      ⟨h, fun _ => h⟩
  | .int n => ⟨shows_int n, fun _ => shows_int n⟩
  | .float x => ⟨shows_float x, fun _ => shows_float x⟩
  | .str s => ⟨shows_str s, fun _ => shows_str s⟩
  | .arr items => shownByLayouts_arr (shownByLayouts_items items)
  | .obj ms => shownByLayouts_obj (shownByLayouts_members ms)

theorem shownByLayouts_items : ∀ items : List Json, ∀ v ∈ items, ShownByLayouts v
  | [] => by
      intro v hv
      cases hv
  | first :: rest => by
      intro v hv
      rcases List.mem_cons.mp hv with hfirst | hv
      · exact hfirst ▸ shownByLayouts first
      · exact shownByLayouts_items rest v hv

theorem shownByLayouts_members : ∀ ms : List (String × Json), ∀ m ∈ ms, ShownByLayouts m.2
  | [] => by
      intro m hm
      cases hm
  | (k, v) :: rest => by
      intro m hm
      rcases List.mem_cons.mp hm with hfirst | hm
      · exact hfirst ▸ shownByLayouts v
      · exact shownByLayouts_members rest m hm
end

/-- **The text of a value has the written form of the value**, in either layout. -/
theorem ofText?_render (v : Json) (indented : Bool) :
    Written.ofText? (v.render indented) = some v.written := by
  obtain ⟨hcompact, hpretty⟩ := shownByLayouts v
  cases indented with
  | false => exact hcompact.ofText?
  | true => exact (hpretty 0).ofText?

end IncidentDigest.Json
