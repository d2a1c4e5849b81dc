import IncidentDigest.Proofs.Json.Members
import IncidentDigest.Proofs.Json.Scalar

/-!
# Spellings of a value

A *spelling* of a value is a text that may be written for it: its parts in order, with any
blanks between them.  The relation has nothing to do with the reader, and it says how much
room for containers the text needs.  The reader reads every spelling to the value
(`read?_of_spelling`), whatever the layout.
-/

namespace IncidentDigest.Json

open IncidentDigest.Numeral (digits digits_isDigit digits_ne_nil signed)

/-! ## 1. Spellings -/

def Blank (gap : List Char) : Prop := ∀ c ∈ gap, isBlank c = true

mutual
/-- A text spells a value that opens at most `room` containers. -/
inductive Spelling : (room : Nat) → Json → List Char → Prop where
  | null {room : Nat} : Spelling room .null ['n', 'u', 'l', 'l']
  | truth {room : Nat} : Spelling room (.bool true) ['t', 'r', 'u', 'e']
  | falsehood {room : Nat} : Spelling room (.bool false) ['f', 'a', 'l', 's', 'e']
  | int {room : Nat} {n : Int} (h : Numeral.Integral n) :
      Spelling room (.int n) (signed n)
  | str {room : Nat} (s : String) : Spelling room (.str s) (quoted s)
  | noItems {room : Nat} {gap : List Char} (hgap : Blank gap) :
      Spelling (room + 1) (.arr []) ('[' :: (gap ++ [']']))
  | items {room : Nat} {items : List Json} {gap cs : List Char} (hgap : Blank gap)
      (h : ItemSpelling room items cs) : Spelling (room + 1) (.arr items) ('[' :: (gap ++ cs))
  | noMembers {room : Nat} {gap : List Char} (hgap : Blank gap) :
      Spelling (room + 1) (.obj []) ('{' :: (gap ++ ['}']))
  | members {room : Nat} {ms : List (String × Json)} {gap cs : List Char} (hgap : Blank gap)
      (h : MemberSpelling room ms cs) : Spelling (room + 1) (ofMembers ms) ('{' :: (gap ++ cs))

/-- A text spells the items of a list up to the closing bracket. -/
inductive ItemSpelling : (room : Nat) → List Json → List Char → Prop where
  | last {room : Nat} {v : Json} {cs gap : List Char} (h : Spelling room v cs)
      (hgap : Blank gap) : ItemSpelling room [v] (cs ++ (gap ++ [']']))
  | cons {room : Nat} {v : Json} {vs : List Json} {cs gap gap' ds : List Char}
      (h : Spelling room v cs) (hgap : Blank gap) (hgap' : Blank gap')
      (hrest : ItemSpelling room vs ds) :
      ItemSpelling room (v :: vs) (cs ++ (gap ++ ',' :: (gap' ++ ds)))

/-- A text spells the members of an object, in this order, up to the closing brace. -/
inductive MemberSpelling : (room : Nat) → List (String × Json) → List Char → Prop where
  | last {room : Nat} {key : String} {v : Json} {before after cs gap : List Char}
      (hbefore : Blank before) (hafter : Blank after) (h : Spelling room v cs)
      (hgap : Blank gap) :
      MemberSpelling room [(key, v)]
        (quoted key ++ (before ++ ':' :: (after ++ (cs ++ (gap ++ ['}'])))))
  | cons {room : Nat} {key : String} {v : Json} {ms : List (String × Json)}
      {before after cs gap gap' ds : List Char} (hbefore : Blank before) (hafter : Blank after)
      (h : Spelling room v cs) (hgap : Blank gap) (hgap' : Blank gap')
      (hrest : MemberSpelling room ms ds) :
      MemberSpelling room ((key, v) :: ms)
        (quoted key ++ (before ++ ':' :: (after ++ (cs ++ (gap ++ ',' :: (gap' ++ ds))))))
end

/-! ## 2. Gaps -/

theorem blank_nil : Blank [] := by
  intro c hc
  cases hc

theorem skipBlanks_append {gap : List Char} (h : Blank gap) (cs : List Char) :
    skipBlanks (gap ++ cs) = skipBlanks cs := List.dropWhile_append_of_pos h

theorem skipBlanks_cons {c : Char} (h : isBlank c = false) (cs : List Char) :
    skipBlanks (c :: cs) = c :: cs := List.dropWhile_cons_of_neg (by simp [h])

theorem skipBlanks_gap {gap : List Char} (h : Blank gap) {c : Char} (hc : isBlank c = false)
    (cs : List Char) : skipBlanks (gap ++ c :: cs) = c :: cs := by
  rw [skipBlanks_append h, skipBlanks_cons hc]

theorem endsNumeral_blank {c : Char} (h : isBlank c = true) (cs : List Char) :
    EndsNumeral (c :: cs) := by
  intro d hd
  obtain rfl : c = d := Option.some.inj hd
  simp only [isBlank, Bool.or_eq_true, beq_iff_eq] at h
  rcases h with ((rfl | rfl) | rfl) | rfl
  all_goals decide

theorem endsNumeral_gap {gap : List Char} (h : Blank gap) {c : Char} {cs : List Char}
    (hc : EndsNumeral (c :: cs)) : EndsNumeral (gap ++ c :: cs) := by
  cases gap with
  | nil => exact hc
  | cons b gap => exact endsNumeral_blank (h b List.mem_cons_self) _

theorem ne_of_isDigit {c d : Char} (hc : c.isDigit = true) (hd : d.isDigit = false) :
    c ≠ d := by
  rintro rfl
  rw [hc] at hd
  cases hd

theorem isBlank_of_isDigit {c : Char} (h : c.isDigit = true) : isBlank c = false := by
  have hne : ∀ d ∈ [' ', '\n', '\t', '\r'], c ≠ d := by
    intro d hd
    simp only [List.mem_cons, List.not_mem_nil, or_false] at hd
    rcases hd with rfl | rfl | rfl | rfl
    all_goals exact ne_of_isDigit h (by decide)
  simp only [List.mem_cons, List.not_mem_nil, or_false, forall_eq_or_imp, forall_eq] at hne
  simp [isBlank, hne]

/-- A text starts neither with a blank nor with a closing bracket. -/
def StartsValue (cs : List Char) : Prop :=
  ∃ c ds, cs = c :: ds ∧ isBlank c = false ∧ c ≠ ']'

theorem StartsValue.skipBlanks_eq {cs gap : List Char} (h : StartsValue cs) (hgap : Blank gap)
    (rest : List Char) : skipBlanks (gap ++ (cs ++ rest)) = cs ++ rest := by
  obtain ⟨c, ds, rfl, hblank, -⟩ := h
  exact skipBlanks_gap hgap hblank (ds ++ rest)

theorem StartsValue.append {cs : List Char} (h : StartsValue cs) (rest : List Char) :
    StartsValue (cs ++ rest) := by
  obtain ⟨c, ds, rfl, hc⟩ := h
  exact ⟨c, _, rfl, hc⟩

/-- A numeral starts with a minus sign or with a digit. -/
theorem Numeral.Grammatical.startsValue {n : Numeral} (h : n.Grammatical) :
    StartsValue n.chars := by
  unfold chars
  cases n.negative with
  | true => exact ⟨'-', _, rfl, by decide, by decide⟩
  | false =>
      obtain ⟨c, ds, hds⟩ := List.exists_cons_of_ne_nil h.whole.1
      have hc : c.isDigit = true := h.whole.2 c (hds ▸ List.mem_cons_self)
      rw [if_neg (by decide), List.nil_append, unsignedChars, hds, List.cons_append]
      exact ⟨c, _, rfl, isBlank_of_isDigit hc, ne_of_isDigit hc (by decide)⟩

theorem chars_int (n : Int) :
    Numeral.chars ⟨decide (n < 0), digits n.natAbs, [], none⟩ = signed n := by
  unfold Numeral.chars Numeral.unsignedChars signed
  simp only [fractionChars, scaleChars, List.append_nil, decide_eq_true_eq]
  split
  · rfl
  · rfl

theorem Spelling.head {room : Nat} {v : Json} {cs : List Char} (h : Spelling room v cs) :
    StartsValue cs := by
  cases h with
  | null => exact ⟨_, _, rfl, by decide, by decide⟩
  | truth => exact ⟨_, _, rfl, by decide, by decide⟩
  | falsehood => exact ⟨_, _, rfl, by decide, by decide⟩
  | @int _ n _ => exact chars_int n ▸ (grammatical_digits _ n.natAbs).startsValue
  | str s => exact ⟨_, _, rfl, by decide, by decide⟩
  | noItems hgap => exact ⟨_, _, rfl, by decide, by decide⟩
  | items hgap h => exact ⟨_, _, rfl, by decide, by decide⟩
  | noMembers hgap => exact ⟨_, _, rfl, by decide, by decide⟩
  | members hgap h => exact ⟨_, _, rfl, by decide, by decide⟩

theorem ItemSpelling.head {room : Nat} {vs : List Json} {cs : List Char}
    (h : ItemSpelling room vs cs) : StartsValue cs := by
  cases h with
  | last h hgap => exact h.head.append _
  | cons h hgap hgap' hrest => exact h.head.append _

theorem MemberSpelling.head {room : Nat} {ms : List (String × Json)} {cs : List Char}
    (h : MemberSpelling room ms cs) : ∃ ds, cs = '"' :: ds := by
  cases h with
  | last hbefore hafter h hgap => exact ⟨_, rfl⟩
  | cons hbefore hafter h hgap hgap' hrest => exact ⟨_, rfl⟩

/-! ## 3. One step of the reader -/

/-- With fuel for a text, the reader reads it as `w`, and stops at what follows. -/
def ReadsAs (cs : List Char) (w : Written) : Prop :=
  ∀ fuel rest, cs.length < fuel → EndsNumeral rest → readValue fuel (cs ++ rest) = some (w, rest)

theorem readsAs_word {cs : List Char} {w : Written}
    (h : ∀ fuel rest, readValue (fuel + 1) (cs ++ rest) = some (w, rest)) : ReadsAs cs w := by
  intro fuel rest hfuel hrest
  obtain ⟨fuel, rfl⟩ : ∃ f, fuel = f + 1 := ⟨fuel - 1, by omega⟩
  exact h fuel rest

theorem readValue_of_isDigit (fuel : Nat) {c : Char} (hc : c.isDigit = true)
    (cs : List Char) : readValue (fuel + 1) (c :: cs) =
      (readNumeral? false (c :: cs)).map fun p => (.number p.1, p.2) := by
  have hne : ∀ {d : Char}, d.isDigit = false → c ≠ d := fun hd => ne_of_isDigit hc hd
  rw [readValue]
  all_goals exact hne (by decide)

/-- A numeral is read as it stands, up to its end. -/
theorem readsAs_number {n : Numeral} (h : n.Grammatical) : ReadsAs n.chars (.number n) := by
  intro fuel rest hfuel hrest
  obtain ⟨fuel, rfl⟩ : ∃ f, fuel = f + 1 := ⟨fuel - 1, by omega⟩
  have hread := h.readNumeral? hrest
  unfold Numeral.chars
  cases hnegative : n.negative with
  | true =>
      rw [hnegative] at hread
      rw [if_pos rfl, List.singleton_append, List.cons_append]
      change (readNumeral? true _).map _ = _
      rw [hread]
      rfl
  | false =>
      rw [hnegative] at hread
      obtain ⟨c, ds, hds⟩ := List.exists_cons_of_ne_nil h.whole.1
      have hc : c.isDigit = true := h.whole.2 c (hds ▸ List.mem_cons_self)
      rw [if_neg (by decide), List.nil_append]
      rw [Numeral.unsignedChars, hds, List.cons_append, List.cons_append] at hread ⊢
      rw [readValue_of_isDigit fuel hc, hread]
      rfl

theorem readsAs_int (n : Int) : ReadsAs (signed n)
    (.number ⟨decide (n < 0), digits n.natAbs, [], none⟩) :=
  chars_int n ▸ readsAs_number (grammatical_digits _ n.natAbs)

theorem readsAs_str (s : String) : ReadsAs (quoted s) (.str (s.toList.map pieceOf)) := by
  intro fuel rest hfuel hrest
  obtain ⟨fuel, rfl⟩ : ∃ f, fuel = f + 1 := ⟨fuel - 1, by omega⟩
  rw [quoted_append]
  change (readPieces _).map _ = _
  rw [readPieces_flatMap]
  rfl

def ReadsItemsAs (cs : List Char) (ws : List Written) : Prop :=
  ∀ fuel rest, cs.length < fuel → readItems fuel (cs ++ rest) = some (ws, rest)

def ReadsMembersAs (cs : List Char) (ms : List (List Piece × Written)) : Prop :=
  ∀ fuel rest, cs.length < fuel → readMembers fuel (cs ++ rest) = some (ms, rest)

theorem endsNumeral_bracket (c : Char) (h : c ∈ [',', ']', '}']) (cs : List Char) :
    EndsNumeral (c :: cs) := by
  intro d hd
  obtain rfl : c = d := Option.some.inj hd
  simp only [List.mem_cons, List.not_mem_nil, or_false] at h
  rcases h with rfl | rfl | rfl
  all_goals decide

theorem readsAs_noItems {gap : List Char} (hgap : Blank gap) :
    ReadsAs ('[' :: (gap ++ [']'])) (.arr []) := by
  intro fuel rest hfuel hrest
  obtain ⟨fuel, rfl⟩ : ∃ f, fuel = f + 1 := ⟨fuel - 1, by omega⟩
  have hskip : skipBlanks (gap ++ [']'] ++ rest) = ']' :: rest := by
    rw [List.append_assoc]
    exact skipBlanks_gap hgap (by decide) rest
  rw [List.cons_append, readValue, hskip]
  rfl

theorem readsAs_items {gap cs : List Char} {ws : List Written} (hgap : Blank gap)
    (hhead : StartsValue cs) (h : ReadsItemsAs cs ws) : ReadsAs ('[' :: (gap ++ cs)) (.arr ws) := by
  intro fuel rest hfuel hrest
  obtain ⟨fuel, rfl⟩ : ∃ f, fuel = f + 1 := ⟨fuel - 1, by omega⟩
  have hitems : readItems fuel (cs ++ rest) = some (ws, rest) := by
    apply h
    simp only [List.length_cons, List.length_append] at hfuel
    omega
  have hskip := hhead.skipBlanks_eq hgap rest
  obtain ⟨c, ds, rfl, -, hbracket⟩ := hhead
  rw [List.cons_append] at hitems hskip
  rw [List.cons_append, readValue, List.append_assoc, List.cons_append, hskip]
  split
  · rename_i heq
    exact absurd (List.cons.inj heq).1 hbracket
  · rw [hitems]
    rfl

theorem readsAs_noMembers {gap : List Char} (hgap : Blank gap) :
    ReadsAs ('{' :: (gap ++ ['}'])) (.obj []) := by
  intro fuel rest hfuel hrest
  obtain ⟨fuel, rfl⟩ : ∃ f, fuel = f + 1 := ⟨fuel - 1, by omega⟩
  have hskip : skipBlanks (gap ++ ['}'] ++ rest) = '}' :: rest := by
    rw [List.append_assoc]
    exact skipBlanks_gap hgap (by decide) rest
  rw [List.cons_append, readValue, hskip]
  rfl

theorem readsAs_members {gap cs : List Char} {ms : List (List Piece × Written)}
    (hgap : Blank gap) (hhead : ∃ ds, cs = '"' :: ds) (h : ReadsMembersAs cs ms) :
    ReadsAs ('{' :: (gap ++ cs)) (.obj ms) := by
  intro fuel rest hfuel hrest
  obtain ⟨fuel, rfl⟩ : ∃ f, fuel = f + 1 := ⟨fuel - 1, by omega⟩
  have hmembers : readMembers fuel (cs ++ rest) = some (ms, rest) := by
    apply h
    simp only [List.length_cons, List.length_append] at hfuel
    omega
  obtain ⟨ds, rfl⟩ := hhead
  have hskip : skipBlanks (gap ++ ('"' :: ds) ++ rest) = '"' :: (ds ++ rest) := by
    rw [List.append_assoc]
    exact skipBlanks_gap hgap (by decide) (ds ++ rest)
  rw [List.cons_append] at hmembers
  rw [List.cons_append, readValue, hskip]
  change (readMembers fuel _).map _ = _
  rw [hmembers]
  rfl

/-- An item is read as a value, up to the comma or the bracket behind it. -/
theorem readValue_item {cs gap : List Char} {w : Written} (h : ReadsAs cs w) (hgap : Blank gap)
    {c : Char} (hc : c ∈ [',', ']', '}']) {fuel : Nat} (hfuel : cs.length < fuel)
    (rest : List Char) :
    readValue fuel (cs ++ (gap ++ c :: rest)) = some (w, gap ++ c :: rest) ∧
      skipBlanks (gap ++ c :: rest) = c :: rest := by
  constructor
  · exact h fuel _ hfuel (endsNumeral_gap hgap (endsNumeral_bracket c hc rest))
  · apply skipBlanks_gap hgap
    simp only [List.mem_cons, List.not_mem_nil, or_false] at hc
    rcases hc with rfl | rfl | rfl
    all_goals decide

theorem readsItemsAs_last {cs gap : List Char} {w : Written} (h : ReadsAs cs w)
    (hgap : Blank gap) : ReadsItemsAs (cs ++ (gap ++ [']'])) [w] := by
  intro fuel rest hfuel
  simp only [List.length_append, List.length_singleton] at hfuel
  obtain ⟨fuel, rfl⟩ : ∃ f, fuel = f + 1 := ⟨fuel - 1, by omega⟩
  obtain ⟨hvalue, hskip⟩ := readValue_item h hgap (by simp : ']' ∈ [',', ']', '}'])
    (by omega : cs.length < fuel) rest
  simp only [List.append_assoc, List.singleton_append]
  rw [readItems, hvalue]
  dsimp only
  rw [hskip]
  rfl

theorem readsItemsAs_cons {cs gap gap' ds : List Char} {w : Written} {ws : List Written}
    (h : ReadsAs cs w) (hgap : Blank gap) (hgap' : Blank gap')
    (hhead : StartsValue ds) (hrest : ReadsItemsAs ds ws) :
    ReadsItemsAs (cs ++ (gap ++ ',' :: (gap' ++ ds))) (w :: ws) := by
  intro fuel rest hfuel
  simp only [List.length_append, List.length_cons] at hfuel
  obtain ⟨fuel, rfl⟩ : ∃ f, fuel = f + 1 := ⟨fuel - 1, by omega⟩
  obtain ⟨hvalue, hskip⟩ := readValue_item h hgap (by simp : ',' ∈ [',', ']', '}'])
    (by omega : cs.length < fuel) (gap' ++ (ds ++ rest))
  have hitems := hrest fuel rest (by omega)
  have hnext := hhead.skipBlanks_eq hgap' rest
  simp only [List.append_assoc, List.cons_append]
  rw [readItems, hvalue]
  dsimp only
  rw [hskip]
  change (readItems fuel (skipBlanks _)).map _ = _
  rw [hnext, hitems]
  rfl

/-- What follows a member: the closing brace, or a comma and more members. -/
def afterMember (fuel : Nat) (m : List Piece × Written) :
    List Char → Option (List (List Piece × Written) × List Char)
  | '}' :: rest => some ([m], rest)
  | ',' :: rest => (readMembers fuel (skipBlanks rest)).map fun p => (m :: p.1, p.2)
  | _ => none

theorem readMembers_key (key : String) {before after cs gap : List Char} {w : Written}
    (hbefore : Blank before) (hafter : Blank after) (h : ReadsAs cs w)
    (hhead : StartsValue cs) (hgap : Blank gap)
    {c : Char} (hc : c ∈ [',', ']', '}']) {fuel : Nat} (hfuel : cs.length < fuel)
    (rest : List Char) :
    readMembers (fuel + 1)
        (quoted key ++ (before ++ ':' :: (after ++ (cs ++ (gap ++ c :: rest))))) =
      afterMember fuel (key.toList.map pieceOf, w) (c :: rest) := by
  obtain ⟨hvalue, hskip⟩ := readValue_item h hgap hc hfuel rest
  have hnext := hhead.skipBlanks_eq hafter (gap ++ c :: rest)
  have hcolon : skipBlanks (before ++ ':' :: (after ++ (cs ++ (gap ++ c :: rest)))) =
      ':' :: (after ++ (cs ++ (gap ++ c :: rest))) := skipBlanks_gap hbefore (by decide) _
  rw [quoted_append, readMembers, readPieces_flatMap]
  simp only [hcolon, hnext, hvalue, hskip]
  rfl

theorem readsMembersAs_last (key : String) {before after cs gap : List Char} {w : Written}
    (hbefore : Blank before) (hafter : Blank after) (h : ReadsAs cs w)
    (hhead : StartsValue cs) (hgap : Blank gap) :
    ReadsMembersAs (quoted key ++ (before ++ ':' :: (after ++ (cs ++ (gap ++ ['}'])))))
      [(key.toList.map pieceOf, w)] := by
  intro fuel rest hfuel
  simp only [List.length_append, List.length_cons] at hfuel
  obtain ⟨fuel, rfl⟩ : ∃ f, fuel = f + 1 := ⟨fuel - 1, by omega⟩
  have hkey := readMembers_key key hbefore hafter h hhead hgap (by simp : '}' ∈ [',', ']', '}'])
    (by omega : cs.length < fuel) rest
  simp only [List.append_assoc, List.cons_append, List.nil_append]
  exact hkey

theorem readsMembersAs_cons (key : String) {before after cs gap gap' ds : List Char} {w : Written}
    {ms : List (List Piece × Written)} (hbefore : Blank before) (hafter : Blank after)
    (h : ReadsAs cs w) (hhead : StartsValue cs)
    (hgap : Blank gap) (hgap' : Blank gap') (hnext : ∃ es, ds = '"' :: es)
    (hrest : ReadsMembersAs ds ms) :
    ReadsMembersAs
      (quoted key ++ (before ++ ':' :: (after ++ (cs ++ (gap ++ ',' :: (gap' ++ ds))))))
      ((key.toList.map pieceOf, w) :: ms) := by
  intro fuel rest hfuel
  simp only [List.length_append, List.length_cons] at hfuel
  obtain ⟨fuel, rfl⟩ : ∃ f, fuel = f + 1 := ⟨fuel - 1, by omega⟩
  have hkey := readMembers_key key hbefore hafter h hhead hgap (by simp : ',' ∈ [',', ']', '}'])
    (by omega : cs.length < fuel) (gap' ++ (ds ++ rest))
  have hskip : skipBlanks (gap' ++ (ds ++ rest)) = ds ++ rest := by
    obtain ⟨es, rfl⟩ := hnext
    exact skipBlanks_gap hgap' (by decide) (es ++ rest)
  have hmembers := hrest fuel rest (by omega)
  simp only [List.append_assoc, List.cons_append]
  rw [hkey]
  change (readMembers fuel (skipBlanks _)).map _ = _
  rw [hskip, hmembers]
  rfl

/-! ## 4. Whole values -/

theorem value?_of_int {n : Int} (room : Nat) (h : Numeral.Integral n) :
    ofWritten? room (.number ⟨decide (n < 0), digits n.natAbs, [], none⟩) = some (.int n) :=
  Numeral.value?_digits h

mutual
/-- **The reader reads every spelling**, and what it reads has the value that is spelled. -/
theorem Spelling.reads : ∀ {room : Nat} {v : Json} {cs : List Char}, Spelling room v cs →
    ∃ w, ReadsAs cs w ∧ ofWritten? room w = some v
  | _, _, _, .null => ⟨.null, readsAs_word fun _ _ => rfl, rfl⟩
  | _, _, _, .truth => ⟨.bool true, readsAs_word fun _ _ => rfl, rfl⟩
  | _, _, _, .falsehood => ⟨.bool false, readsAs_word fun _ _ => rfl, rfl⟩
  | room, _, _, .int hn => ⟨_, readsAs_int _, value?_of_int room hn⟩
  | _, _, _, .str s => by
      refine ⟨_, readsAs_str s, ?_⟩
      rw [ofWritten?, pieceText?_map, Option.map_some]
  | _, _, _, .noItems hgap => ⟨_, readsAs_noItems hgap, rfl⟩
  | _, _, _, .items hgap h => by
      obtain ⟨ws, hreads, hvalue⟩ := h.reads
      refine ⟨_, readsAs_items hgap h.head hreads, ?_⟩
      rw [ofWritten?, if_neg (Nat.succ_ne_zero _), Nat.add_sub_cancel, hvalue, Option.map_some]
  | _, _, _, .noMembers hgap => ⟨_, readsAs_noMembers hgap, rfl⟩
  | _, _, _, .members hgap h => by
      obtain ⟨ms, hreads, hvalue⟩ := h.reads
      refine ⟨_, readsAs_members hgap h.head hreads, ?_⟩
      rw [ofWritten?, if_neg (Nat.succ_ne_zero _), Nat.add_sub_cancel, hvalue, Option.map_some]

theorem ItemSpelling.reads : ∀ {room : Nat} {vs : List Json} {cs : List Char},
    ItemSpelling room vs cs → ∃ ws, ReadsItemsAs cs ws ∧ ofWrittenItems? room ws = some vs
  | _, _, _, .last h hgap => by
      obtain ⟨w, hreads, hvalue⟩ := h.reads
      refine ⟨_, readsItemsAs_last hreads hgap, ?_⟩
      rw [ofWrittenItems?, hvalue]
      rfl
  | _, _, _, .cons h hgap hgap' hrest => by
      obtain ⟨w, hreads, hvalue⟩ := h.reads
      obtain ⟨ws, hreads', hvalues⟩ := hrest.reads
      refine ⟨_, readsItemsAs_cons hreads hgap hgap' hrest.head hreads', ?_⟩
      rw [ofWrittenItems?, hvalue, hvalues]
      rfl

theorem MemberSpelling.reads : ∀ {room : Nat} {ms : List (String × Json)} {cs : List Char},
    MemberSpelling room ms cs → ∃ ws, ReadsMembersAs cs ws ∧ ofWrittenMembers? room ws = some ms
  | _, _, _, .last hbefore hafter h hgap => by
      obtain ⟨w, hreads, hvalue⟩ := h.reads
      refine ⟨_, readsMembersAs_last _ hbefore hafter hreads h.head hgap, ?_⟩
      rw [ofWrittenMembers?, pieceText?_map, hvalue]
      rfl
  | _, _, _, .cons hbefore hafter h hgap hgap' hrest => by
      obtain ⟨w, hreads, hvalue⟩ := h.reads
      obtain ⟨ws, hreads', hvalues⟩ := hrest.reads
      refine ⟨_, readsMembersAs_cons _ hbefore hafter hreads h.head hgap hgap' hrest.head
        hreads', ?_⟩
      rw [ofWrittenMembers?, pieceText?_map, hvalue, hvalues]
      rfl
end

/-- A text with blanks around what is read is read as a whole. -/
theorem ofText?_of_readsAs {before cs after : List Char} {w : Written} (hbefore : Blank before)
    (hhead : StartsValue cs) (h : ReadsAs cs w) (hafter : Blank after) :
    Written.ofText? (String.ofList (before ++ (cs ++ after))) = some w := by
  have hstart := hhead.skipBlanks_eq hbefore after
  have hrest : EndsNumeral after := by
    cases after with
    | nil => exact endsNumeral_nil
    | cons a after => exact endsNumeral_blank (hafter a List.mem_cons_self) after
  have hend : skipBlanks after = [] := by
    rw [← List.append_nil after, skipBlanks_append hafter]
    rfl
  rw [Written.ofText?, String.toList_ofList, Written.ofChars?, hstart, h _ _ ?_ hrest]
  · dsimp only
    rw [hend]
    rfl
  · simp only [List.length_append]
    omega

theorem ofText?_of_startsValue {cs : List Char} {w : Written} (hhead : StartsValue cs)
    (h : ReadsAs cs w) : Written.ofText? (String.ofList cs) = some w := by
  have htext := ofText?_of_readsAs blank_nil hhead h blank_nil
  rwa [List.nil_append, List.append_nil] at htext

theorem read?_of_spelling {v : Json} {before cs after : List Char} (hbefore : Blank before)
    (h : Spelling maxDepth v cs) (hafter : Blank after) :
    read? (String.ofList (before ++ (cs ++ after))) = some v := by
  obtain ⟨w, hreads, hvalue⟩ := h.reads
  rw [read?, ofText?_of_readsAs hbefore h.head hreads hafter]
  exact hvalue

end IncidentDigest.Json
