import IncidentDigest.Proofs.Instant.WellFormed
import IncidentDigest.Proofs.Instant.Stamp

/-!
# How a stamp is read

The strict form reads a stamp whose year has four digits, and then asks for an offset with
a colon (`readStrict?_chars`).  No layout reads a stamp with anything after its seconds
(`layouts_refuse`), so what the strict form refuses stays refused.  Both are stated for
any text that follows, so that they serve a second attempt as well as a first one.
-/

namespace IncidentDigest.Instant

open Numeral

/-! ## 1. Digits -/

theorem isBlank_of_isDigit {c : Char} (h : c.isDigit = true) : Text.isBlank c = false := by
  rw [Char.isDigit, Bool.and_eq_true, decide_eq_true_eq, decide_eq_true_eq] at h
  have hzero : 48 ≤ c.toNat := h.1
  have hnine : c.toNat ≤ 57 := h.2
  simp only [Text.isBlank, Text.inRanges, Text.blankRanges, List.any_cons, List.any_nil,
    Bool.or_eq_false_iff, Bool.and_eq_false_iff, decide_eq_false_iff_not, and_true]
  omega

theorem trimStart_append {cs : List Char} (h : ∀ c ∈ cs, Text.isBlank c = false)
    (hne : cs ≠ []) (rest : List Char) : Text.trimStart (cs ++ rest) = cs ++ rest := by
  obtain ⟨c, ds, rfl⟩ := List.exists_cons_of_ne_nil hne
  have hc := h c List.mem_cons_self
  rw [List.cons_append, Text.trimStart, List.dropWhile_cons_of_neg (by simp [hc])]

theorem trimStart_padded (width n : Nat) (rest : List Char) :
    Text.trimStart (padded width n ++ rest) = padded width n ++ rest :=
  trimStart_append (fun c hc => isBlank_of_isDigit (padded_isDigit width n c hc))
    (padded_ne_nil width n) rest

theorem trimStart_yearText (year : Int) (rest : List Char) :
    Text.trimStart (yearText year ++ rest) = yearText year ++ rest := by
  refine trimStart_append ?_ ?_ rest
  · intro c hc
    rcases Stamp.mem_yearText hc with hdigit | rfl | rfl
    · exact isBlank_of_isDigit hdigit
    · decide
    · decide
  · unfold yearText
    split
    · exact padded_ne_nil _ _
    · exact List.cons_ne_nil _ _

/-- As many digits as are wanted are taken, whatever follows. -/
theorem takeNumber?_append {least most : Nat} {ds : List Char}
    (hds : ∀ c ∈ ds, c.isDigit = true) (hlength : ds.length = most) (hleast : least ≤ most)
    (rest : List Char) : takeNumber? least most (ds ++ rest) = some (value ds, rest) := by
  have htaken : ((ds ++ rest).take most).takeWhile Char.isDigit = ds := by
    rw [← hlength, List.take_left, List.takeWhile_eq_self_iff]
    exact hds
  unfold takeNumber?
  dsimp only
  rw [htaken, if_neg (by omega), List.drop_left]

theorem takeNumber?_padded {least width n : Nat} (hwidth : 0 < width) (hn : n < 10 ^ width)
    (hleast : least ≤ width) (rest : List Char) :
    takeNumber? least width (padded width n ++ rest) = some (n, rest) := by
  rw [takeNumber?_append (padded_isDigit width n) (length_padded hwidth hn) hleast, value_padded]

theorem takeNumber?_two {least n : Nat} (hn : n < 100) (hleast : least ≤ 2) (rest : List Char) :
    takeNumber? least 2 (padded 2 n ++ rest) = some (n, rest) :=
  takeNumber?_padded (by decide) hn hleast rest

/-- No number starts with anything but a digit. -/
theorem takeNumber?_of_head {least most : Nat} {c : Char} (hc : c.isDigit = false)
    (hleast : 0 < least) (cs : List Char) : takeNumber? least most (c :: cs) = none := by
  have hnone : ((c :: cs).take most).takeWhile Char.isDigit = [] := by
    cases most with
    | zero => rfl
    | succ most =>
        rw [List.take_succ_cons, List.takeWhile_cons_of_neg (by simp [hc])]
  unfold takeNumber?
  dsimp only
  rw [hnone, List.length_nil, if_pos hleast]

theorem takeWhile_isDigit_append {ds : List Char} (hds : ∀ c ∈ ds, c.isDigit = true) {c : Char}
    (hc : c.isDigit = false) (cs : List Char) :
    (ds ++ c :: cs).takeWhile Char.isDigit = ds := by
  rw [List.takeWhile_append_of_pos hds, List.takeWhile_cons_of_neg (by simp [hc]), List.append_nil]

theorem takeLongNumber?_append {ds : List Char} (hds : ∀ c ∈ ds, c.isDigit = true)
    (hne : ds ≠ []) {c : Char} (hc : c.isDigit = false) (cs : List Char) :
    takeLongNumber? (ds ++ c :: cs) = some (value ds, c :: cs) := by
  have hpositive : 0 < ds.length := List.length_pos_iff.mpr hne
  unfold takeLongNumber? takeNumber?
  dsimp only
  rw [List.take_length, takeWhile_isDigit_append hds hc, if_neg (by omega), List.drop_left]

/-- Before a digit there is no sign. -/
theorem takeYear?_of_isDigit {d : Char} (hd : d.isDigit = true) (cs : List Char) :
    takeYear? (d :: cs) = (takeNumber? 1 4 (d :: cs)).map fun p => ((p.1 : Int), p.2) := by
  have hsign : ∀ {sign : Char} {rest : List Char}, sign.isDigit = false →
      d :: cs ≠ sign :: rest := by
    intro sign rest hsign heq
    rw [← (List.cons.inj heq).1, hd] at hsign
    cases hsign
  unfold takeYear?
  split
  · rename_i heq
    exact absurd heq (hsign (by decide))
  · rename_i heq
    exact absurd heq (hsign (by decide))
  · rfl

/-- A year is read as it is written, with a sign or without. -/
theorem takeYear?_yearText (year : Int) {c : Char} (hc : c.isDigit = false) (cs : List Char) :
    takeYear? (yearText year ++ c :: cs) = some (year, c :: cs) := by
  have hlong := takeLongNumber?_append (padded_isDigit 4 year.natAbs)
    (padded_ne_nil 4 year.natAbs) hc cs
  rw [value_padded] at hlong
  unfold yearText
  split
  · rename_i hyear
    rw [Bool.and_eq_true, decide_eq_true_eq, decide_eq_true_eq] at hyear
    have htaken : takeNumber? 1 4 (padded 4 year.natAbs ++ c :: cs) =
        some (year.natAbs, c :: cs) :=
      takeNumber?_padded (by decide) (by omega) (by decide) (c :: cs)
    have habs : (year.natAbs : Int) = year := Int.natAbs_of_nonneg hyear.1
    obtain ⟨d, ds, hds⟩ := List.exists_cons_of_ne_nil (padded_ne_nil 4 year.natAbs)
    have hd : d.isDigit = true := padded_isDigit 4 year.natAbs d (hds ▸ List.mem_cons_self)
    rw [hds, List.cons_append] at htaken ⊢
    rw [takeYear?_of_isDigit hd, htaken, Option.map_some, habs]
  · rename_i hyear
    rw [Bool.and_eq_true, decide_eq_true_eq, decide_eq_true_eq] at hyear
    split
    · have habs : -(year.natAbs : Int) = year := by omega
      rw [List.cons_append, takeYear?, hlong, Option.map_some, habs]
    · have habs : (year.natAbs : Int) = year := by omega
      rw [List.cons_append, takeYear?, hlong, Option.map_some, habs]

/-! ## 2. Date and time -/

theorem readParts?_day (s : Stamp) (r : Reading) (layout : Layout) (rest : List Char) :
    readParts? (.year :: .char '-' :: .month :: .char '-' :: .day :: layout) r
        (s.dayChars ++ rest) =
      readParts? layout
        { r with year := s.date.year, month := s.date.month, day := s.date.day } rest := by
  obtain ⟨-, hmonth, -, hday⟩ := Date.bounds_of_isValid s.date_valid
  simp only [Stamp.dayChars, List.append_assoc, List.cons_append, readParts?, Part.read?,
    trimStart_yearText, takeYear?_yearText _ (by decide : '-'.isDigit = false), Option.map_some,
    Option.bind_eq_bind, Option.bind_some, takeChar?, beq_self_eq_true, if_true,
    trimStart_padded, takeNumber?_two (by omega : s.date.month < 100) (by decide : 1 ≤ 2),
    takeNumber?_two (by omega : s.date.day < 100) (by decide : 1 ≤ 2)]

/-- Hours and minutes, with the seconds left over. -/
theorem readParts?_hourMinute (s : Stamp) (r : Reading) (layout : Layout) (rest : List Char) :
    readParts? (.hour :: .char ':' :: .minute :: layout) r (s.clockChars ++ rest) =
      readParts? layout { r with hour := s.hour, minute := s.minute }
        (':' :: padded 2 s.second ++ rest) := by
  have hhour := s.hour_lt
  have hminute := s.minute_lt
  simp only [Stamp.clockChars, List.append_assoc, List.cons_append, readParts?, Part.read?,
    Option.map_some, Option.bind_eq_bind, Option.bind_some, takeChar?, beq_self_eq_true, if_true,
    trimStart_padded, takeNumber?_two (by omega : s.hour < 100) (by decide : 1 ≤ 2),
    takeNumber?_two (by omega : s.minute < 100) (by decide : 1 ≤ 2)]

theorem readParts?_second (s : Stamp) (r : Reading) (layout : Layout) (rest : List Char) :
    readParts? (.char ':' :: .second :: layout) r (':' :: padded 2 s.second ++ rest) =
      readParts? layout { r with second := s.second } rest := by
  have hsecond := s.second_le
  simp only [List.cons_append, readParts?, Part.read?, Option.map_some, Option.bind_eq_bind,
    Option.bind_some, takeChar?, beq_self_eq_true, if_true, trimStart_padded,
    takeNumber?_two (by omega : s.second < 100) (by decide : 1 ≤ 2)]

/-! ## 3. Layouts -/

/-- What a layout lists after the date. -/
def afterDay : List Layout :=
  [ [.blanks, .hour, .char ':', .minute, .char ':', .second, .fraction, .offset],
    [.char 'T', .hour, .char ':', .minute, .offset],
    [.blanks, .hour, .char ':', .minute, .offset],
    [.char 'T', .hour, .char ':', .minute, .char ':', .second],
    [.blanks, .hour, .char ':', .minute, .char ':', .second],
    [.blanks, .hour, .char ':', .minute, .char ':', .second, .fraction],
    [.char 'T', .hour, .char ':', .minute],
    [.blanks, .hour, .char ':', .minute],
    [] ]

theorem layouts_eq : layouts =
    afterDay.map fun layout => .year :: .char '-' :: .month :: .char '-' :: .day :: layout := rfl

/-- A layout with blanks after the date does not read a `T`. -/
theorem readParts?_blanks_hour (r : Reading) (layout : Layout) (cs : List Char) :
    readParts? (.blanks :: .hour :: layout) r ('T' :: cs) = none := by
  have hT : Text.trimStart ('T' :: cs) = 'T' :: cs := by
    rw [Text.trimStart, List.dropWhile_cons_of_neg (by decide)]
  simp only [readParts?, Part.read?, hT, takeNumber?_of_head (by decide : 'T'.isDigit = false)
    (by decide : 0 < 1), Option.bind_eq_bind, Option.bind_some, Option.map_none, Option.bind_none]

theorem readParts?_char_T (r : Reading) (layout : Layout) (cs : List Char) :
    readParts? (.char 'T' :: layout) r ('T' :: cs) = readParts? layout r cs := rfl

/-- No offset starts with a colon. -/
theorem readParts?_offset_colon (r : Reading) (layout : Layout) (cs : List Char) :
    readParts? (.offset :: layout) r (':' :: cs) = none := by
  have hcolon : Text.trimStart (':' :: cs) = ':' :: cs := by
    rw [Text.trimStart, List.dropWhile_cons_of_neg (by decide)]
  rw [readParts?, Part.read?, hcolon]
  rfl

theorem Layout.read?_of_rest {layout : Layout} {cs rest : List Char}
    (h : (readParts? layout {} cs).map (·.2) = some rest) (hrest : rest ≠ []) :
    layout.read? cs = none := by
  obtain ⟨⟨r, rest⟩, hread, rfl⟩ := Option.map_eq_some_iff.mp h
  unfold Layout.read?
  rw [hread]
  cases rest with
  | nil => exact absurd rfl hrest
  | cons c rest => rfl

/-- **No layout reads a stamp with a `T` and with anything after its seconds.** -/
theorem layouts_refuse (s : Stamp) {rest : List Char} (hrest : rest ≠ []) :
    (layouts.findSome? fun layout => layout.read? (s.head ++ rest)) = none := by
  have hhead : s.head ++ rest = s.dayChars ++ ('T' :: (s.clockChars ++ rest)) := by
    rw [Stamp.head, List.append_assoc, List.cons_append]
  rw [layouts_eq, List.findSome?_map, List.findSome?_eq_none_iff]
  intro layout hlayout
  dsimp only [Function.comp]
  have hblanks : ∀ parts : Layout, Layout.read?
      (.year :: .char '-' :: .month :: .char '-' :: .day :: .blanks :: .hour :: parts)
      (s.head ++ rest) = none := by
    intro parts
    unfold Layout.read?
    rw [hhead, readParts?_day, readParts?_blanks_hour]
  simp only [afterDay, List.mem_cons, List.not_mem_nil, or_false] at hlayout
  rcases hlayout with rfl | rfl | rfl | rfl | rfl | rfl | rfl | rfl | rfl
  · exact hblanks _
  · unfold Layout.read?
    rw [hhead, readParts?_day, readParts?_char_T, readParts?_hourMinute, List.cons_append,
      readParts?_offset_colon]
  · exact hblanks _
  · refine Layout.read?_of_rest ?_ hrest
    rw [hhead, readParts?_day, readParts?_char_T, readParts?_hourMinute, readParts?_second]
    rfl
  · exact hblanks _
  · exact hblanks _
  · refine Layout.read?_of_rest ?_ (List.cons_ne_nil ':' (padded 2 s.second ++ rest))
    rw [hhead, readParts?_day, readParts?_char_T, readParts?_hourMinute]
    rfl
  · exact hblanks _
  · refine Layout.read?_of_rest ?_ (List.cons_ne_nil 'T' (s.clockChars ++ rest))
    rw [hhead, readParts?_day]
    rfl

/-! ## 4. The strict form -/

theorem takeFraction?_fraction {s : Stamp} (hne : s.fraction ≠ []) {c : Char}
    (hc : c.isDigit = false) (cs : List Char) :
    takeFraction? (s.fraction ++ c :: cs) = some (s.nanos, c :: cs) := by
  unfold takeFraction?
  dsimp only
  rw [takeWhile_isDigit_append s.fraction_isDigit hc, List.drop_left, s.nanos_eq,
    if_neg (by simpa using hne)]
  rfl

theorem takeChar?_self (c : Char) (cs : List Char) : takeChar? c (c :: cs) = some cs := by
  rw [takeChar?, if_pos (beq_self_eq_true c)]

theorem bind_of_eq_some {α β : Type} {x : Option α} {a : α} {f : α → Option β} (h : x = some a) :
    (x >>= f) = f a := by
  rw [h]
  rfl

/-- What the strict form reads after the minutes. -/
def readSeconds? (r : Reading) (cs : List Char) : Option Instant := do
  let cs ← takeChar? ':' cs
  let (second, cs) ← takeNumber? 2 2 cs
  let (nanos, cs) ← match cs with
    | '.' :: rest => takeFraction? rest
    | _ => some (0, cs)
  let (offset, cs) ← match cs with
    | 'Z' :: rest => some (0, rest)
    | 'z' :: rest => some (0, rest)
    | _ => takeOffset? (takeChar? ':') cs
  if cs.isEmpty then Reading.instant? { r with second, nanos, offset } else none

/-- Date, hours and minutes, with a `T` or a space between date and time. -/
theorem readStrict?_minutes {s : Stamp} (hyear : s.FourDigitYear) {c : Char}
    (hc : c = 'T' ∨ c = ' ') (rest : List Char) :
    readStrict? (s.dayChars ++ c :: (padded 2 s.hour ++ ':' :: (padded 2 s.minute ++ rest))) =
      readSeconds? { s.reading 0 with second := 0, nanos := 0 } rest := by
  obtain ⟨hlower, hupper⟩ := hyear
  obtain ⟨-, hmonth, -, hday⟩ := Date.bounds_of_isValid s.date_valid
  have hhour := s.hour_lt
  have hminute := s.minute_lt
  have hyearText : yearText s.date.year = padded 4 s.date.year.natAbs := by
    rw [yearText, if_pos (by simp [hlower, hupper])]
  have habs : (s.date.year.natAbs : Int) = s.date.year := Int.natAbs_of_nonneg hlower
  have hseparator : (c == 'T' || c == 't' || c == ' ') = true := by
    rcases hc with rfl | rfl
    · rfl
    · rfl
  simp only [Stamp.dayChars, hyearText, List.append_assoc, List.cons_append]
  unfold readStrict?
  refine (bind_of_eq_some (takeNumber?_padded (by decide) (by omega) (le_refl 4) _)).trans ?_
  refine (bind_of_eq_some (takeChar?_self '-' _)).trans ?_
  refine (bind_of_eq_some (takeNumber?_two (by omega) (le_refl 2) _)).trans ?_
  refine (bind_of_eq_some (takeChar?_self '-' _)).trans ?_
  refine (bind_of_eq_some (takeNumber?_two (by omega) (le_refl 2) _)).trans ?_
  refine (if_pos hseparator).trans ?_
  refine (bind_of_eq_some (takeNumber?_two (by omega) (le_refl 2) _)).trans ?_
  refine (bind_of_eq_some (takeChar?_self ':' _)).trans ?_
  refine (bind_of_eq_some (takeNumber?_two (by omega) (le_refl 2) _)).trans ?_
  unfold Stamp.reading
  rw [← habs]
  rfl

/-- What stands after the seconds decides whether a fraction is read. -/
theorem readSeconds?_sign (s : Stamp) (r : Reading) {sign : Char}
    (hsign : sign = '+' ∨ sign = '-') (rest : List Char) :
    readSeconds? r (':' :: (padded 2 s.second ++ (s.fractionChars ++ sign :: rest))) =
      (takeOffset? (takeChar? ':') (sign :: rest)).bind fun p =>
        if p.2.isEmpty then
          Reading.instant? { r with second := s.second, nanos := s.nanos, offset := p.1 }
        else none := by
  have hsecond := s.second_le
  unfold readSeconds?
  refine (bind_of_eq_some (takeChar?_self ':' _)).trans ?_
  refine (bind_of_eq_some (takeNumber?_two (by omega) (le_refl 2) _)).trans ?_
  by_cases hfraction : s.fraction = []
  · have hnanos : s.nanos = 0 := by
      rw [Stamp.nanos, hfraction]
      rfl
    rw [Stamp.fractionChars, if_pos hfraction, List.nil_append, hnanos]
    rcases hsign with rfl | rfl
    · rfl
    · rfl
  · rw [Stamp.fractionChars, if_neg hfraction, List.cons_append]
    rcases hsign with rfl | rfl
    · exact (bind_of_eq_some (takeFraction?_fraction hfraction (by decide) rest)).trans rfl
    · exact (bind_of_eq_some (takeFraction?_fraction hfraction (by decide) rest)).trans rfl

/-- **The strict form reads a stamp**, and then an offset with a colon and nothing more. -/
theorem readStrict?_clock {s : Stamp} (hyear : s.FourDigitYear) {c : Char}
    (hc : c = 'T' ∨ c = ' ') {sign : Char} (hsign : sign = '+' ∨ sign = '-') (rest : List Char) :
    readStrict? (s.dayChars ++ c :: (s.clockChars ++ (s.fractionChars ++ sign :: rest))) =
      (takeOffset? (takeChar? ':') (sign :: rest)).bind fun p =>
        if p.2.isEmpty then (s.reading p.1).instant? else none := by
  simp only [Stamp.clockChars, List.append_assoc, List.cons_append]
  rw [readStrict?_minutes hyear hc, readSeconds?_sign s _ hsign]
  rfl

theorem readStrict?_chars {s : Stamp} (hyear : s.FourDigitYear) {sign : Char}
    (hsign : sign = '+' ∨ sign = '-') (rest : List Char) :
    readStrict? (s.chars ++ sign :: rest) =
      (takeOffset? (takeChar? ':') (sign :: rest)).bind fun p =>
        if p.2.isEmpty then (s.reading p.1).instant? else none := by
  rw [← readStrict?_clock hyear (Or.inl rfl) hsign]
  simp only [Stamp.chars, Stamp.head, List.append_assoc, List.cons_append]

/-! ### Offsets -/

/-- An offset is read if the separator passes over the colon between its hours and its
minutes, and over nothing else. -/
theorem takeOffset?_of_separator {separator : List Char → Option (List Char)} {o : Stamp.Offset}
    (h : o.form = .colon)
    (hseparator : separator (':' :: padded 2 o.minutes) = some (padded 2 o.minutes)) :
    takeOffset? separator o.chars = some (o.seconds, []) := by
  have hhours := o.hours_lt
  have hminutes := o.minutes_lt
  have hsign : (o.sign == '+' || o.sign == '-' || o.sign == '\u2212') = true := by
    rcases o.sign_eq with h | h <;> rw [h] <;> rfl
  have htail : o.tail = ':' :: padded 2 o.minutes := by
    rw [Stamp.Offset.tail, h]
  have hnumber : takeNumber? 2 2 (padded 2 o.minutes) = some (o.minutes, []) := by
    have htaken := takeNumber?_two (n := o.minutes) (by omega) (le_refl 2) []
    rwa [List.append_nil] at htaken
  unfold Stamp.Offset.chars
  rw [htail, takeOffset?, if_pos hsign]
  refine (bind_of_eq_some (takeNumber?_two (by omega) (le_refl 2) _)).trans ?_
  refine (bind_of_eq_some hseparator).trans ?_
  refine (bind_of_eq_some hnumber).trans ?_
  refine (if_neg (by omega)).trans ?_
  unfold Stamp.Offset.sign Stamp.Offset.seconds
  cases o.negative with
  | true => rfl
  | false => rfl

theorem takeOffset?_of_colon {o : Stamp.Offset} (h : o.form = .colon) :
    takeOffset? (takeChar? ':') o.chars = some (o.seconds, []) :=
  takeOffset?_of_separator h (takeChar?_self ':' _)

/-- An offset is refused if anything but a colon follows its hours. -/
theorem takeOffset?_of_no_colon {sign : Char} {hours : Nat} (hhours : hours < 100)
    {rest : List Char} (hrest : rest.head? ≠ some ':') :
    takeOffset? (takeChar? ':') (sign :: (padded 2 hours ++ rest)) = none := by
  have hcolon : takeChar? ':' rest = none := by
    cases rest with
    | nil => rfl
    | cons c rest =>
        have hc : ':' ≠ c := fun heq => hrest (congrArg some heq.symm)
        rw [takeChar?, if_neg (by simpa using hc)]
  rw [takeOffset?]
  split
  · refine (bind_of_eq_some (takeNumber?_two hhours (le_refl 2) _)).trans ?_
    dsimp only
    rw [hcolon]
    rfl
  · rfl

/-! ## 5. Moments -/

theorem inRange_instant {s : Stamp} (hyear : s.FourDigitYear) {offset : Int}
    (hoffset : -86400 < offset ∧ offset < 86400) : inRange (s.instant offset).seconds = true := by
  have hhour := s.hour_lt
  have hminute := s.minute_lt
  have hday : daySeconds = 86400 := rfl
  have hdays := Date.toDays_bounds_of_fourDigits s.date_valid hyear
  rw [inRange_iff, Stamp.instant]
  dsimp only
  rw [hday]
  omega

/-- A stamp whose year has four digits names an instant. -/
theorem instant?_reading {s : Stamp} (hyear : s.FourDigitYear) {offset : Int}
    (hoffset : -86400 < offset ∧ offset < 86400) :
    (s.reading offset).instant? = some (s.instant offset) := by
  have hhour := Nat.le_of_lt_succ s.hour_lt
  have hminute := Nat.le_of_lt_succ s.minute_lt
  have hfirst : Date.minYear ≤ s.date.year := le_trans (by decide) hyear.1
  have hlast : s.date.year ≤ Date.maxYear := le_trans hyear.2 (by decide)
  have hvalid : Date.isValid ⟨s.date.year, s.date.month, s.date.day⟩ = true := s.date_valid
  have hguard : (Date.minYear ≤ s.date.year && s.date.year ≤ Date.maxYear &&
      Date.isValid ⟨s.date.year, s.date.month, s.date.day⟩ && s.hour ≤ 23 && s.minute ≤ 59 &&
      s.second ≤ 60 && -86400 < offset && offset < 86400) = true := by
    simp only [Bool.and_eq_true, decide_eq_true_eq]
    exact ⟨⟨⟨⟨⟨⟨⟨hfirst, hlast⟩, hvalid⟩, hhour⟩, hminute⟩, s.second_le⟩, hoffset.1⟩, hoffset.2⟩
  unfold Reading.instant?
  refine (if_pos hguard).trans ((if_pos (inRange_instant hyear hoffset)).trans ?_)
  congr 2
  change (if s.second = 60 then Instant.second + s.nanos else s.nanos) =
    (if s.second = 60 then Instant.second else 0) + s.nanos
  split
  · rfl
  · exact (Nat.zero_add _).symm

/-! ## 6. Direct reading -/

/-- **A stamp with an offset that has a colon is read**, to the instant that it names. -/
theorem readDirect?_of_colon {s : Stamp} (hyear : s.FourDigitYear) {o : Stamp.Offset}
    (hform : o.form = .colon) : readDirect? (s.chars ++ o.chars) = some (s.instant o.seconds) := by
  have hstrict : readStrict? (s.chars ++ o.chars) = some (s.instant o.seconds) := by
    have hread := readStrict?_chars hyear o.sign_eq (padded 2 o.hours ++ o.tail)
    have hoffset := takeOffset?_of_colon hform
    unfold Stamp.Offset.chars at hoffset ⊢
    rw [hread, hoffset]
    exact instant?_reading hyear o.seconds_bounds
  unfold readDirect?
  rw [hstrict]

/-- **A stamp is refused if the hours of its offset are followed by anything but a colon.** -/
theorem readDirect?_of_no_colon {s : Stamp} (hyear : s.FourDigitYear) {sign : Char}
    (hsign : sign = '+' ∨ sign = '-') {hours : Nat} (hhours : hours < 100) {rest : List Char}
    (hrest : rest.head? ≠ some ':') :
    readDirect? (s.chars ++ sign :: (padded 2 hours ++ rest)) = none := by
  have hstrict : readStrict? (s.chars ++ sign :: (padded 2 hours ++ rest)) = none := by
    rw [readStrict?_chars hyear hsign, takeOffset?_of_no_colon hhours hrest]
    rfl
  have hafter : s.fractionChars ++ sign :: (padded 2 hours ++ rest) ≠ [] :=
    List.append_ne_nil_of_right_ne_nil _ (List.cons_ne_nil _ _)
  unfold readDirect?
  rw [hstrict]
  dsimp only
  rw [Stamp.chars, List.append_assoc]
  exact layouts_refuse s hafter

/-- **A stamp is refused if its year has a sign**, whatever its offset. -/
theorem readDirect?_of_signed_year {s : Stamp} (hyear : ¬ s.FourDigitYear) {rest : List Char}
    (hrest : rest ≠ []) : readDirect? (s.head ++ rest) = none := by
  have hstrict : readStrict? (s.head ++ rest) = none := by
    have hsigned : ∃ sign : Char, sign.isDigit = false ∧
        yearText s.date.year = sign :: padded 4 s.date.year.natAbs := by
      unfold yearText
      rw [if_neg (by simpa [Stamp.FourDigitYear] using hyear)]
      split
      · exact ⟨'-', by decide, rfl⟩
      · exact ⟨'+', by decide, rfl⟩
    obtain ⟨sign, hsign, htext⟩ := hsigned
    rw [Stamp.head, Stamp.dayChars, htext]
    unfold readStrict?
    rw [List.cons_append, List.cons_append, List.cons_append, List.cons_append,
      takeNumber?_of_head hsign (by decide)]
    rfl
  unfold readDirect?
  rw [hstrict]
  exact layouts_refuse s hrest

/-! ## 7. Whole texts -/

theorem trim_eq_self {cs : List Char} (h : ∀ c ∈ cs, Text.isBlank c = false) :
    Text.trim cs = cs := by
  have hkeep : ∀ ds : List Char, (∀ c ∈ ds, Text.isBlank c = false) →
      ds.dropWhile Text.isBlank = ds := by
    intro ds hds
    cases ds with
    | nil => rfl
    | cons d ds => exact List.dropWhile_cons_of_neg (by simp [hds d List.mem_cons_self])
  rw [Text.trim, Text.trimStart, Text.trimEnd, hkeep cs h,
    hkeep cs.reverse fun c hc => h c (List.mem_reverse.mp hc), List.reverse_reverse]

theorem expandZulu_eq_self {cs : List Char} (h : 'Z' ∉ cs) : expandZulu cs = cs := by
  unfold expandZulu
  induction cs with
  | nil => rfl
  | cons c cs ih =>
      obtain ⟨hc, hcs⟩ := not_or.mp (List.mem_cons.not.mp h)
      rw [List.flatMap_cons, ih hcs, if_neg (by simpa using Ne.symm hc)]
      rfl

theorem secondAttempt_of_plus {cs : List Char} (h : '+' ∈ cs) : secondAttempt cs = cs := by
  rw [secondAttempt, if_neg (by simp [h])]

theorem secondAttempt_of_no_plus {cs : List Char} (hplus : '+' ∉ cs) (hT : 'T' ∈ cs) :
    secondAttempt cs = cs.takeWhile (· != '.') ++ ['+', '0', '0', ':', '0', '0'] := by
  rw [secondAttempt, if_pos (by simp [hplus, hT])]

/-- A text without blanks and without a `Z` is read as it stands, and then a second time. -/
theorem read_ofList {cs : List Char} (hne : cs ≠ []) (hblank : ∀ c ∈ cs, Text.isBlank c = false)
    (hZ : 'Z' ∉ cs) :
    Instant.read (String.ofList cs) =
      match readDirect? cs with
      | some t => .ok (some t)
      | none =>
        match readDirect? (secondAttempt cs) with
        | some t => .ok (some t)
        | none => .error (.unparseable (String.ofList cs)) := by
  have hexpand : expandZulu cs = cs := expandZulu_eq_self hZ
  unfold Instant.read
  rw [String.toList_ofList, trim_eq_self hblank, if_neg (by simpa using hne)]
  exact hexpand.symm ▸ rfl

theorem plain_text {s : Stamp} {o : Stamp.Offset} {c : Char} (h : c ∈ s.chars ++ o.chars) :
    Text.isBlank c = false ∧ c ≠ 'Z' := by
  have hdigit : c.isDigit = true → Text.isBlank c = false ∧ c ≠ 'Z' := by
    intro hc
    refine ⟨isBlank_of_isDigit hc, ?_⟩
    rintro rfl
    exact absurd hc (by decide)
  rw [Stamp.chars, List.append_assoc, List.mem_append, List.mem_append] at h
  rcases h with h | h | h
  · by_cases hc : c ∈ ['-', '+', ':', 'T']
    · simp only [List.mem_cons, List.not_mem_nil, or_false] at hc
      rcases hc with rfl | rfl | rfl | rfl
      all_goals decide
    · cases hd : c.isDigit with
      | true => exact hdigit hd
      | false => exact absurd h (Stamp.notMem_head hd hc)
  · rcases Stamp.mem_fractionChars h with h | rfl
    · exact hdigit h
    · decide
  · rcases Stamp.mem_offsetChars h with h | h | rfl
    · exact hdigit h
    · rcases o.sign_eq with hsign | hsign
      · rw [h, hsign]
        decide
      · rw [h, hsign]
        decide
    · decide

theorem read_text_eq (s : Stamp) (o : Stamp.Offset) :
    Instant.read (s.text o) =
      match readDirect? (s.chars ++ o.chars) with
      | some t => .ok (some t)
      | none =>
        match readDirect? (secondAttempt (s.chars ++ o.chars)) with
        | some t => .ok (some t)
        | none => .error (.unparseable (s.text o)) := by
  have hne : s.chars ++ o.chars ≠ [] :=
    List.append_ne_nil_of_right_ne_nil _ (List.cons_ne_nil _ _)
  rw [Stamp.text]
  exact read_ofList hne (fun c hc => (plain_text hc).1) fun hZ => (plain_text hZ).2 rfl

end IncidentDigest.Instant
