import IncidentDigest.Proofs.Instant.Forms
import IncidentDigest.Proofs.Instant.Offset

/-!
# What the layouts read

Every layout starts with the day, and every layout with a time goes on with hours and
minutes.  So after these only the tails of the layouts are left, in the order in which they
are tried (`layouts_time`), and what stands there decides between them.  With this, each form
of a stamp is read directly, but for a fraction behind a `T` without an offset after it
(`readDirect?_form`); that one is read in the second attempt, without its fraction.
-/

namespace IncidentDigest.Instant

open Numeral Stamp

/-! ## 1. Parts -/

theorem trimStart_space (width n : Nat) (rest : List Char) :
    Text.trimStart (' ' :: (padded width n ++ rest)) = padded width n ++ rest := by
  rw [Text.trimStart, List.dropWhile_cons_of_pos (by decide)]
  exact trimStart_padded width n rest

theorem readParts?_space (s : Stamp) (r : Reading) (layout : Layout) (rest : List Char) :
    readParts? (.blanks :: layout) r (' ' :: (s.minuteChars ++ rest)) =
      readParts? layout r (s.minuteChars ++ rest) := by
  simp only [minuteChars, List.append_assoc, readParts?, Part.read?, trimStart_space,
    Option.bind_eq_bind, Option.bind_some]

theorem readParts?_char_T_space (r : Reading) (layout : Layout) (cs : List Char) :
    readParts? (.char 'T' :: layout) r (' ' :: cs) = none := rfl

theorem readParts?_minuteChars (s : Stamp) (r : Reading) (layout : Layout) (rest : List Char) :
    readParts? (.hour :: .char ':' :: .minute :: layout) r (s.minuteChars ++ rest) =
      readParts? layout { r with hour := s.hour, minute := s.minute } rest := by
  have hhour := s.hour_lt
  have hminute := s.minute_lt
  simp only [minuteChars, List.append_assoc, List.cons_append, readParts?, Part.read?,
    Option.map_some, Option.bind_eq_bind, Option.bind_some, takeChar?_self, trimStart_padded,
    takeNumber?_two (by omega : s.hour < 100) (by decide : 1 ≤ 2),
    takeNumber?_two (by omega : s.minute < 100) (by decide : 1 ≤ 2)]

theorem takeFraction?_end {s : Stamp} (hne : s.fraction ≠ []) :
    takeFraction? s.fraction = some (s.nanos, []) := by
  have hall : s.fraction.takeWhile Char.isDigit = s.fraction :=
    List.takeWhile_eq_self_iff.mpr s.fraction_isDigit
  simp only [takeFraction?, hall, List.drop_length, s.nanos_eq]
  exact if_neg (by simpa using hne)

theorem readParts?_fraction (s : Stamp) (r : Reading) (layout : Layout) (hr : r.nanos = 0) :
    readParts? (.fraction :: layout) r s.fractionChars =
      readParts? layout { r with nanos := s.nanos } [] := by
  by_cases hfraction : s.fraction = []
  · have hnanos : s.nanos = r.nanos := by
      rw [hr, Stamp.nanos, hfraction]
      rfl
    rw [fractionChars_of_nil hfraction, hnanos]
    rfl
  · simp only [fractionChars_of_ne_nil hfraction, readParts?, Part.read?,
      takeFraction?_end hfraction, Option.map_some, Option.bind_eq_bind, Option.bind_some]

theorem readParts?_clockEnd (s : Stamp) (r : Reading) (layout : Layout) (rest : List Char) :
    readParts? (.char ':' :: .second :: layout) r (':' :: (padded 2 s.second ++ rest)) =
      readParts? layout { r with second := s.second } rest :=
  readParts?_second s r layout rest

theorem dropColons_padded (n : Nat) : dropColons (':' :: padded 2 n) = padded 2 n := by
  obtain ⟨d, ds, hds⟩ := List.exists_cons_of_ne_nil (padded_ne_nil 2 n)
  have hd : d.isDigit = true := padded_isDigit 2 n d (hds ▸ List.mem_cons_self)
  have hcolon : (d == ':') = false := by
    cases h : d == ':' with
    | false => rfl
    | true =>
        rw [eq_of_beq h] at hd
        exact absurd hd (by decide)
  rw [hds, dropColons, List.dropWhile_cons_of_pos (by decide), List.dropWhile_cons_of_neg]
  simp [hcolon, isBlank_of_isDigit hd]

theorem readParts?_offset (o : Offset) (h : o.form = .colon) (r : Reading) (layout : Layout) :
    readParts? (.offset :: layout) r o.chars =
      readParts? layout { r with offset := o.seconds } [] := by
  have htrim : Text.trimStart o.chars = o.chars := by
    rw [Offset.chars, Text.trimStart, List.dropWhile_cons_of_neg]
    rcases o.sign_eq with hsign | hsign <;> rw [hsign] <;> decide
  have htaken : takeOffset? (fun cs => some (dropColons cs)) o.chars = some (o.seconds, []) :=
    takeOffset?_of_separator h (congrArg some (dropColons_padded o.minutes))
  simp only [readParts?, Part.read?, htrim, htaken, Option.map_some, Option.bind_eq_bind,
    Option.bind_some]

theorem readParts?_offset_nil (r : Reading) (layout : Layout) :
    readParts? (.offset :: layout) r [] = none := rfl

theorem readParts?_char_nil (c : Char) (r : Reading) (layout : Layout) :
    readParts? (.char c :: layout) r [] = none := rfl

theorem readParts?_colon_offset (o : Offset) (r : Reading) (layout : Layout) :
    readParts? (.char ':' :: layout) r o.chars = none := by
  rw [Offset.chars]
  rcases o.sign_eq with hsign | hsign <;> rw [hsign] <;> rfl

/-! ## 2. Tails of the layouts -/

/-- What the parts of a layout have read counts if nothing is left over. -/
def whole? : Option (Reading × List Char) → Option Instant
  | some (r, []) => r.instant?
  | _ => none

theorem whole?_of_ne_nil {r : Reading} {rest : List Char} (h : rest ≠ []) :
    whole? (some (r, rest)) = none := by
  cases rest with
  | nil => exact absurd rfl h
  | cons c rest => rfl

def dayReading (s : Stamp) : Reading :=
  { year := s.date.year, month := s.date.month, day := s.date.day }

def minuteReading (s : Stamp) : Reading :=
  { dayReading s with hour := s.hour, minute := s.minute }

theorem layouts_day (s : Stamp) (rest : List Char) :
    (layouts.findSome? fun layout => layout.read? (s.dayChars ++ rest)) =
      afterDay.findSome? fun layout => whole? (readParts? layout (dayReading s) rest) := by
  have hread : ∀ layout : Layout,
      Layout.read? (.year :: .char '-' :: .month :: .char '-' :: .day :: layout)
          (s.dayChars ++ rest) = whole? (readParts? layout (dayReading s) rest) := by
    intro layout
    change whole? (readParts? _ {} (s.dayChars ++ rest)) = _
    rw [readParts?_day]
    rfl
  rw [layouts_eq, List.findSome?_map]
  simp only [Function.comp_def, hread]

/-- What the layouts with a time list after the minutes. -/
def afterMinutes : Separator → List Layout
  | .letter => [[.offset], [.char ':', .second], []]
  | .space =>
    [ [.char ':', .second, .fraction, .offset],
      [.offset],
      [.char ':', .second],
      [.char ':', .second, .fraction],
      [] ]

theorem layouts_time (s : Stamp) (separator : Separator) (rest : List Char) :
    (layouts.findSome? fun layout =>
        layout.read? (s.dayChars ++ separator.char :: (s.minuteChars ++ rest))) =
      (afterMinutes separator).findSome? fun layout =>
        whole? (readParts? layout (minuteReading s) rest) := by
  have hday : ∀ r : Reading, readParts? [] r (separator.char :: (s.minuteChars ++ rest)) =
      some (r, separator.char :: (s.minuteChars ++ rest)) := fun _ => rfl
  have hlast : ∀ r : Reading,
      whole? (some (r, separator.char :: (s.minuteChars ++ rest))) = none := fun _ => rfl
  have hnone : whole? none = none := rfl
  rw [layouts_day, afterDay]
  cases separator with
  | letter =>
      simp only [Separator.char] at hday hlast ⊢
      simp only [List.findSome?_cons, List.findSome?_nil, readParts?_blanks_hour,
        readParts?_char_T, readParts?_minuteChars, hday, hlast, hnone, afterMinutes]
      rfl
  | space =>
      simp only [Separator.char] at hday hlast ⊢
      simp only [List.findSome?_cons, List.findSome?_nil, readParts?_space,
        readParts?_char_T_space, readParts?_minuteChars, hday, hlast, hnone, afterMinutes]
      rfl

/-! ## 3. What the strict form refuses -/

theorem readStrict?_day {s : Stamp} (hyear : s.FourDigitYear) : readStrict? s.dayChars = none := by
  obtain ⟨hlower, hupper⟩ := hyear
  obtain ⟨-, hmonth, -, hday⟩ := Date.bounds_of_isValid s.date_valid
  have hyearText : yearText s.date.year = padded 4 s.date.year.natAbs := by
    rw [yearText, if_pos (by simp [hlower, hupper])]
  have hwidth : s.date.year.natAbs < 10 ^ 4 := by omega
  have hend : takeNumber? 2 2 (padded 2 s.date.day) = some (s.date.day, []) := by
    have htaken := takeNumber?_two (n := s.date.day) (by omega) (le_refl 2) []
    rwa [List.append_nil] at htaken
  simp only [Stamp.dayChars, hyearText, List.append_assoc, List.cons_append]
  unfold readStrict?
  refine (bind_of_eq_some (takeNumber?_padded (by decide) hwidth (le_refl 4) _)).trans ?_
  refine (bind_of_eq_some (takeChar?_self '-' _)).trans ?_
  refine (bind_of_eq_some (takeNumber?_two (by omega) (le_refl 2) _)).trans ?_
  refine (bind_of_eq_some (takeChar?_self '-' _)).trans ?_
  exact bind_of_eq_some hend

theorem readSeconds?_nil (r : Reading) : readSeconds? r [] = none := rfl

theorem readSeconds?_offset (r : Reading) (o : Offset) : readSeconds? r o.chars = none := by
  rw [Offset.chars]
  rcases o.sign_eq with hsign | hsign <;> rw [hsign] <;> rfl

theorem readSeconds?_unmarked (s : Stamp) (r : Reading) :
    readSeconds? r (':' :: (padded 2 s.second ++ s.fractionChars)) = none := by
  have hsecond := s.second_le
  unfold readSeconds?
  refine (bind_of_eq_some (takeChar?_self ':' _)).trans ?_
  refine (bind_of_eq_some (takeNumber?_two (by omega) (le_refl 2) _)).trans ?_
  by_cases hfraction : s.fraction = []
  · rw [fractionChars_of_nil hfraction]
    rfl
  · rw [fractionChars_of_ne_nil hfraction]
    exact bind_of_eq_some (takeFraction?_end hfraction)

/-! ## 4. Forms -/

theorem readDirect?_of_strict_none {cs : List Char} (h : readStrict? cs = none) :
    readDirect? cs = layouts.findSome? fun layout => layout.read? cs := by
  rw [readDirect?, h]

variable {s : Stamp}

/-- What was read is what the form keeps of the stamp, and it names an instant. -/
theorem whole?_kept (hyear : s.FourDigitYear) (f : Form) {o : Offset} {r : Reading}
    (hr : r = (f.kept s).reading o.seconds) :
    whole? (some (r, [])) = some ((f.kept s).instant o.seconds) := by
  rw [hr]
  exact instant?_reading (Form.kept_fourDigitYear hyear f) o.seconds_bounds

section

variable (hyear : s.FourDigitYear)
include hyear

theorem readDirect?_day :
    readDirect? (Form.day.chars s) = some ((Form.day.kept s).instant 0) := by
  have hkept : whole? (some (dayReading s, [])) = some ((Form.day.kept s).instant 0) :=
    whole?_kept (o := .utc) hyear .day rfl
  have hlayouts := layouts_day s []
  rw [List.append_nil] at hlayouts
  have hsplit : afterDay = afterDay.dropLast ++ [[]] := rfl
  have hlonger : (afterDay.dropLast.findSome? fun layout =>
      whole? (readParts? layout (dayReading s) [])) = none := rfl
  rw [Form.chars, readDirect?_of_strict_none (readStrict?_day hyear), hlayouts, hsplit,
    List.findSome?_append, hlonger, Option.none_or, List.findSome?_singleton]
  exact hkept

theorem readDirect?_of_seconds_none (separator : Separator) {rest : List Char}
    (hrest : readSeconds? { s.reading 0 with second := 0, nanos := 0 } rest = none) :
    readDirect? (s.dayChars ++ separator.char :: (s.minuteChars ++ rest)) =
      (afterMinutes separator).findSome? fun layout =>
        whole? (readParts? layout (minuteReading s) rest) := by
  have hstrict := readStrict?_minutes hyear separator.char_eq rest
  rw [hrest] at hstrict
  rw [readDirect?_of_strict_none, layouts_time]
  simpa only [minuteChars, List.append_assoc, List.cons_append] using hstrict

theorem readDirect?_minutes_unmarked (separator : Separator) :
    readDirect? ((Form.minutes separator .unmarked).chars s) =
      some (((Form.minutes separator .unmarked).kept s).instant 0) := by
  have hkept : whole? (readParts? [] (minuteReading s) []) =
      some (((Form.minutes separator .unmarked).kept s).instant 0) :=
    whole?_kept (o := .utc) hyear (.minutes separator .unmarked) rfl
  have hnone : whole? none = none := rfl
  rw [Form.chars, Zone.chars, readDirect?_of_seconds_none hyear separator (readSeconds?_nil _)]
  cases separator with
  | letter =>
      simp only [afterMinutes, List.findSome?_cons, readParts?_offset_nil, readParts?_char_nil,
        hnone, hkept]
  | space =>
      simp only [afterMinutes, List.findSome?_cons, readParts?_offset_nil, readParts?_char_nil,
        hnone, hkept]

theorem readDirect?_minutes_offset (separator : Separator) (o : Offset) (colon : o.form = .colon) :
    readDirect? ((Form.minutes separator (.offset o colon)).chars s) =
      some (((Form.minutes separator (.offset o colon)).kept s).instant o.seconds) := by
  have hkept : whole? (readParts? [.offset] (minuteReading s) o.chars) =
      some (((Form.minutes separator (.offset o colon)).kept s).instant o.seconds) := by
    rw [readParts?_offset o colon]
    exact whole?_kept hyear (.minutes separator (.offset o colon)) rfl
  have hnone : whole? none = none := rfl
  rw [Form.chars, Zone.chars,
    readDirect?_of_seconds_none hyear separator (readSeconds?_offset _ o)]
  cases separator with
  | letter => simp only [afterMinutes, List.findSome?_cons, hkept]
  | space =>
      simp only [afterMinutes, List.findSome?_cons, readParts?_colon_offset, hnone, hkept]

theorem readDirect?_seconds_offset (separator : Separator) (o : Offset) (colon : o.form = .colon) :
    readDirect? ((Form.seconds separator (.offset o colon)).chars s) =
      some (s.instant o.seconds) := by
  have hstrict := readStrict?_clock hyear separator.char_eq o.sign_eq (padded 2 o.hours ++ o.tail)
  have hoffset := takeOffset?_of_colon colon
  rw [Offset.chars] at hoffset
  rw [hoffset] at hstrict
  have hread : readStrict? ((Form.seconds separator (.offset o colon)).chars s) =
      some (s.instant o.seconds) := hstrict.trans (instant?_reading hyear o.seconds_bounds)
  rw [readDirect?, hread]

/-- What the layouts are left with, where no zone follows the seconds. -/
theorem readDirect?_seconds_unmarked (separator : Separator) :
    readDirect? ((Form.seconds separator .unmarked).chars s) =
      (afterMinutes separator).findSome? fun layout => whole? (readParts? layout
        (minuteReading s) (':' :: (padded 2 s.second ++ s.fractionChars))) := by
  rw [← readDirect?_of_seconds_none hyear separator (readSeconds?_unmarked s _)]
  simp only [Form.chars, Zone.chars, clockChars_eq, List.append_nil, List.append_assoc,
    List.cons_append]

/-- Behind a space the seconds are read with their fraction. -/
theorem readDirect?_seconds_space :
    readDirect? ((Form.seconds .space .unmarked).chars s) = some (s.instant 0) := by
  have hkept : whole? (some ({ minuteReading s with second := s.second, nanos := s.nanos }, [])) =
      some (s.instant 0) := whole?_kept (o := .utc) hyear (.seconds .space .unmarked) rfl
  have hnone : whole? none = none := rfl
  rw [readDirect?_seconds_unmarked hyear]
  simp only [afterMinutes, List.findSome?_cons, readParts?_clockEnd, readParts?_offset_colon,
    readParts?_fraction s { minuteReading s with second := s.second } _ rfl,
    readParts?_offset_nil, hnone]
  by_cases hfraction : s.fraction = []
  · have hwhole : whole? (some ({ minuteReading s with second := s.second }, [])) =
        some (s.instant 0) := by
      apply whole?_kept (o := .utc) hyear (.seconds .space .unmarked)
      simp only [Form.kept, reading, nanos_of_no_fraction hfraction]
      rfl
    simp only [fractionChars_of_nil hfraction, readParts?, hwhole]
  · have hleft : s.fractionChars ≠ [] := by
      rw [fractionChars_of_ne_nil hfraction]
      exact List.cons_ne_nil _ _
    simp only [readParts?, whole?_of_ne_nil hleft, hkept]

/-- Behind a `T` only whole seconds are read at once. -/
theorem readDirect?_seconds_letter :
    readDirect? ((Form.seconds .letter .unmarked).chars s) =
      if s.fraction = [] then some (s.whole.instant 0) else none := by
  have hkept : whole? (some ({ minuteReading s with second := s.second }, [])) =
      some (s.whole.instant 0) := whole?_kept (o := .utc) hyear (.seconds .letter .unmarked) rfl
  have hnone : whole? none = none := rfl
  have hmore : ∀ r : Reading, whole? (readParts? [] r
      (':' :: (padded 2 s.second ++ s.fractionChars))) = none := fun _ => rfl
  rw [readDirect?_seconds_unmarked hyear]
  simp only [afterMinutes, List.findSome?_cons, List.findSome?_nil, readParts?_clockEnd,
    readParts?_offset_colon, hnone, hmore]
  by_cases hfraction : s.fraction = []
  · simp only [fractionChars_of_nil hfraction, readParts?, hkept, if_pos hfraction]
  · have hleft : s.fractionChars ≠ [] := by
      rw [fractionChars_of_ne_nil hfraction]
      exact List.cons_ne_nil _ _
    simp only [readParts?, whole?_of_ne_nil hleft, if_neg hfraction]

/-! ## 5. Whole texts -/

/-- Behind a `T` a fraction is dropped for the second attempt, which is at `+00:00`. -/
theorem readDirect?_secondAttempt (hfraction : s.fraction ≠ []) :
    readDirect? (secondAttempt ((Form.seconds .letter .unmarked).chars s)) =
      some (s.whole.instant 0) := by
  have hchars : (Form.seconds .letter .unmarked).chars s = s.chars := by
    simp only [Form.chars, Zone.chars, Stamp.chars, Stamp.head, Separator.char, List.append_nil,
      List.append_assoc, List.cons_append]
  have hplus : '+' ∉ s.chars := by
    intro h
    rcases List.mem_append.mp h with h | h
    · exact plus_notMem_head hyear h
    · rcases mem_fractionChars h with h | h
      · exact absurd h (by decide)
      · exact absurd h (by decide)
  have hT : 'T' ∈ s.chars := by simp [Stamp.chars, Stamp.head]
  have hhead := takeWhile_chars hfraction []
  have hwhole : s.whole.chars = s.head := List.append_nil _
  have hread := readDirect?_of_colon (s := s.whole) hyear (o := Offset.utc) rfl
  rw [List.append_nil] at hhead
  rw [hwhole, Offset.utc_chars, Offset.utc_seconds] at hread
  rw [hchars, secondAttempt_of_no_plus hplus hT, hhead, hread]

/-- A form without a `Z` is read at the first attempt or at the second. -/
theorem readDirect?_form (f : Form) (hzulu : f.expanded = f) :
    readDirect? (f.chars s) = some ((f.kept s).instant f.offset) ∨
      (readDirect? (f.chars s) = none ∧
        readDirect? (secondAttempt (f.chars s)) = some ((f.kept s).instant f.offset)) := by
  cases f with
  | day => exact Or.inl (readDirect?_day hyear)
  | minutes separator zone =>
      cases zone with
      | unmarked => exact Or.inl (readDirect?_minutes_unmarked hyear separator)
      | zulu => cases hzulu
      | offset o colon => exact Or.inl (readDirect?_minutes_offset hyear separator o colon)
  | seconds separator zone =>
      cases zone with
      | unmarked =>
          cases separator with
          | space => exact Or.inl (readDirect?_seconds_space hyear)
          | letter =>
              have hfirst := readDirect?_seconds_letter hyear
              by_cases hfraction : s.fraction = []
              · rw [if_pos hfraction] at hfirst
                exact Or.inl hfirst
              · rw [if_neg hfraction] at hfirst
                exact Or.inr ⟨hfirst, readDirect?_secondAttempt hyear hfraction⟩
      | zulu => cases hzulu
      | offset o colon =>
          have hread := readDirect?_seconds_offset hyear separator o colon
          cases separator with
          | letter => exact Or.inl hread
          | space => exact Or.inl hread

end

/-- **Every form of a stamp is read to the instant that it names**, with blanks around it or
without.  The days that the instant is made of are counted from the start of 1970, one for
each day of the calendar. -/
theorem read_form {s : Stamp} (hyear : s.FourDigitYear) (f : Form) {before after : List Char}
    (hbefore : ∀ c ∈ before, Text.isBlank c = true) (hafter : ∀ c ∈ after, Text.isBlank c = true) :
    Instant.read (String.ofList (before ++ f.chars s ++ after)) =
        .ok (some ((f.kept s).instant f.offset)) ∧
      Date.toDays ⟨1970, 1, 1⟩ = 0 ∧
      ∀ d : Date, d.isValid = true → d.next.isValid = true ∧ d.next.toDays = d.toDays + 1 := by
  refine ⟨?_, Date.toDays_epoch, fun d hd => ⟨Date.isValid_next hd, Date.toDays_next hd⟩⟩
  have hne : (f.chars s).isEmpty = false := by
    obtain ⟨front, last, hlast, hne, -⟩ := f.chars_eq_append s
    rw [hlast]
    simp [hne]
  have hdirect := readDirect?_form hyear f.expanded f.expanded_expanded
  rw [expanded_instant] at hdirect
  unfold Instant.read
  simp only [String.toList_ofList, trim_form s f hbefore hafter, hne, expandZulu_form]
  rcases hdirect with hfirst | ⟨hfirst, hsecond⟩
  · rw [hfirst]
    rfl
  · rw [hfirst, hsecond]
    rfl

/-! ### The end of a leap day -/

/-- The stamp `2000-02-29 23:59:59.25`. -/
def endOfLeapDay : Stamp where
  date := ⟨2000, 2, 29⟩
  hour := 23
  minute := 59
  second := 59
  fraction := ['2', '5']
  date_valid := by decide
  hour_lt := by decide
  minute_lt := by decide
  second_le := by decide
  fraction_isDigit := by simp

/-- Nine hours and a half behind universal time, the leap day ends on March 1. -/
def endOfLeapDayForm : Form :=
  .seconds .space (.offset
    { negative := true, hours := 9, minutes := 30, form := .colon
      hours_lt := by decide, minutes_lt := by decide, minutes_eq := by simp } rfl)

theorem read_form_endOfLeapDay :
    endOfLeapDay.FourDigitYear ∧
      endOfLeapDayForm.chars endOfLeapDay = "2000-02-29 23:59:59.25-09:30".toList ∧
      Instant.read " 2000-02-29 23:59:59.25-09:30\n" = .ok (some ⟨951902999, 250000000⟩) := by
  have hyear : endOfLeapDay.FourDigitYear := ⟨by decide, by decide⟩
  have hchars : endOfLeapDayForm.chars endOfLeapDay = "2000-02-29 23:59:59.25-09:30".toList := by
    decide +kernel
  have htext : String.ofList ([' '] ++ endOfLeapDayForm.chars endOfLeapDay ++ ['\n']) =
      " 2000-02-29 23:59:59.25-09:30\n" := by
    rw [hchars]
    decide +kernel
  have hblank : ∀ c ∈ [' '], Text.isBlank c = true :=
    List.forall_mem_singleton.mpr (by decide)
  have hnewline : ∀ c ∈ ['\n'], Text.isBlank c = true :=
    List.forall_mem_singleton.mpr (by decide)
  have hread := (read_form hyear endOfLeapDayForm hblank hnewline).1
  rw [htext] at hread
  refine ⟨hyear, hchars, hread.trans ?_⟩
  decide +kernel

end IncidentDigest.Instant
