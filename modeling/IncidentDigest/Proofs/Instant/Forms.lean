import IncidentDigest.Proofs.Calendar.Succession
import IncidentDigest.Proofs.Instant.Reading

/-!
# The forms of a timestamp

A timestamp is written as a day alone, or as a day and a time to the minute or to the second,
with a `T` or a space between them, and with a `Z`, an offset or nothing after them.  Every
form is read to the instant that it names, whatever blanks stand around it (`read_form`).
Only one form loses something: behind a `T`, a fraction is dropped unless a `Z` or an offset
follows it.

The proof goes over the layouts in the order in which they are tried.  What decides is the
first character after the day, and then what stands after the minutes: each layout before the
right one is refused at one of these two places.
-/

namespace IncidentDigest.Stamp

open Numeral

/-! ## 1. Forms -/

/-- What stands between day and time. -/
inductive Separator where
  | letter
  | space
  deriving DecidableEq, Repr

def Separator.char : Separator → Char
  | .letter => 'T'
  | .space => ' '

theorem Separator.char_eq (separator : Separator) : separator.char = 'T' ∨ separator.char = ' ' := by
  cases separator with
  | letter => exact Or.inl rfl
  | space => exact Or.inr rfl

/-- What says how far the written time is ahead of universal time. -/
inductive Zone where
  | unmarked
  | zulu
  | offset (o : Offset) (colon : o.form = .colon)

namespace Zone

def chars : Zone → List Char
  | unmarked => []
  | zulu => ['Z']
  | offset o _ => o.chars

def seconds : Zone → Int
  | unmarked => 0
  | zulu => 0
  | offset o _ => o.seconds

end Zone

/-- The hours and minutes of the time. -/
def minuteChars (s : Stamp) : List Char := padded 2 s.hour ++ ':' :: padded 2 s.minute

inductive Form where
  | day
  | minutes (separator : Separator) (zone : Zone)
  | seconds (separator : Separator) (zone : Zone)

namespace Form

def chars (s : Stamp) : Form → List Char
  | day => s.dayChars
  | minutes separator zone => s.dayChars ++ separator.char :: (s.minuteChars ++ zone.chars)
  | seconds separator zone =>
    s.dayChars ++ separator.char :: (s.clockChars ++ (s.fractionChars ++ zone.chars))

def offset : Form → Int
  | day => 0
  | minutes _ zone => zone.seconds
  | seconds _ zone => zone.seconds

/-- What a form keeps of a stamp. -/
def kept (s : Stamp) : Form → Stamp
  | day =>
    { s.whole with
      hour := 0, minute := 0, second := 0
      hour_lt := Nat.zero_lt_of_lt s.hour_lt
      minute_lt := Nat.zero_lt_of_lt s.minute_lt
      second_le := (Nat.zero_le s.second).trans s.second_le }
  | minutes _ _ =>
    { s.whole with second := 0, second_le := (Nat.zero_le s.second).trans s.second_le }
  | seconds .letter .unmarked => s.whole
  | seconds _ _ => s

/-- The form with its `Z` spelled as an offset. -/
def expanded : Form → Form
  | minutes separator .zulu => minutes separator (.offset .utc rfl)
  | seconds separator .zulu => seconds separator (.offset .utc rfl)
  | form => form

end Form

theorem Form.expanded_expanded (f : Form) : f.expanded.expanded = f.expanded := by
  cases f with
  | day => rfl
  | minutes separator zone => cases zone <;> rfl
  | seconds separator zone => cases zone <;> rfl

theorem Form.kept_fourDigitYear {s : Stamp} (hyear : s.FourDigitYear) (f : Form) :
    (f.kept s).FourDigitYear := by
  cases f with
  | day => exact hyear
  | minutes separator zone => exact hyear
  | seconds separator zone => cases separator <;> cases zone <;> exact hyear

/-! ## 2. Characters -/

theorem clockChars_eq (s : Stamp) : s.clockChars = s.minuteChars ++ ':' :: padded 2 s.second := by
  simp [clockChars, minuteChars]

theorem fractionChars_of_nil {s : Stamp} (h : s.fraction = []) : s.fractionChars = [] := if_pos h

theorem fractionChars_of_ne_nil {s : Stamp} (h : s.fraction ≠ []) :
    s.fractionChars = '.' :: s.fraction := if_neg h

theorem zulu_notMem (s : Stamp) :
    'Z' ∉ s.dayChars ∧ 'Z' ∉ s.minuteChars ∧ 'Z' ∉ s.clockChars ∧ 'Z' ∉ s.fractionChars := by
  have hhead : 'Z' ∉ s.head := notMem_head (by decide) (by decide)
  have hfraction : 'Z' ∉ s.fractionChars := by
    intro h
    rcases mem_fractionChars h with h | h
    · exact absurd h (by decide)
    · exact absurd h (by decide)
  simp only [head, clockChars_eq, List.mem_append, List.mem_cons, not_or] at hhead ⊢
  exact ⟨hhead.1, hhead.2.2.1, hhead.2.2, hfraction⟩

/-- No form ends in a blank. -/
theorem Form.chars_eq_append (s : Stamp) (f : Form) :
    ∃ front last, f.chars s = front ++ last ∧ last ≠ [] ∧ ∀ c ∈ last, Text.isBlank c = false := by
  have hdigits : ∀ {cs : List Char}, (∀ c ∈ cs, c.isDigit = true) →
      ∀ c ∈ cs, Text.isBlank c = false :=
    fun hcs c hc => Instant.isBlank_of_isDigit (hcs c hc)
  have hpadded : ∀ n, padded 2 n ≠ [] ∧ ∀ c ∈ padded 2 n, Text.isBlank c = false :=
    fun n => ⟨padded_ne_nil 2 n, hdigits (padded_isDigit 2 n)⟩
  have hzone : ∀ zone : Zone, zone = .unmarked ∨
      zone.chars ≠ [] ∧ ∀ c ∈ zone.chars, Text.isBlank c = false := by
    intro zone
    cases zone with
    | unmarked => exact Or.inl rfl
    | zulu => exact Or.inr (by simp [Zone.chars]; decide)
    | offset o colon =>
        refine Or.inr ⟨List.cons_ne_nil _ _, ?_⟩
        intro c hc
        exact (Instant.plain_text (s := s) (List.mem_append_right _ hc)).1
  cases f with
  | day =>
      refine ⟨Instant.yearText s.date.year ++ '-' :: padded 2 s.date.month ++ ['-'], _, ?_,
        hpadded s.date.day⟩
      simp [chars, dayChars]
  | minutes separator zone =>
      rcases hzone zone with rfl | hzone
      · refine ⟨s.dayChars ++ separator.char :: (padded 2 s.hour ++ [':']), _, ?_,
          hpadded s.minute⟩
        simp [chars, minuteChars, Zone.chars]
      · refine ⟨s.dayChars ++ separator.char :: s.minuteChars, _, ?_, hzone⟩
        simp [chars]
  | seconds separator zone =>
      rcases hzone zone with rfl | hzone
      · by_cases hfraction : s.fraction = []
        · refine ⟨s.dayChars ++ separator.char :: (s.minuteChars ++ [':']), _, ?_,
            hpadded s.second⟩
          simp [chars, clockChars_eq, fractionChars_of_nil hfraction, Zone.chars]
        · refine ⟨s.dayChars ++ separator.char :: (s.clockChars ++ ['.']), _, ?_, hfraction,
            hdigits s.fraction_isDigit⟩
          simp [chars, fractionChars_of_ne_nil hfraction, Zone.chars]
      · refine ⟨s.dayChars ++ separator.char :: (s.clockChars ++ s.fractionChars), _, ?_, hzone⟩
        simp [chars]

/-- A form starts with its year. -/
theorem Form.chars_eq_yearText (s : Stamp) (f : Form) :
    ∃ rest, f.chars s = Instant.yearText s.date.year ++ rest := by
  cases f <;> exact ⟨_, by simp only [chars, dayChars, List.append_assoc]; rfl⟩

end Stamp

namespace Instant

open Numeral Stamp

/-! ## 3. Blanks around a form -/

theorem trimStart_blanks {blanks : List Char} (h : ∀ c ∈ blanks, Text.isBlank c = true)
    (cs : List Char) : Text.trimStart (blanks ++ cs) = Text.trimStart cs :=
  List.dropWhile_append_of_pos h

theorem trimEnd_blanks {front last blanks : List Char} (hne : last ≠ [])
    (hlast : ∀ c ∈ last, Text.isBlank c = false) (h : ∀ c ∈ blanks, Text.isBlank c = true) :
    Text.trimEnd (front ++ last ++ blanks) = front ++ last := by
  have hkept : Text.trimStart (last.reverse ++ front.reverse) = last.reverse ++ front.reverse :=
    trimStart_append (by simpa using hlast) (by simpa using hne) _
  have hdropped : Text.trimStart (front ++ last ++ blanks).reverse =
      last.reverse ++ front.reverse := by
    rw [List.reverse_append, List.reverse_append, trimStart_blanks (by simpa using h), hkept]
  change (Text.trimStart (front ++ last ++ blanks).reverse).reverse = front ++ last
  rw [hdropped, List.reverse_append, List.reverse_reverse, List.reverse_reverse]

theorem trim_form (s : Stamp) (f : Form) {before after : List Char}
    (hbefore : ∀ c ∈ before, Text.isBlank c = true)
    (hafter : ∀ c ∈ after, Text.isBlank c = true) :
    Text.trim (before ++ f.chars s ++ after) = f.chars s := by
  obtain ⟨rest, hrest⟩ := f.chars_eq_yearText s
  obtain ⟨front, last, hlast, hne, hblank⟩ := f.chars_eq_append s
  have hstart : Text.trimStart (before ++ f.chars s ++ after) = f.chars s ++ after := by
    rw [List.append_assoc, trimStart_blanks hbefore, hrest, List.append_assoc,
      trimStart_yearText]
  rw [Text.trim, hstart, hlast, trimEnd_blanks hne hblank hafter]

theorem expandZulu_append (cs ds : List Char) :
    expandZulu (cs ++ ds) = expandZulu cs ++ expandZulu ds := List.flatMap_append

theorem expandZulu_form (s : Stamp) (f : Form) :
    expandZulu (f.chars s) = f.expanded.chars s := by
  obtain ⟨hday, hminute, hclock, hfraction⟩ := s.zulu_notMem
  have hcons : ∀ (separator : Separator) (cs : List Char),
      expandZulu (separator.char :: cs) = separator.char :: expandZulu cs := by
    intro separator cs
    cases separator <;> rfl
  have hzulu : expandZulu ['Z'] = Offset.utc.chars := by
    rw [Offset.utc_chars]
    rfl
  have hoffset : ∀ o : Offset, expandZulu o.chars = o.chars := by
    intro o
    apply expandZulu_eq_self
    intro h
    exact (plain_text (s := s) (List.mem_append_right _ h)).2 rfl
  cases f with
  | day => exact expandZulu_eq_self hday
  | minutes separator zone =>
      simp only [Form.chars, expandZulu_append, hcons, expandZulu_eq_self hday,
        expandZulu_eq_self hminute]
      cases zone with
      | unmarked => rfl
      | zulu => simp only [Zone.chars, hzulu]; rfl
      | offset o colon => simp only [Zone.chars, hoffset]; rfl
  | seconds separator zone =>
      simp only [Form.chars, expandZulu_append, hcons, expandZulu_eq_self hday,
        expandZulu_eq_self hclock, expandZulu_eq_self hfraction]
      cases zone with
      | unmarked => rfl
      | zulu => simp only [Zone.chars, hzulu]; rfl
      | offset o colon => simp only [Zone.chars, hoffset]; rfl

theorem expanded_instant (s : Stamp) (f : Form) :
    (f.expanded.kept s).instant f.expanded.offset = (f.kept s).instant f.offset := by
  cases f with
  | day => rfl
  | minutes separator zone => cases zone <;> rfl
  | seconds separator zone => cases separator <;> cases zone <;> rfl

end Instant
end IncidentDigest
