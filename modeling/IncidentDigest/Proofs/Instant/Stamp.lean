import IncidentDigest.Instant.Reader
import IncidentDigest.Proofs.Calendar.Days
import IncidentDigest.Proofs.Numeral.Padded

/-!
# Written dates and times

A *stamp* is a valid date and a time of day as they are written, `YYYY-MM-DDTHH:MM:SS`
with or without the digits of a fraction; an *offset* follows it in one of three
spellings.  What a stamp with an offset means is defined here on the numbers alone: the
local time that is written, less the offset.
-/

namespace IncidentDigest

open Numeral

/-! ## 1. Stamps -/

/-- Second 60 is a leap second.  No digits mean that no fraction is written. -/
structure Stamp where
  date : Date
  hour : Nat
  minute : Nat
  second : Nat
  fraction : List Char
  date_valid : date.isValid = true
  hour_lt : hour < 24
  minute_lt : minute < 60
  second_le : second ≤ 60
  fraction_isDigit : ∀ c ∈ fraction, c.isDigit = true

namespace Stamp

/-- Other years are written with a sign. -/
def FourDigitYear (s : Stamp) : Prop := 0 ≤ s.date.year ∧ s.date.year ≤ 9999

def dayChars (s : Stamp) : List Char :=
  Instant.yearText s.date.year ++ '-' :: padded 2 s.date.month ++ '-' :: padded 2 s.date.day

def clockChars (s : Stamp) : List Char :=
  padded 2 s.hour ++ ':' :: padded 2 s.minute ++ ':' :: padded 2 s.second

/-- The date and the time, without the fraction. -/
def head (s : Stamp) : List Char := s.dayChars ++ 'T' :: s.clockChars

def fractionChars (s : Stamp) : List Char :=
  if s.fraction = [] then [] else '.' :: s.fraction

def chars (s : Stamp) : List Char := s.head ++ s.fractionChars

/-- The stamp without its fraction. -/
def whole (s : Stamp) : Stamp :=
  { s with fraction := [], fraction_isDigit := fun _ hc => absurd hc List.not_mem_nil }

/-- The fraction in nanoseconds: its first nine digits, filled up with zeros. -/
def nanos (s : Stamp) : Nat := value ((s.fraction ++ List.replicate 9 '0').take 9)

/-- The local time less the offset.  A leap second follows second 59. -/
def instant (s : Stamp) (offset : Int) : Instant where
  seconds := s.date.toDays * Instant.daySeconds +
    (s.hour * 3600 + s.minute * 60 + min s.second 59 : Nat) - offset
  nanos := (if s.second = 60 then Instant.second else 0) + s.nanos

theorem nanos_eq (s : Stamp) :
    s.nanos = value (s.fraction.take 9) * 10 ^ (9 - (s.fraction.take 9).length) := by
  have hzeros : (List.replicate 9 '0').take (9 - s.fraction.length) =
      List.replicate (9 - (s.fraction.take 9).length) '0' := by
    rw [List.take_replicate, List.length_take]
    congr 1
    omega
  rw [nanos, List.take_append, hzeros, value_append, value_replicate_zero,
    List.length_replicate, Nat.add_zero]

/-- What is to be read of a stamp, and of an offset after it. -/
def reading (s : Stamp) (offset : Int) : Instant.Reading where
  year := s.date.year
  month := s.date.month
  day := s.date.day
  hour := s.hour
  minute := s.minute
  second := s.second
  nanos := s.nanos
  offset := offset

/-! ## 2. Offsets -/

inductive OffsetForm where
  /-- Hours and minutes with a colon between them. -/
  | colon
  /-- Hours and minutes. -/
  | joined
  /-- Hours alone. -/
  | hours
  deriving DecidableEq, Repr

structure Offset where
  negative : Bool
  hours : Nat
  minutes : Nat
  form : OffsetForm
  hours_lt : hours < 24
  minutes_lt : minutes < 60
  minutes_eq : form = .hours → minutes = 0

namespace Offset

def sign (o : Offset) : Char := if o.negative then '-' else '+'

/-- What follows the hours. -/
def tail (o : Offset) : List Char :=
  match o.form with
  | .colon => ':' :: padded 2 o.minutes
  | .joined => padded 2 o.minutes
  | .hours => []

def chars (o : Offset) : List Char := o.sign :: (padded 2 o.hours ++ o.tail)

/-- How far the written time is ahead of universal time. -/
def seconds (o : Offset) : Int :=
  if o.negative then -(o.hours * 3600 + o.minutes * 60 : Nat)
  else (o.hours * 3600 + o.minutes * 60 : Nat)

/-- The offset `+00:00`. -/
def utc : Offset where
  negative := false
  hours := 0
  minutes := 0
  form := .colon
  hours_lt := by decide
  minutes_lt := by decide
  minutes_eq _ := rfl

theorem padded_two_zero : padded 2 0 = ['0', '0'] := by
  rw [padded, digits]
  rfl

theorem utc_chars : utc.chars = ['+', '0', '0', ':', '0', '0'] := by
  change '+' :: (padded 2 0 ++ ':' :: padded 2 0) = _
  rw [padded_two_zero]
  rfl

theorem utc_seconds : utc.seconds = 0 := rfl

theorem sign_eq (o : Offset) : o.sign = '+' ∨ o.sign = '-' := by
  unfold sign
  split
  · exact Or.inr rfl
  · exact Or.inl rfl

theorem seconds_bounds (o : Offset) : -86400 < o.seconds ∧ o.seconds < 86400 := by
  have hhours := o.hours_lt
  have hminutes := o.minutes_lt
  unfold seconds
  split <;> omega

end Offset

/-- The text of a stamp with an offset. -/
def text (s : Stamp) (o : Offset) : String := String.ofList (s.chars ++ o.chars)

/-! ## 3. Characters -/

theorem isDigit_of_mem_yearText {year : Int} (h : 0 ≤ year ∧ year ≤ 9999) :
    ∀ c ∈ Instant.yearText year, c.isDigit = true := by
  unfold Instant.yearText
  rw [if_pos (by simpa using h)]
  exact padded_isDigit _ _

theorem mem_yearText {year : Int} {c : Char} (h : c ∈ Instant.yearText year) :
    c.isDigit = true ∨ c = '-' ∨ c = '+' := by
  unfold Instant.yearText at h
  split at h
  · exact Or.inl (padded_isDigit _ _ c h)
  · rcases List.mem_cons.mp h with rfl | h
    · split
      · exact Or.inr (Or.inl rfl)
      · exact Or.inr (Or.inr rfl)
    · exact Or.inl (padded_isDigit _ _ c h)

/-- Apart from the year, date and time consist of digits and of three other characters. -/
theorem mem_head {s : Stamp} {c : Char} (h : c ∈ s.head) :
    c ∈ Instant.yearText s.date.year ∨ c.isDigit = true ∨ c ∈ ['-', ':', 'T'] := by
  have hdigits : ∀ n, c ∈ padded 2 n → c.isDigit = true := fun n => padded_isDigit 2 n c
  simp only [head, dayChars, clockChars, List.mem_append, List.mem_cons] at h
  rcases h with ((h | rfl | h) | rfl | h) | rfl | (h | rfl | h) | rfl | h
  all_goals first
    | exact Or.inl h
    | exact Or.inr (Or.inl (hdigits _ h))
    | exact Or.inr (Or.inr (by decide))

theorem notMem_head {s : Stamp} {c : Char} (hdigit : c.isDigit = false)
    (hc : c ∉ ['-', '+', ':', 'T']) : c ∉ s.head := by
  intro h
  rcases mem_head h with h | h | h
  · rcases mem_yearText h with h | rfl | rfl
    · rw [hdigit] at h
      cases h
    · exact hc (by decide)
    · exact hc (by decide)
  · rw [hdigit] at h
    cases h
  · exact hc (by revert h; simp only [List.mem_cons]; tauto)

theorem point_notMem_head (s : Stamp) : '.' ∉ s.head := notMem_head (by decide) (by decide)

theorem plus_notMem_head {s : Stamp} (h : s.FourDigitYear) : '+' ∉ s.head := by
  intro hplus
  rcases mem_head hplus with hplus | hplus | hplus
  · exact absurd (isDigit_of_mem_yearText h _ hplus) (by decide)
  · exact absurd hplus (by decide)
  · exact absurd hplus (by decide)

theorem mem_fractionChars {s : Stamp} {c : Char} (h : c ∈ s.fractionChars) :
    c.isDigit = true ∨ c = '.' := by
  unfold fractionChars at h
  split at h
  · exact absurd h List.not_mem_nil
  · rcases List.mem_cons.mp h with rfl | h
    · exact Or.inr rfl
    · exact Or.inl (s.fraction_isDigit c h)

theorem mem_offsetChars {o : Offset} {c : Char} (h : c ∈ o.chars) :
    c.isDigit = true ∨ c = o.sign ∨ c = ':' := by
  unfold Offset.chars Offset.tail at h
  rcases List.mem_cons.mp h with rfl | h
  · exact Or.inr (Or.inl rfl)
  · rcases List.mem_append.mp h with h | h
    · exact Or.inl (padded_isDigit _ _ c h)
    · split at h
      · rcases List.mem_cons.mp h with rfl | h
        · exact Or.inr (Or.inr rfl)
        · exact Or.inl (padded_isDigit _ _ c h)
      · exact Or.inl (padded_isDigit _ _ c h)
      · exact absurd h List.not_mem_nil

theorem notMem_offsetChars {o : Offset} {c : Char} (hdigit : c.isDigit = false)
    (hsign : c ≠ o.sign) (hcolon : c ≠ ':') : c ∉ o.chars := by
  intro h
  rcases mem_offsetChars h with h | h | h
  · rw [hdigit] at h
    cases h
  · exact hsign h
  · exact hcolon h

theorem point_notMem_offsetChars (o : Offset) : '.' ∉ o.chars := by
  apply notMem_offsetChars (by decide)
  · rcases o.sign_eq with hsign | hsign
    · rw [hsign]
      decide
    · rw [hsign]
      decide
  · decide

end Stamp
end IncidentDigest
