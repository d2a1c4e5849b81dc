import IncidentDigest.Calendar
import Mathlib

/-!
# Numbered days

The date of a numbered day is a date of the calendar, and its number is that day
(`isValid_ofDays`, `toDays_ofDays`).  A year is found by taking out cycles of 400, 100, 4
years and 1 year, and a month by taking out the months before it.
-/

namespace IncidentDigest.Date

/-! ## 1. Months -/

/-- The month is found by going over the months before the day. -/
theorem findMonth_eq (lengths : List Nat) (month day : Nat) (h : day < lengths.sum) :
    ∃ i length, lengths[i]? = some length ∧ (lengths.take i).sum ≤ day ∧
      day < (lengths.take i).sum + length ∧
      findMonth lengths month day = (month + i, day - (lengths.take i).sum + 1) := by
  induction lengths generalizing month day with
  | nil => exact absurd h (Nat.not_lt_zero day)
  | cons length rest ih =>
      rw [findMonth]
      by_cases hday : day < length
      · refine ⟨0, length, rfl, ?_, ?_, ?_⟩
        · exact Nat.zero_le day
        · simpa using hday
        · rw [if_pos hday]
          rfl
      · rw [List.sum_cons] at h
        obtain ⟨i, found, hfound, hle, hlt, heq⟩ := ih (month + 1) (day - length) (by omega)
        refine ⟨i + 1, found, ?_, ?_, ?_, ?_⟩
        · rw [List.getElem?_cons_succ, hfound]
        · rw [List.take_succ_cons, List.sum_cons]
          omega
        · rw [List.take_succ_cons, List.sum_cons]
          omega
        · rw [if_neg hday, heq, List.take_succ_cons, List.sum_cons, Prod.mk.injEq]
          omega

theorem sum_monthLengths (leap : Bool) :
    (monthLengths leap).sum = if leap then 366 else 365 := by
  cases leap <;> decide

theorem monthLengths_le {leap : Bool} {i length : Nat} (h : (monthLengths leap)[i]? = some length) :
    i < 12 ∧ length ≤ 31 := by
  obtain ⟨hi, rfl⟩ := List.getElem?_eq_some_iff.mp h
  have hall : ∀ length ∈ monthLengths leap, length ≤ 31 := by
    cases leap <;> decide
  exact ⟨hi, hall _ (List.getElem_mem hi)⟩

/-- The months and days of valid dates have two digits. -/
theorem bounds_of_isValid {d : Date} (h : d.isValid = true) :
    1 ≤ d.month ∧ d.month ≤ 12 ∧ 1 ≤ d.day ∧ d.day ≤ 31 := by
  unfold isValid at h
  split at h
  · rename_i length hlength
    obtain ⟨hmonth, hday⟩ := monthLengths_le hlength
    simp only [Bool.and_eq_true, decide_eq_true_eq] at h
    omega
  · cases h

/-! ## 2. Years -/

/-- A year by its place in the cycles: 400 years, 100 years, 4 years, and the year in them
from 0. -/
structure Place where
  era : Int
  century : Nat
  olympiad : Nat
  yearOf : Nat
  century_le : century ≤ 3
  olympiad_le : olympiad ≤ 24
  yearOf_le : yearOf ≤ 3

def Place.year (p : Place) : Int :=
  400 * p.era + (100 * p.century + 4 * p.olympiad + p.yearOf + 1 : Nat)

/-- Only the last year of a cycle of four is leap, and of those that end a century only the
last of four. -/
theorem Place.isLeapYear_year (p : Place) :
    isLeapYear p.year = true ↔ p.yearOf = 3 ∧ (p.olympiad = 24 → p.century = 3) := by
  have hcentury := p.century_le
  have holympiad := p.olympiad_le
  have hyear := p.yearOf_le
  unfold isLeapYear Place.year
  simp only [Bool.and_eq_true, Bool.or_eq_true, beq_iff_eq, bne_iff_ne]
  omega

theorem Place.daysBeforeYear_year (p : Place) :
    daysBeforeYear p.year =
      146097 * p.era + (36524 * p.century + 1461 * p.olympiad + 365 * p.yearOf : Nat) := by
  have hcentury := p.century_le
  have holympiad := p.olympiad_le
  have hyear := p.yearOf_le
  have hfour : (p.year - 1) / 4 = 100 * p.era + (25 * p.century + p.olympiad : Nat) := by
    unfold Place.year
    omega
  have hhundred : (p.year - 1) / 100 = 4 * p.era + p.century := by
    unfold Place.year
    omega
  have hcycle : (p.year - 1) / 400 = p.era := by
    unfold Place.year
    omega
  unfold daysBeforeYear
  dsimp only
  rw [hfour, hhundred, hcycle]
  unfold Place.year
  omega

/-- Every day lies in a year: it is the date of that year that the days before the year
leave over. -/
theorem ofDays_eq (days : Int) :
    ∃ (p : Place) (dayOfYear : Nat),
      days + epochDays = daysBeforeYear p.year + dayOfYear ∧
      dayOfYear < (monthLengths (isLeapYear p.year)).sum ∧
      ofDays days =
        ⟨p.year, (findMonth (monthLengths (isLeapYear p.year)) 1 dayOfYear).1,
          (findMonth (monthLengths (isLeapYear p.year)) 1 dayOfYear).2⟩ := by
  let n := days + epochDays
  let inEra := (n % 146097).toNat
  let century := min (inEra / 36524) 3
  let inCentury := inEra - century * 36524
  let olympiad := inCentury / 1461
  let inOlympiad := inCentury - olympiad * 1461
  let yearOf := min (inOlympiad / 365) 3
  have hera : (inEra : Int) = n % 146097 := by omega
  have hin : inEra < 146097 := by omega
  -- only the last century of an era and the last year of a cycle of four have a day more
  have hcentury : century ≤ 3 ∧ inEra = 36524 * century + inCentury ∧
      inCentury ≤ 36524 ∧ (inCentury = 36524 → century = 3) := by omega
  have holympiad : olympiad ≤ 24 ∧ inCentury = 1461 * olympiad + inOlympiad ∧
      inOlympiad ≤ 1460 := by omega
  have hyear : yearOf ≤ 3 ∧ inOlympiad = 365 * yearOf + (inOlympiad - yearOf * 365) ∧
      inOlympiad - yearOf * 365 ≤ 365 ∧ (inOlympiad - yearOf * 365 = 365 → yearOf = 3) := by
    omega
  let p : Place := ⟨n / 146097, century, olympiad, yearOf, hcentury.1, holympiad.1, hyear.1⟩
  refine ⟨p, inOlympiad - yearOf * 365, ?_, ?_, rfl⟩
  · rw [p.daysBeforeYear_year]
    change n = 146097 * (n / 146097) + (36524 * century + 1461 * olympiad + 365 * yearOf : Nat) + _
    omega
  · have hleap := p.isLeapYear_year
    change _ ↔ yearOf = 3 ∧ (olympiad = 24 → century = 3) at hleap
    rw [sum_monthLengths]
    split
    · omega
    · rename_i hcommon
      have := mt hleap.mpr hcommon
      omega

/-! ## 3. Dates and days -/

theorem toDays_eq (d : Date) :
    d.toDays = daysBeforeYear d.year +
      (((monthLengths (isLeapYear d.year)).take (d.month - 1)).sum + (d.day - 1) : Nat) -
        epochDays := by
  unfold toDays
  rw [List.sum]
  dsimp only
  omega

/-- **Every day has a date**, and the date has the number of the day. -/
theorem toDays_ofDays (days : Int) : (ofDays days).toDays = days := by
  obtain ⟨p, dayOfYear, hday, hlt, heq⟩ := ofDays_eq days
  obtain ⟨i, length, -, hle, -, hmonth⟩ := findMonth_eq _ 1 dayOfYear hlt
  have hindex : 1 + i - 1 = i := by omega
  rw [heq, hmonth, toDays_eq]
  dsimp only
  rw [hindex]
  omega

theorem isValid_ofDays (days : Int) : (ofDays days).isValid = true := by
  obtain ⟨p, dayOfYear, -, hlt, heq⟩ := ofDays_eq days
  obtain ⟨i, length, hlength, hle, hlt', hmonth⟩ := findMonth_eq _ 1 dayOfYear hlt
  have hindex : 1 + i - 1 = i := by omega
  rw [heq, hmonth]
  unfold isValid
  dsimp only
  rw [hindex, hlength]
  simp only [Bool.and_eq_true, decide_eq_true_eq]
  omega

/-- A valid date lies in its year. -/
theorem toDays_bounds {d : Date} (h : d.isValid = true) :
    daysBeforeYear d.year - epochDays ≤ d.toDays ∧
      d.toDays < daysBeforeYear d.year + 366 - epochDays := by
  have hyear : ∀ leap : Bool, ∀ i < 12,
      ((monthLengths leap).take i).sum + (monthLengths leap)[i]?.getD 0 ≤ 366 := by decide
  obtain ⟨hmonth, hmonth', hday, -⟩ := bounds_of_isValid h
  have hfits := hyear (isLeapYear d.year) (d.month - 1) (by omega)
  rw [toDays_eq]
  unfold isValid at h
  split at h
  · rename_i length hlength
    rw [hlength, Option.getD_some] at hfits
    simp only [Bool.and_eq_true, decide_eq_true_eq] at h
    omega
  · cases h

/-- The dates of years with four digits lie far within the range of instants. -/
theorem toDays_bounds_of_fourDigits {d : Date} (hvalid : d.isValid = true)
    (hyear : 0 ≤ d.year ∧ d.year ≤ 9999) : -719529 ≤ d.toDays ∧ d.toDays ≤ 2932897 := by
  obtain ⟨hfirst, hlast⟩ := toDays_bounds hvalid
  unfold daysBeforeYear epochDays at hfirst hlast
  dsimp only at hfirst hlast
  omega

end IncidentDigest.Date
