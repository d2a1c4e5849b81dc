import IncidentDigest.Proofs.Calendar.Days

/-!
# Dates one after another

The number of a date is the number of days from 1970-01-01 to it: this date is day 0, and
the day after a date has the next number (`toDays_next`).  The day after is found by the
rules of the calendar alone, from the lengths of the months.
-/

namespace IncidentDigest.Date

/-- The number of days in the month of a date; none where there is no such month. -/
def monthLength (d : Date) : Nat := (monthLengths (isLeapYear d.year)).getD (d.month - 1) 0

/-- The day after. -/
def next (d : Date) : Date :=
  if d.day < d.monthLength then ⟨d.year, d.month, d.day + 1⟩
  else if d.month < 12 then ⟨d.year, d.month + 1, 1⟩
  else ⟨d.year + 1, 1, 1⟩

theorem isValid_iff (d : Date) :
    d.isValid = true ↔ 1 ≤ d.month ∧ d.month ≤ 12 ∧ 1 ≤ d.day ∧ d.day ≤ d.monthLength := by
  unfold isValid monthLength
  rw [List.getD_eq_getElem?_getD]
  cases hlength : (monthLengths (isLeapYear d.year))[d.month - 1]? with
  | none =>
      simp only [Bool.false_eq_true, Option.getD_none, false_iff]
      omega
  | some length =>
      have hmonth := (monthLengths_le hlength).1
      simp only [Bool.and_eq_true, decide_eq_true_eq, Option.getD_some]
      omega

theorem one_le_monthLength {d : Date} (h : d.month ≤ 12) : 1 ≤ d.monthLength := by
  have hall : ∀ leap : Bool, ∀ i < 12, 1 ≤ (monthLengths leap).getD i 0 := by decide
  exact hall (isLeapYear d.year) (d.month - 1) (by omega)

theorem isValid_next {d : Date} (h : d.isValid = true) : d.next.isValid = true := by
  rw [isValid_iff] at h
  obtain ⟨hfirst, hlast, hday, -⟩ := h
  unfold next
  split
  · rename_i hwithin
    exact (isValid_iff _).mpr ⟨hfirst, hlast, Nat.le_add_left 1 d.day, hwithin⟩
  · split
    · rename_i hmonth
      have hlength : 1 ≤ (Date.mk d.year (d.month + 1) 1).monthLength := one_le_monthLength hmonth
      exact (isValid_iff _).mpr ⟨Nat.le_add_left 1 d.month, hmonth, le_refl 1, hlength⟩
    · have hlength : 1 ≤ (Date.mk (d.year + 1) 1 1).monthLength := by
        apply one_le_monthLength
        exact Nat.le_add_left 1 11
      exact (isValid_iff _).mpr ⟨le_refl 1, Nat.le_add_left 1 11, le_refl 1, hlength⟩

theorem daysBeforeYear_add_one (year : Int) :
    daysBeforeYear (year + 1) =
      daysBeforeYear year + (monthLengths (isLeapYear year)).sum := by
  rw [sum_monthLengths]
  cases hleap : isLeapYear year with
  | true =>
      simp [isLeapYear] at hleap
      simp only [daysBeforeYear, if_true]
      omega
  | false =>
      simp [isLeapYear] at hleap
      simp only [daysBeforeYear, if_neg (by decide : ¬ false = true)]
      omega

/-- The months up to the end of a month. -/
theorem sum_take_month {d : Date} (h : d.isValid = true) :
    ((monthLengths (isLeapYear d.year)).take d.month).sum =
      ((monthLengths (isLeapYear d.year)).take (d.month - 1)).sum + d.monthLength := by
  obtain ⟨hfirst, hlast, -, -⟩ := bounds_of_isValid h
  have hall : ∀ leap : Bool, ∀ i < 12, ((monthLengths leap).take (i + 1)).sum =
      ((monthLengths leap).take i).sum + (monthLengths leap).getD i 0 := by decide
  have hmonth := hall (isLeapYear d.year) (d.month - 1) (by omega)
  rw [Nat.sub_add_cancel hfirst] at hmonth
  exact hmonth

theorem toDays_epoch : toDays ⟨1970, 1, 1⟩ = 0 := by decide +kernel

/-- **The day after has the next number.** -/
theorem toDays_next {d : Date} (h : d.isValid = true) : d.next.toDays = d.toDays + 1 := by
  obtain ⟨hfirst, hlast, hday, hlength⟩ := (isValid_iff d).mp h
  have hmonths := sum_take_month h
  rw [toDays_eq, toDays_eq]
  unfold next
  split
  · dsimp only
    omega
  · split
    · dsimp only
      rw [Nat.add_sub_cancel]
      omega
    · -- the last day of the last month
      have hall : (monthLengths (isLeapYear d.year)).take d.month =
          monthLengths (isLeapYear d.year) := List.take_of_length_le (by simp [monthLengths]; omega)
      rw [hall] at hmonths
      dsimp only
      rw [daysBeforeYear_add_one, hmonths]
      simp only [Nat.sub_self, List.take_zero, List.sum_nil]
      omega

end IncidentDigest.Date
