import IncidentDigest.Proofs.Instant.Canonical

/-!
# Reading undoes writing

The text of an instant has four digits for the year and six for what follows the second, so
it can hold an instant of the years 0 to 9999 in whole microseconds.  Each of these instants
is read from its text (`read_format_inverse`), a leap second included; no two of them have
the same text.
-/

namespace IncidentDigest.Instant

/-! ## 1. Instants that a text can hold -/

structure Expressible (t : Instant) : Prop where
  fourDigitYear : t.FourDigitYear
  nanos_lt : t.nanos < 2 * second
  leap : second ≤ t.nanos → t.seconds % 60 = 59
  microseconds_dvd : 1000 ∣ t.nanos

variable {t : Instant}

theorem toDays_utcDate (t : Instant) : t.utcDate.toDays = t.seconds / 86400 :=
  Date.toDays_ofDays _

theorem inRange_of_fourDigitYear (h : t.FourDigitYear) : inRange t.seconds = true := by
  have hvalid : t.utcDate.isValid = true := Date.isValid_ofDays _
  have hdays := Date.toDays_bounds_of_fourDigits hvalid h
  rw [toDays_utcDate] at hdays
  rw [inRange_iff]
  omega

theorem Expressible.wellFormed (h : t.Expressible) : t.WellFormed where
  inRange := inRange_of_fourDigitYear h.fourDigitYear
  nanos_lt := h.nanos_lt
  leap := h.leap

theorem truncated_eq_self_iff : t.truncated = t ↔ 1000 ∣ t.nanos := by
  obtain ⟨seconds, nanos⟩ := t
  simp only [truncated, mk.injEq, true_and]
  omega

/-! ## 2. The inverse -/

theorem read_format_of_expressible (h : t.Expressible) :
    Instant.read t.format = .ok (some t) := by
  have htruncated : t.truncated = t := truncated_eq_self_iff.mpr h.microseconds_dvd
  rw [read_format h.wellFormed h.fourDigitYear, htruncated]

/-- **Reading undoes writing** for every instant of the years 0 to 9999 in whole microseconds,
so that the text tells these instants apart. -/
theorem read_format_inverse :
    (∀ t : Instant, t.Expressible → Instant.read t.format = .ok (some t)) ∧
      Set.InjOn format {t | t.Expressible} := by
  constructor
  · intro t ht
    exact read_format_of_expressible ht
  · intro t ht u hu heq
    have hread := read_format_of_expressible hu
    rw [← heq, read_format_of_expressible ht] at hread
    exact Option.some.inj (Except.ok.inj hread)

/-- The leap second at the end of 2016, a quarter of it gone. -/
def inLeapSecond : Instant := ⟨1483228799, 1250000000⟩

theorem read_format_inLeapSecond :
    inLeapSecond.Expressible ∧ inLeapSecond.format = "2016-12-31T23:59:60.250000+00:00" ∧
      Instant.read inLeapSecond.format = .ok (some inLeapSecond) ∧
      inLeapSecond ∈ {t : Instant | t.Expressible} := by
  have h : inLeapSecond.Expressible := by
    constructor
    · decide +kernel
    · decide
    · decide
    · decide
  exact ⟨h, by decide +kernel, read_format_inverse.1 inLeapSecond h, h⟩

end IncidentDigest.Instant
