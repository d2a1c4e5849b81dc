import IncidentDigest.Proofs.Instant.Inverse
import IncidentDigest.Window

/-!
# Which windows exist

Three things can refuse a window: a length that is not positive, a length that is no span of
time, and a start before the earliest instant.  The longest span is longer than the whole
range of instants, so the second never decides: a window exists exactly if its length is
positive and its start lies in the range (`endingAt_eq`).  Both ends are instants with the
same nanoseconds, so their texts are as far apart as they are (`endingAt_spec`).
-/

namespace IncidentDigest.TimeWindow

open Instant

/-- The instant some minutes earlier, on a clock without leap seconds. -/
def minutesEarlier (t : Instant) (minutes : Int) : Instant := ⟨t.seconds - 60 * minutes, t.nanos⟩

/-- A positive length whose start is not before the earliest instant. -/
def Fits (stop : Instant) (minutes : Int) : Prop :=
  1 ≤ minutes ∧ minSeconds ≤ (minutesEarlier stop minutes).seconds

variable {stop : Instant} {minutes : Int}

/-! ## 1. The start -/

/-- Every start in the range is less than the longest span away. -/
theorem span_le_of_fits (hstop : inRange stop.seconds = true) (h : Fits stop minutes) :
    minutes * 60 ≤ maxSpanSeconds := by
  have hmin : minSeconds = -8334601228800 := by decide +kernel
  have hspan : maxSpanSeconds = 9223372036854775 := by decide
  obtain ⟨-, hstart⟩ := h
  simp only [minutesEarlier] at hstart
  rw [inRange_iff] at hstop
  omega

theorem inRange_start_iff (hstop : inRange stop.seconds = true) (hpositive : 0 < minutes) :
    inRange (minutesEarlier stop minutes).seconds = true ↔
      minSeconds ≤ (minutesEarlier stop minutes).seconds := by
  have hmin : minSeconds = -8334601228800 := by decide +kernel
  rw [inRange_iff] at hstop ⊢
  rw [hmin]
  simp only [minutesEarlier]
  omega

instance : Decidable (Fits stop minutes) := inferInstanceAs (Decidable (_ ∧ _))

/-- **The start of a window**, which is there exactly if the window fits. -/
theorem minutesBefore?_eq (hstop : inRange stop.seconds = true) (hnanos : stop.nanos < second) :
    minutesBefore? stop minutes =
      if Fits stop minutes then some (minutesEarlier stop minutes) else none := by
  have hwhole : ¬ second ≤ stop.nanos := Nat.not_le.mpr hnanos
  have hstart : stop.seconds - minutes * 60 = (minutesEarlier stop minutes).seconds := by
    rw [minutesEarlier, Int.mul_comm]
  simp only [minutesBefore?, if_neg hwhole, hstart]
  by_cases hfits : Fits stop minutes
  · have hpositive : 0 < minutes := hfits.1
    have hspan : minutes * 60 ≤ maxSpanSeconds := span_le_of_fits hstop hfits
    have hrange := (inRange_start_iff hstop hpositive).mpr hfits.2
    rw [if_pos hfits, if_pos (by simp [hpositive, hspan]), if_pos hrange]
    rfl
  · rw [if_neg hfits]
    split
    · rename_i hguard
      have hpositive : 0 < minutes := by
        simp only [Bool.and_eq_true, decide_eq_true_eq] at hguard
        exact hguard.1
      apply if_neg
      intro hrange
      exact hfits ⟨hpositive, (inRange_start_iff hstop hpositive).mp hrange⟩
    · rfl

theorem endingAt_eq (hstop : inRange stop.seconds = true) (hnanos : stop.nanos < second) :
    endingAt stop minutes =
      if Fits stop minutes then .ok ⟨(minutesEarlier stop minutes).format, stop.format⟩
      else .error (.windowOutOfRange minutes) := by
  rw [endingAt, minutesBefore?_eq hstop hnanos]
  by_cases hfits : Fits stop minutes
  · simp only [if_pos hfits]
  · simp only [if_neg hfits]

theorem endingAt_eq_ok_iff (hstop : inRange stop.seconds = true) (hnanos : stop.nanos < second)
    {window : TimeWindow} :
    endingAt stop minutes = .ok window ↔
      Fits stop minutes ∧ window = ⟨(minutesEarlier stop minutes).format, stop.format⟩ := by
  rw [endingAt_eq hstop hnanos]
  by_cases hfits : Fits stop minutes
  · simp [hfits, eq_comm]
  · simp [hfits]

/-- A shorter window fits where a longer one does. -/
theorem Fits.shorter {shorter : Int} (h : Fits stop minutes) (hpositive : 1 ≤ shorter)
    (hle : shorter ≤ minutes) : Fits stop shorter := by
  obtain ⟨-, hstart⟩ := h
  simp only [minutesEarlier] at hstart
  constructor
  · exact hpositive
  · simp only [minutesEarlier]
    omega

/-! ## 2. The texts -/

theorem truncated_minutesEarlier (t : Instant) (minutes : Int) :
    (minutesEarlier t minutes).truncated = minutesEarlier t.truncated minutes := rfl

theorem wellFormed_of_lt {t : Instant} (hrange : inRange t.seconds = true)
    (hnanos : t.nanos < second) : t.WellFormed where
  inRange := hrange
  nanos_lt := by omega
  leap hleap := absurd hleap (Nat.not_le.mpr hnanos)

theorem read_window (hstop : inRange stop.seconds = true) (hnanos : stop.nanos < second)
    {window : TimeWindow} (h : endingAt stop minutes = .ok window)
    (hfirst : (minutesEarlier stop minutes).FourDigitYear) (hlast : stop.FourDigitYear) :
    Instant.read window.start = .ok (some (minutesEarlier stop.truncated minutes)) ∧
      Instant.read window.stop = .ok (some stop.truncated) := by
  obtain ⟨-, rfl⟩ := (endingAt_eq_ok_iff hstop hnanos).mp h
  have hstart := inRange_of_fourDigitYear hfirst
  constructor
  · rw [← truncated_minutesEarlier]
    exact read_format (wellFormed_of_lt hstart hnanos) hfirst
  · exact read_format (wellFormed_of_lt hstop hnanos) hlast

/-! ## 3. Windows -/

/-- **Which windows there are, and what they say.**  For an end that is no leap second and any
number of minutes: the window exists exactly if there is at least one minute and the start is
not before the earliest instant, and then its length in milliseconds fits into a signed
number of 64 bits; otherwise it is refused with that number of minutes.  With a window there
are all shorter ones.  And if both ends lie in the years 0 to 9999, they are read back
exactly as many minutes apart, the last one as the end cut to its microseconds. -/
theorem endingAt_spec {stop : Instant} (hstop : inRange stop.seconds = true)
    (hnanos : stop.nanos < second) (minutes : Int) :
    ((∃ window, endingAt stop minutes = .ok window) ↔
      1 ≤ minutes ∧ minSeconds ≤ stop.seconds - 60 * minutes) ∧
    ((∃ window, endingAt stop minutes = .ok window) →
      minutes * 60 * 1000 < Numeral.signedBound) ∧
    ((∀ window, endingAt stop minutes ≠ .ok window) →
      endingAt stop minutes = .error (.windowOutOfRange minutes)) ∧
    (∀ shorter, 1 ≤ shorter → shorter ≤ minutes →
      (∃ window, endingAt stop minutes = .ok window) →
        ∃ window, endingAt stop shorter = .ok window) ∧
    (∀ window, endingAt stop minutes = .ok window →
      FourDigitYear ⟨stop.seconds - 60 * minutes, stop.nanos⟩ → stop.FourDigitYear →
        ∃ first last, Instant.read window.start = .ok (some first) ∧
          Instant.read window.stop = .ok (some last) ∧
          last.seconds = first.seconds + 60 * minutes ∧ last.nanos = first.nanos ∧
          last = ⟨stop.seconds, stop.nanos / 1000 * 1000⟩) := by
  have hfits : ∀ m, (∃ window, endingAt stop m = .ok window) ↔ Fits stop m := by
    intro m
    simp [endingAt_eq_ok_iff hstop hnanos]
  refine ⟨hfits minutes, ?_, ?_, ?_, ?_⟩
  · intro h
    have hspan := span_le_of_fits hstop ((hfits minutes).mp h)
    have hmax : maxSpanSeconds = 9223372036854775 := by decide
    have hbound : Numeral.signedBound = 9223372036854775808 := rfl
    omega
  · intro h
    have hnot : ¬ Fits stop minutes := by
      intro hfit
      obtain ⟨window, hwindow⟩ := (hfits minutes).mpr hfit
      exact h window hwindow
    rw [endingAt_eq hstop hnanos, if_neg hnot]
  · intro shorter hpositive hle h
    apply (hfits shorter).mpr
    exact ((hfits minutes).mp h).shorter hpositive hle
  · intro window h hfirst hlast
    obtain ⟨hstart, hend⟩ := read_window hstop hnanos h hfirst hlast
    refine ⟨_, _, hstart, hend, ?_, rfl, rfl⟩
    simp only [minutesEarlier]
    omega

/-- Half past midnight on a first of March, with half a microsecond to be cut off. -/
def firstOfMarch : Instant := ⟨1709253000, 250000500⟩

/-- A window of 31 minutes begins in the leap day. -/
theorem endingAt_spec_leapDay :
    ∃ window, endingAt firstOfMarch 31 = .ok window ∧
      window = ⟨"2024-02-29T23:59:00.250000+00:00", "2024-03-01T00:30:00.250000+00:00"⟩ ∧
      ∃ first last, Instant.read window.start = .ok (some first) ∧
        Instant.read window.stop = .ok (some last) ∧
        last.seconds = first.seconds + 60 * 31 ∧ last.nanos = first.nanos ∧
        last = ⟨1709253000, 250000000⟩ := by
  have hstop : inRange firstOfMarch.seconds = true := by decide +kernel
  have hwindow : endingAt firstOfMarch 31 =
      .ok ⟨"2024-02-29T23:59:00.250000+00:00", "2024-03-01T00:30:00.250000+00:00"⟩ := by
    decide +kernel
  obtain ⟨-, -, -, -, hread⟩ := endingAt_spec hstop (by decide) 31
  exact ⟨_, hwindow, rfl, hread _ hwindow (by decide +kernel) (by decide +kernel)⟩

end IncidentDigest.TimeWindow
