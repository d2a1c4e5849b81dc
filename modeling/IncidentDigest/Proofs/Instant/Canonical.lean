import IncidentDigest.Proofs.Instant.Reading
import IncidentDigest.Proofs.Instant.WellFormed

/-!
# Normalizing twice

The text of an instant is a stamp at the offset `+00:00` (`format_eq`), and the stamp names
the instant down to its microseconds (`stamp_instant`).  So a text that normalization
produces is read again if its year has four digits, and refused otherwise
(`normalize_format`).  What is read again has the same text unless all that there is after
the second is less than a microsecond: then six zeros are written, and a second
normalization drops them (`format_truncated_eq_iff`).  Six zeros are also written for a
whole leap second, and these stay.
-/

namespace IncidentDigest.Instant

open Numeral

/-! ## 1. The stamp of an instant -/

/-- The date in universal time. -/
def utcDate (t : Instant) : Date := Date.ofDays (t.seconds / daySeconds)

/-- The microseconds in the second, which may be a leap second. -/
def microseconds (t : Instant) : Nat := t.nanos % second / 1000

/-- What the text of an instant keeps of it. -/
def truncated (t : Instant) : Instant := ⟨t.seconds, t.nanos / 1000 * 1000⟩

/-- The second of the day. -/
def inDay (t : Instant) : Nat := (t.seconds % daySeconds).toNat

theorem inDay_eq (t : Instant) : (t.inDay : Int) = t.seconds % 86400 :=
  Int.toNat_of_nonneg (Int.emod_nonneg _ (by decide))

theorem microseconds_lt (t : Instant) : t.microseconds < 10 ^ 6 := by
  unfold microseconds second
  omega

/-- The stamp that is written for an instant. -/
def stamp (t : Instant) : Stamp where
  date := t.utcDate
  hour := t.inDay / 3600
  minute := t.inDay / 60 % 60
  second := t.inDay % 60 + (if Instant.second ≤ t.nanos then 1 else 0)
  fraction := if t.nanos = 0 then [] else padded 6 t.microseconds
  date_valid := Date.isValid_ofDays (t.seconds / daySeconds)
  hour_lt := by
    have := t.inDay_eq
    omega
  minute_lt := Nat.mod_lt _ (by decide)
  second_le := by
    split <;> omega
  fraction_isDigit := by
    intro c hc
    split at hc
    · exact absurd hc List.not_mem_nil
    · exact padded_isDigit 6 _ c hc

variable {t : Instant}

theorem stamp_fraction_of_zero (hnanos : t.nanos = 0) : t.stamp.fraction = [] := if_pos hnanos

theorem stamp_fraction (hnanos : t.nanos ≠ 0) : t.stamp.fraction = padded 6 t.microseconds :=
  if_neg hnanos

theorem stamp_fractionChars (t : Instant) :
    t.stamp.fractionChars = if t.nanos = 0 then [] else '.' :: padded 6 t.microseconds := by
  unfold Stamp.fractionChars
  by_cases hnanos : t.nanos = 0
  · rw [if_pos (stamp_fraction_of_zero hnanos), if_pos hnanos]
  · rw [stamp_fraction hnanos, if_neg (padded_ne_nil 6 _), if_neg hnanos]

/-- **The text of an instant is its stamp at the offset `+00:00`.** -/
theorem format_eq (h : t.WellFormed) : t.format = t.stamp.text Stamp.Offset.utc := by
  have hmicroseconds :
      (if second ≤ t.nanos then t.nanos - second else t.nanos) / 1000 = t.microseconds := by
    have hlt := h.nanos_lt
    unfold microseconds
    unfold second at hlt ⊢
    split <;> omega
  unfold format formatChars
  dsimp only
  rw [hmicroseconds, Stamp.text, Stamp.chars, stamp_fractionChars, Stamp.Offset.utc_chars,
    Stamp.head, Stamp.dayChars, Stamp.clockChars]
  simp only [stamp, utcDate, inDay, List.append_assoc, List.cons_append]

theorem stamp_nanos (t : Instant) : t.stamp.nanos = t.microseconds * 1000 := by
  by_cases hnanos : t.nanos = 0
  · rw [Stamp.nanos, stamp_fraction_of_zero hnanos, microseconds, hnanos]
    rfl
  · have hlength : (padded 6 t.microseconds).length = 6 :=
      length_padded (by decide) t.microseconds_lt
    rw [Stamp.nanos_eq, stamp_fraction hnanos, List.take_of_length_le (by omega), value_padded,
      hlength]
    rfl

/-- **The stamp of an instant names it**, down to its microseconds. -/
theorem stamp_instant (h : t.WellFormed) : t.stamp.instant 0 = t.truncated := by
  have hlt := h.nanos_lt
  have hleap := h.leap
  have hinDay := t.inDay_eq
  have hdays : t.utcDate.toDays = t.seconds / 86400 := Date.toDays_ofDays _
  -- in a leap second the stamp says 60, and otherwise it says less
  have hsecond : t.stamp.second = t.inDay % 60 + if second ≤ t.nanos then 1 else 0 := rfl
  have hseconds : (t.stamp.instant 0).seconds = t.seconds := by
    change t.utcDate.toDays * 86400 +
      (t.inDay / 3600 * 3600 + t.inDay / 60 % 60 * 60 + min t.stamp.second 59 : Nat) - 0 = _
    rw [hsecond, hdays]
    split <;> omega
  have hnanos : (t.stamp.instant 0).nanos = t.nanos / 1000 * 1000 := by
    change (if t.stamp.second = 60 then second else 0) + t.stamp.nanos = _
    rw [stamp_nanos, microseconds, hsecond]
    unfold second at hlt hleap ⊢
    split <;> split <;> omega
  exact congrArg₂ Instant.mk hseconds hnanos

/-! ## 2. Reading the text of an instant -/

/-- Whether the year is written with four digits and without a sign. -/
def FourDigitYear (t : Instant) : Prop := 0 ≤ t.utcDate.year ∧ t.utcDate.year ≤ 9999

instance : Decidable t.FourDigitYear := inferInstanceAs (Decidable (_ ∧ _))

theorem read_format (h : t.WellFormed) (hyear : t.FourDigitYear) :
    Instant.read t.format = .ok (some t.truncated) := by
  have hstamp : t.stamp.FourDigitYear := hyear
  rw [format_eq h, read_text_eq, readDirect?_of_colon hstamp rfl, Stamp.Offset.utc_seconds,
    stamp_instant h]

theorem read_format_of_signed_year (h : t.WellFormed) (hyear : ¬ t.FourDigitYear) :
    Instant.read t.format = .error (.unparseable t.format) := by
  have hstamp : ¬ t.stamp.FourDigitYear := hyear
  have hchars : t.stamp.chars ++ Stamp.Offset.utc.chars =
      t.stamp.head ++ (t.stamp.fractionChars ++ Stamp.Offset.utc.chars) :=
    List.append_assoc _ _ _
  have hafter : t.stamp.fractionChars ++ Stamp.Offset.utc.chars ≠ [] :=
    List.append_ne_nil_of_right_ne_nil _ (List.cons_ne_nil _ _)
  have hplus : '+' ∈ t.stamp.chars ++ Stamp.Offset.utc.chars :=
    List.mem_append_right _ List.mem_cons_self
  rw [format_eq h, read_text_eq, secondAttempt_of_plus hplus, hchars,
    readDirect?_of_signed_year hstamp hafter]

/-- **What a second normalization gives.** -/
theorem normalize_format (h : t.WellFormed) :
    normalize (some t.format) =
      if t.FourDigitYear then .ok (some t.truncated.format)
      else .error (.unparseable t.format) := by
  unfold normalize
  dsimp only
  split
  · rename_i hyear
    rw [read_format h hyear]
    rfl
  · rename_i hyear
    rw [read_format_of_signed_year h hyear]
    rfl

theorem exists_read_of_normalize {raw out : String} (h : normalize (some raw) = .ok (some out)) :
    ∃ t, Instant.read raw = .ok (some t) ∧ t.format = out := by
  unfold normalize at h
  dsimp only at h
  cases hread : Instant.read raw with
  | error e =>
      rw [hread] at h
      cases h
  | ok result =>
      rw [hread] at h
      obtain ⟨t, rfl, hout⟩ := Option.map_eq_some_iff.mp (Except.ok.inj h)
      exact ⟨t, rfl, hout⟩

/-! ## 3. Canonical texts -/

theorem point_mem_format (h : t.WellFormed) : '.' ∈ t.format.toList ↔ t.nanos ≠ 0 := by
  rw [format_eq h, Stamp.text, String.toList_ofList, Stamp.chars, stamp_fractionChars,
    List.mem_append, List.mem_append]
  have hhead : '.' ∉ t.stamp.head := Stamp.point_notMem_head t.stamp
  have hoffset : '.' ∉ Stamp.Offset.utc.chars := Stamp.point_notMem_offsetChars _
  by_cases hnanos : t.nanos = 0
  · simp [hhead, hoffset, hnanos]
  · simp [hnanos]

theorem truncated_wellFormed (h : t.WellFormed) : t.truncated.WellFormed := by
  have hlt := h.nanos_lt
  have hsecond : second = 1000000000 := rfl
  refine ⟨h.inRange, ?_, ?_⟩
  · change t.nanos / 1000 * 1000 < _
    omega
  · intro hleap
    change second ≤ t.nanos / 1000 * 1000 at hleap
    exact h.leap (by omega)

/-- The text is kept unless all that there is in the second lies below a microsecond. -/
theorem format_truncated_eq_iff (h : t.WellFormed) :
    t.truncated.format = t.format ↔ t.nanos = 0 ∨ 1000 ≤ t.nanos := by
  constructor
  · intro heq
    have hpoint := point_mem_format (truncated_wellFormed h)
    rw [heq, point_mem_format h] at hpoint
    change t.nanos ≠ 0 ↔ t.nanos / 1000 * 1000 ≠ 0 at hpoint
    omega
  · intro hnanos
    have hsecond : second = 1000000000 := rfl
    have hleap : second ≤ t.truncated.nanos ↔ second ≤ t.nanos := by
      change second ≤ t.nanos / 1000 * 1000 ↔ _
      omega
    have hzero : t.truncated.nanos = 0 ↔ t.nanos = 0 := by
      change t.nanos / 1000 * 1000 = 0 ↔ _
      omega
    have hfraction :
        (if second ≤ t.nanos then t.truncated.nanos - second else t.truncated.nanos) / 1000 =
          (if second ≤ t.nanos then t.nanos - second else t.nanos) / 1000 := by
      change (if second ≤ t.nanos then t.nanos / 1000 * 1000 - second
        else t.nanos / 1000 * 1000) / 1000 = _
      split <;> omega
    unfold format formatChars
    simp only [hleap, hzero, hfraction]
    rfl

/-- **When normalization is done after the first time.**  A text that it produced is read
again, to the same text, and has digits after its second only where there are
microseconds: exactly if the year has four digits, and if there are microseconds unless the
second is a whole one and no leap second. -/
theorem normalize_idempotent_iff {raw out : String} (h : normalize (some raw) = .ok (some out)) :
    ∃ t, Instant.read raw = .ok (some t) ∧ out = t.format ∧
      ((normalize (some out) = .ok (some out) ∧ ('.' ∈ out.toList → t.microseconds ≠ 0)) ↔
        t.FourDigitYear ∧ (t.nanos = 0 ∨ t.microseconds ≠ 0)) := by
  obtain ⟨t, hread, rfl⟩ := exists_read_of_normalize h
  have hwf := read_wellFormed hread
  refine ⟨t, hread, rfl, ?_⟩
  rw [normalize_format hwf, point_mem_format hwf]
  by_cases hyear : t.FourDigitYear
  · rw [if_pos hyear, Except.ok.injEq, Option.some.injEq, format_truncated_eq_iff hwf]
    simp only [hyear, true_and]
    have hlt := hwf.nanos_lt
    unfold microseconds
    unfold second at hlt ⊢
    omega
  · rw [if_neg hyear]
    exact iff_of_false (fun h => nomatch h.1) (fun h => hyear h.1)

/-- A quarter of a second past ten is written once and for all. -/
theorem normalize_idempotent_quarter :
    normalize (some "2024-01-01 12:00:00.25+02:00") =
        .ok (some "2024-01-01T10:00:00.250000+00:00") ∧
      ∃ t, Instant.read "2024-01-01 12:00:00.25+02:00" = .ok (some t) ∧
        "2024-01-01T10:00:00.250000+00:00" = t.format ∧
        ((normalize (some "2024-01-01T10:00:00.250000+00:00") =
            .ok (some "2024-01-01T10:00:00.250000+00:00") ∧
          ('.' ∈ "2024-01-01T10:00:00.250000+00:00".toList → t.microseconds ≠ 0)) ↔
          t.FourDigitYear ∧ (t.nanos = 0 ∨ t.microseconds ≠ 0)) := by
  have h : normalize (some "2024-01-01 12:00:00.25+02:00") =
      .ok (some "2024-01-01T10:00:00.250000+00:00") := by decide +kernel
  exact ⟨h, normalize_idempotent_iff h⟩

/-- A tenth of a microsecond is written as six zeros, which the second normalization drops;
and the first day of the year 10000 is written with a sign, and then refused. -/
theorem not_normalize_idempotent :
    (normalize (some "2024-01-01 10:00:00.0000001") =
        .ok (some "2024-01-01T10:00:00.000000+00:00") ∧
      normalize (some "2024-01-01T10:00:00.000000+00:00") =
        .ok (some "2024-01-01T10:00:00+00:00")) ∧
    (normalize (some "+10000-01-01") = .ok (some "+10000-01-01T00:00:00+00:00") ∧
      normalize (some "+10000-01-01T00:00:00+00:00") =
        .error (.unparseable "+10000-01-01T00:00:00+00:00")) ∧
    ¬ ∀ raw out, normalize (some raw) = .ok (some out) → normalize (some out) = .ok (some out) := by
  have hfirst : normalize (some "2024-01-01 10:00:00.0000001") =
      .ok (some "2024-01-01T10:00:00.000000+00:00") := by decide +kernel
  have hsecond : normalize (some "2024-01-01T10:00:00.000000+00:00") =
      .ok (some "2024-01-01T10:00:00+00:00") := by decide +kernel
  refine ⟨⟨hfirst, hsecond⟩, ⟨by decide +kernel, by decide +kernel⟩, ?_⟩
  intro hidempotent
  have hsame := hidempotent _ _ hfirst
  rw [hsecond] at hsame
  exact absurd hsame (by decide)

end IncidentDigest.Instant
