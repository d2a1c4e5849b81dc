import IncidentDigest.Proofs.Instant.Reading

/-!
# What becomes of a written offset

A stamp with an offset is read to the instant that it names, or refused, with one
exception.  A negative offset without a colon is refused at first; there being no plus
sign in the text, it is tried again up to the point, and with the offset the fraction is
gone.  `read_text` says what is read of every stamp with an offset, and
`honoursOffset_iff` when that is the instant written or an error.
-/

namespace IncidentDigest.Stamp

open Numeral

/-! ## 1. The second attempt -/

theorem head?_tail_ne_colon {o : Offset} (h : o.form ≠ .colon) (rest : List Char)
    (hrest : rest.head? ≠ some ':') : (o.tail ++ rest).head? ≠ some ':' := by
  unfold Offset.tail
  cases hform : o.form with
  | colon => exact absurd hform h
  | joined =>
      obtain ⟨c, cs, hcs⟩ := List.exists_cons_of_ne_nil (padded_ne_nil 2 o.minutes)
      have hc : c.isDigit = true := padded_isDigit 2 o.minutes c (hcs ▸ List.mem_cons_self)
      dsimp only
      rw [hcs, List.cons_append, List.head?_cons]
      intro hcolon
      rw [Option.some.inj hcolon] at hc
      exact absurd hc (by decide)
  | hours => simpa using hrest

theorem plus_notMem_chars {s : Stamp} (hyear : s.FourDigitYear) {o : Offset}
    (hnegative : o.negative = true) : '+' ∉ s.chars ++ o.chars := by
  have hsign : o.sign = '-' := by rw [Offset.sign, if_pos hnegative]
  intro h
  rw [chars, List.append_assoc, List.mem_append, List.mem_append] at h
  rcases h with h | h | h
  · exact plus_notMem_head hyear h
  · rcases mem_fractionChars h with h | h
    · exact absurd h (by decide)
    · exact absurd h (by decide)
  · exact notMem_offsetChars (by decide) (hsign ▸ by decide) (by decide) h

theorem takeWhile_of_notMem {cs : List Char} (h : '.' ∉ cs) : cs.takeWhile (· != '.') = cs := by
  rw [List.takeWhile_eq_self_iff]
  intro c hc
  simpa using fun heq : c = '.' => h (heq ▸ hc)

/-- Up to the point there are date and time. -/
theorem takeWhile_chars {s : Stamp} (hfraction : s.fraction ≠ []) (rest : List Char) :
    (s.chars ++ rest).takeWhile (· != '.') = s.head := by
  rw [chars, fractionChars, if_neg hfraction, List.append_assoc, List.cons_append,
    List.takeWhile_append_of_pos ?_, List.takeWhile_cons_of_neg (by decide), List.append_nil]
  intro c hc
  simpa using fun heq : c = '.' => point_notMem_head s (heq ▸ hc)

/-- A negative offset after whole seconds stays in the second attempt. -/
theorem secondAttempt_of_no_fraction {s : Stamp} (hyear : s.FourDigitYear) {o : Offset}
    (hnegative : o.negative = true) (hfraction : s.fraction = []) :
    Instant.secondAttempt (s.chars ++ o.chars) =
      s.chars ++ o.sign :: (padded 2 o.hours ++ (o.tail ++ Offset.utc.chars)) := by
  have hpoint : '.' ∉ s.chars ++ o.chars := by
    rw [chars, fractionChars, if_pos hfraction, List.append_nil, List.mem_append]
    exact not_or.mpr ⟨point_notMem_head s, point_notMem_offsetChars o⟩
  rw [Instant.secondAttempt_of_no_plus (plus_notMem_chars hyear hnegative)
    (by simp [chars, head]), takeWhile_of_notMem hpoint, ← Offset.utc_chars, Offset.chars]
  simp only [List.append_assoc, List.cons_append]

/-- **A negative offset after a fraction is lost in the second attempt.** -/
theorem secondAttempt_of_fraction {s : Stamp} (hyear : s.FourDigitYear) {o : Offset}
    (hnegative : o.negative = true) (hfraction : s.fraction ≠ []) :
    Instant.secondAttempt (s.chars ++ o.chars) = s.whole.chars ++ Offset.utc.chars := by
  have hwhole : s.whole.chars = s.head := List.append_nil _
  rw [Instant.secondAttempt_of_no_plus (plus_notMem_chars hyear hnegative)
    (by simp [chars, head]), takeWhile_chars hfraction, hwhole, Offset.utc_chars]

/-! ## 2. What is read -/

/-- **What is read of a stamp with an offset.** -/
theorem read_text {s : Stamp} (hyear : s.FourDigitYear) (o : Offset) :
    Instant.read (s.text o) =
      if o.form = .colon then .ok (some (s.instant o.seconds))
      else if o.negative = true ∧ s.fraction ≠ [] then .ok (some (s.whole.instant 0))
      else .error (.unparseable (s.text o)) := by
  rw [Instant.read_text_eq]
  by_cases hform : o.form = .colon
  · rw [Instant.readDirect?_of_colon hyear hform, if_pos hform]
  · have hhours : o.hours < 100 := by have := o.hours_lt; omega
    have hfirst : Instant.readDirect? (s.chars ++ o.chars) = none := by
      have htail := head?_tail_ne_colon hform [] (by decide)
      rw [List.append_nil] at htail
      exact Instant.readDirect?_of_no_colon hyear o.sign_eq hhours htail
    rw [hfirst, if_neg hform]
    dsimp only
    by_cases hnegative : o.negative = true
    · by_cases hfraction : s.fraction = []
      · have hsecond := Instant.readDirect?_of_no_colon hyear o.sign_eq hhours
          (head?_tail_ne_colon hform Offset.utc.chars (by rw [Offset.utc_chars]; decide))
        rw [secondAttempt_of_no_fraction hyear hnegative hfraction, hsecond,
          if_neg (fun h => h.2 hfraction)]
      · have hsecond := Instant.readDirect?_of_colon (s := s.whole) hyear (o := Offset.utc) rfl
        rw [secondAttempt_of_fraction hyear hnegative hfraction, hsecond,
          if_pos ⟨hnegative, hfraction⟩, Offset.utc_seconds]
    · have hplus : '+' ∈ s.chars ++ o.chars := by
        have hsign : o.sign = '+' := by rw [Offset.sign, if_neg hnegative]
        rw [Offset.chars, hsign]
        simp
      rw [Instant.secondAttempt_of_plus hplus, hfirst, if_neg (fun h => hnegative h.1)]

/-- A stamp with an offset is refused, or read to the instant that it names. -/
def HonoursOffset (s : Stamp) (o : Offset) : Prop :=
  (∃ e, Instant.read (s.text o) = .error e) ∨
    Instant.read (s.text o) = .ok (some (s.instant o.seconds))

theorem nanos_of_no_fraction {s : Stamp} (h : s.fraction = []) : s.nanos = 0 := by
  rw [nanos, h]
  rfl

/-- Without its fraction and its offset a stamp names the same instant only if there is
nothing to both. -/
theorem whole_instant_eq_iff (s : Stamp) (offset : Int) :
    s.whole.instant 0 = s.instant offset ↔ offset = 0 ∧ s.nanos = 0 := by
  have hseconds : (s.whole.instant 0).seconds = (s.instant offset).seconds + offset := by
    change _ - 0 = _ - offset + offset
    rw [sub_zero, sub_add_cancel]
    rfl
  have hnanos : (s.whole.instant 0).nanos + s.nanos = (s.instant offset).nanos := by
    change _ + s.whole.nanos + s.nanos = _ + s.nanos
    rw [nanos_of_no_fraction (s := s.whole) rfl]
    rfl
  have hfields : ∀ t u : Instant, t = u ↔ t.seconds = u.seconds ∧ t.nanos = u.nanos := by
    rintro ⟨seconds, nanos⟩ ⟨seconds', nanos'⟩
    exact Instant.mk.injEq _ _ _ _ ▸ Iff.rfl
  rw [hfields]
  omega

/-- **When a written offset is honoured**: always, but for a fraction before a negative
offset without a colon.  Then offset and fraction are dropped, which makes no difference
only if both are zero. -/
theorem honoursOffset_iff {s : Stamp} (hyear : s.FourDigitYear) (o : Offset) :
    s.HonoursOffset o ↔
      o.form = .colon ∨ o.negative = false ∨ s.fraction = [] ∨ (o.seconds = 0 ∧ s.nanos = 0) := by
  unfold HonoursOffset
  rw [read_text hyear]
  by_cases hform : o.form = .colon
  · rw [if_pos hform]
    exact iff_of_true (Or.inr rfl) (Or.inl hform)
  · rw [if_neg hform]
    by_cases hlost : o.negative = true ∧ s.fraction ≠ []
    · obtain ⟨hnegative, hfraction⟩ := hlost
      rw [if_pos ⟨hnegative, hfraction⟩, ← whole_instant_eq_iff s o.seconds]
      simp [hform, hnegative, hfraction]
    · rw [if_neg hlost]
      refine iff_of_true (Or.inl ⟨_, rfl⟩) (Or.inr ?_)
      by_cases hnegative : o.negative = true
      · have hfraction : s.fraction = [] := by
          by_contra hfraction
          exact hlost ⟨hnegative, hfraction⟩
        exact Or.inr (Or.inl hfraction)
      · exact Or.inl (by simpa using hnegative)

/-! ### Half a second past ten -/

/-- The stamp `2024-01-01T10:00:00.5`. -/
def halfPastTen : Stamp where
  date := ⟨2024, 1, 1⟩
  hour := 10
  minute := 0
  second := 0
  fraction := ['5']
  date_valid := by decide
  hour_lt := by decide
  minute_lt := Offset.utc.minutes_lt
  second_le := by decide
  fraction_isDigit := by simp

/-- Five hours behind universal time. -/
def fiveBehind (form : OffsetForm) : Offset where
  negative := true
  hours := 5
  minutes := 0
  form := form
  hours_lt := by decide
  minutes_lt := Offset.utc.minutes_lt
  minutes_eq _ := rfl

/-- With a colon the offset is honoured, even after a fraction. -/
theorem honoursOffset_halfPastTen :
    halfPastTen.FourDigitYear ∧ halfPastTen.HonoursOffset (fiveBehind .colon) := by
  have hyear : halfPastTen.FourDigitYear := ⟨by decide, by decide⟩
  exact ⟨hyear, (honoursOffset_iff hyear (fiveBehind .colon)).mpr (Or.inl rfl)⟩

/-- Without a colon it is lost: half a second past ten, five hours behind universal time,
is read as ten o'clock of universal time. -/
theorem not_honoursOffset_halfPastTen :
    halfPastTen.text (fiveBehind .joined) = "2024-01-01T10:00:00.5-0500" ∧
      Instant.read "2024-01-01T10:00:00.5-0500" = .ok (some ⟨1704103200, 0⟩) ∧
      halfPastTen.instant (fiveBehind .joined).seconds = ⟨1704121200, 500000000⟩ ∧
      ¬ halfPastTen.HonoursOffset (fiveBehind .joined) := by
  have htext : halfPastTen.text (fiveBehind .joined) = "2024-01-01T10:00:00.5-0500" := by
    decide +kernel
  have hread : Instant.read "2024-01-01T10:00:00.5-0500" = .ok (some ⟨1704103200, 0⟩) := by
    decide +kernel
  have hinstant : halfPastTen.instant (fiveBehind .joined).seconds =
      ⟨1704121200, 500000000⟩ := by
    decide +kernel
  refine ⟨htext, hread, hinstant, ?_⟩
  rintro (⟨e, herror⟩ | hright)
  · rw [htext, hread] at herror
    cases herror
  · rw [htext, hread, hinstant] at hright
    exact absurd hright (by decide)

end IncidentDigest.Stamp
