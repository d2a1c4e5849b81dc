import IncidentDigest.Instant.Reader
import IncidentDigest.Proofs.Numeral.Padded

/-!
# Instants that are read

Whatever text it comes from, an instant that is read lies in the range, and a leap second
in it ends a minute, because offsets are whole minutes (`read_wellFormed`).  The invariant
`Reading.Sound` is kept by every part of a layout.
-/

namespace IncidentDigest.Instant

open Numeral

/-! ## 1. The range -/

theorem inRange_iff (seconds : Int) :
    inRange seconds = true ↔ -8334601228800 ≤ seconds ∧ seconds ≤ 8210266876799 := by
  have hmin : minSeconds = -8334601228800 := by decide +kernel
  have hmax : maxSeconds = 8210266876799 := by decide +kernel
  rw [inRange, Bool.and_eq_true, decide_eq_true_eq, decide_eq_true_eq, hmin, hmax]

/-- The milliseconds of every instant fit into a signed number of 64 bits. -/
theorem milliseconds_inBounds {seconds : Int} (h : inRange seconds = true) :
    -(Numeral.signedBound : Int) ≤ seconds * 1000 ∧ seconds * 1000 < Numeral.signedBound := by
  have hbound : Numeral.signedBound = 9223372036854775808 := rfl
  rw [inRange_iff] at h
  omega

/-- An instant in the range, with less than two seconds in its nanoseconds, and with a leap
second only at the end of a minute. -/
structure WellFormed (t : Instant) : Prop where
  inRange : Instant.inRange t.seconds = true
  nanos_lt : t.nanos < 2 * second
  leap : second ≤ t.nanos → t.seconds % 60 = 59

/-- A reading with less than a second in its fraction and with whole minutes in its
offset. -/
structure Reading.Sound (r : Reading) : Prop where
  nanos_lt : r.nanos < Instant.second
  offset_dvd : (60 : Int) ∣ r.offset

theorem Reading.sound_empty : Reading.Sound {} where
  nanos_lt := by decide
  offset_dvd := dvd_zero 60

/-! ## 2. Parts -/

theorem takeFraction?_lt {cs rest : List Char} {nanos : Nat}
    (h : takeFraction? cs = some (nanos, rest)) : nanos < second := by
  unfold takeFraction? at h
  dsimp only at h
  split at h
  · cases h
  · obtain ⟨rfl, -⟩ := Prod.mk.inj (Option.some.inj h)
    generalize hkept : (cs.takeWhile Char.isDigit).take 9 = kept
    have hdigits : ∀ c ∈ kept, c.isDigit = true := by
      intro c hc
      rw [← hkept] at hc
      exact List.mem_takeWhile_imp (List.mem_of_mem_take hc)
    have hlength : kept.length ≤ 9 := hkept ▸ List.length_take_le 9 _
    calc value kept * 10 ^ (9 - kept.length)
        < 10 ^ kept.length * 10 ^ (9 - kept.length) :=
          Nat.mul_lt_mul_of_pos_right (value_lt hdigits) (Nat.pow_pos (by decide))
      _ = 10 ^ 9 := by rw [← Nat.pow_add, Nat.add_sub_cancel' hlength]
      _ = second := rfl

theorem takeOffset?_dvd {separator : List Char → Option (List Char)} {cs rest : List Char}
    {offset : Int} (h : takeOffset? separator cs = some (offset, rest)) : (60 : Int) ∣ offset := by
  cases cs with
  | nil => cases h
  | cons sign cs =>
      rw [takeOffset?] at h
      split at h
      · simp only [Option.bind_eq_bind, Option.bind_eq_some_iff] at h
        obtain ⟨⟨hours, cs⟩, -, cs', -, ⟨minutes, cs''⟩, -, h⟩ := h
        dsimp only at h
        split at h
        · cases h
        · obtain ⟨rfl, -⟩ := Prod.mk.inj (Option.some.inj h)
          split
          · omega
          · omega
      · cases h

/-- **Every part of a layout keeps a reading sound.** -/
theorem Part.read?_sound {part : Part} {r r' : Reading} {cs rest : List Char} (hr : r.Sound)
    (h : part.read? r cs = some (r', rest)) : r'.Sound := by
  cases part with
  | fraction =>
      unfold Part.read? at h
      dsimp only at h
      split at h
      · obtain ⟨⟨nanos, cs'⟩, hnanos, heq⟩ := Option.map_eq_some_iff.mp h
        obtain ⟨rfl, -⟩ := Prod.mk.inj heq
        exact ⟨takeFraction?_lt hnanos, hr.offset_dvd⟩
      · obtain ⟨rfl, -⟩ := Prod.mk.inj (Option.some.inj h)
        exact hr
  | offset =>
      obtain ⟨⟨offset, cs'⟩, hoffset, heq⟩ := Option.map_eq_some_iff.mp h
      obtain ⟨rfl, -⟩ := Prod.mk.inj heq
      exact ⟨hr.nanos_lt, takeOffset?_dvd hoffset⟩
  | blanks =>
      obtain ⟨rfl, -⟩ := Prod.mk.inj (Option.some.inj h)
      exact hr
  | char c =>
      obtain ⟨cs', -, heq⟩ := Option.map_eq_some_iff.mp h
      obtain ⟨rfl, -⟩ := Prod.mk.inj heq
      exact hr
  | _ =>
      -- a number is put into a field of its own
      obtain ⟨⟨n, cs'⟩, -, heq⟩ := Option.map_eq_some_iff.mp h
      obtain ⟨rfl, -⟩ := Prod.mk.inj heq
      exact ⟨hr.nanos_lt, hr.offset_dvd⟩

theorem readParts?_sound {layout : Layout} {r r' : Reading} {cs rest : List Char} (hr : r.Sound)
    (h : readParts? layout r cs = some (r', rest)) : r'.Sound := by
  induction layout generalizing r cs with
  | nil =>
      obtain ⟨rfl, -⟩ := Prod.mk.inj (Option.some.inj h)
      exact hr
  | cons part layout ih =>
      rw [readParts?, Option.bind_eq_bind, Option.bind_eq_some_iff] at h
      obtain ⟨⟨r'', cs'⟩, hpart, h⟩ := h
      exact ih (Part.read?_sound hr hpart) h

/-! ## 3. Instants -/

theorem Reading.instant?_wellFormed {r : Reading} {t : Instant} (hr : r.Sound)
    (h : r.instant? = some t) : t.WellFormed := by
  obtain ⟨hnanos, k, hoffset⟩ := hr
  have hsecond : Instant.second = 1000000000 := rfl
  have hday : daySeconds = 86400 := rfl
  unfold Reading.instant? at h
  dsimp only at h
  split at h
  · split at h
    · rename_i hrange
      obtain rfl := Option.some.inj h
      refine ⟨hrange, ?_, ?_⟩
      · dsimp only
        split <;> omega
      · intro hleap
        dsimp only at hleap ⊢
        rw [hoffset, hday]
        split at hleap
        · rename_i hsixty
          rw [hsixty]
          omega
        · omega
    · cases h
  · cases h

theorem readStrict?_wellFormed {cs : List Char} {t : Instant} (h : readStrict? cs = some t) :
    t.WellFormed := by
  have hend : ∀ {r : Reading} {offset : Int} {cs : List Char}, r.nanos < Instant.second →
      (60 : Int) ∣ offset →
      (if cs.isEmpty = true then Reading.instant? { r with offset := offset } else none) = some t →
      t.WellFormed := by
    intro r offset cs hnanos hoffset hend
    split at hend
    · exact Reading.instant?_wellFormed (r := { r with offset := offset }) ⟨hnanos, hoffset⟩ hend
    · cases hend
  unfold readStrict? at h
  obtain ⟨⟨year, cs⟩, -, h⟩ := Option.bind_eq_some_iff.mp h
  obtain ⟨cs, -, h⟩ := Option.bind_eq_some_iff.mp h
  obtain ⟨⟨month, cs⟩, -, h⟩ := Option.bind_eq_some_iff.mp h
  obtain ⟨cs, -, h⟩ := Option.bind_eq_some_iff.mp h
  obtain ⟨⟨day, cs⟩, -, h⟩ := Option.bind_eq_some_iff.mp h
  dsimp only at h
  -- the letter between date and time
  split at h
  · split at h
    · obtain ⟨cs, -, h⟩ := Option.bind_eq_some_iff.mp h
      obtain ⟨⟨hour, cs⟩, -, h⟩ := Option.bind_eq_some_iff.mp h
      obtain ⟨cs, -, h⟩ := Option.bind_eq_some_iff.mp h
      obtain ⟨⟨minute, cs⟩, -, h⟩ := Option.bind_eq_some_iff.mp h
      obtain ⟨cs, -, h⟩ := Option.bind_eq_some_iff.mp h
      obtain ⟨⟨second, cs⟩, -, h⟩ := Option.bind_eq_some_iff.mp h
      dsimp only at h
      let r (nanos : Nat) : Reading := ⟨year, month, day, hour, minute, second, nanos, 0⟩
      -- with a fraction and without, the text ends in `Z`, in `z` or in an offset
      split at h
      · obtain ⟨⟨nanos, cs⟩, hfraction, h⟩ := Option.bind_eq_some_iff.mp h
        have hnanos : (r nanos).nanos < Instant.second := takeFraction?_lt hfraction
        split at h
        · exact hend hnanos (dvd_zero 60) h
        · exact hend hnanos (dvd_zero 60) h
        · obtain ⟨⟨offset, cs⟩, hoffset, h⟩ := Option.bind_eq_some_iff.mp h
          exact hend hnanos (takeOffset?_dvd hoffset) h
      · obtain ⟨⟨nanos, cs⟩, hfraction, h⟩ := Option.bind_eq_some_iff.mp h
        obtain ⟨rfl, rfl⟩ := Prod.mk.inj (Option.some.inj hfraction)
        have hnanos : (r 0).nanos < Instant.second := Nat.zero_lt_succ _
        split at h
        · exact hend hnanos (dvd_zero 60) h
        · exact hend hnanos (dvd_zero 60) h
        · obtain ⟨⟨offset, cs⟩, hoffset, h⟩ := Option.bind_eq_some_iff.mp h
          exact hend hnanos (takeOffset?_dvd hoffset) h
    · cases h
  · cases h

theorem readDirect?_wellFormed {cs : List Char} {t : Instant} (h : readDirect? cs = some t) :
    t.WellFormed := by
  unfold readDirect? at h
  split at h
  · rename_i hstrict
    obtain rfl := Option.some.inj h
    exact readStrict?_wellFormed hstrict
  · obtain ⟨layout, -, hlayout⟩ := List.exists_of_findSome?_eq_some h
    unfold Layout.read? at hlayout
    split at hlayout
    · rename_i hparts
      exact Reading.instant?_wellFormed (readParts?_sound Reading.sound_empty hparts) hlayout
    · cases hlayout

/-- **Whatever is read is well formed.** -/
theorem read_wellFormed {raw : String} {t : Instant} (h : Instant.read raw = .ok (some t)) :
    t.WellFormed := by
  unfold Instant.read at h
  dsimp only at h
  split at h
  · cases h
  · split at h
    · rename_i hfirst
      obtain rfl := Option.some.inj (Except.ok.inj h)
      exact readDirect?_wellFormed hfirst
    · split at h
      · rename_i hsecond
        obtain rfl := Option.some.inj (Except.ok.inj h)
        exact readDirect?_wellFormed hsecond
      · cases h

end IncidentDigest.Instant
