import IncidentDigest.Json.Writer
import IncidentDigest.Proofs.Binary64.Shortest
import IncidentDigest.Proofs.Json.Spelling

/-!
# Floating-point numbers in a text

However the digits of a decimal are set out, with zeros filled in or with an exponent, the text
is that of a numeral, and the numeral stands for the decimal itself.  So the decimal that a text
shows is known exactly, without reading it as a floating-point number.
-/

namespace IncidentDigest.Json

open IncidentDigest.Numeral (digits digits_isDigit digits_ne_nil isDigit_append isDigit_zeros value
  value_append value_digits value_replicate_zero)

/-! ## 1. What a numeral stands for -/

namespace Numeral

/-- The power of ten that is written behind a numeral. -/
def power (n : Numeral) : ℤ :=
  match n.scale with
  | none => 0
  | some (positive, ds) => if positive then value ds else -(value ds : ℤ)

/-- The number that a numeral stands for, without any rounding. -/
def toRat (n : Numeral) : ℚ :=
  (if n.negative then -1 else 1) *
    (value (n.whole ++ n.fraction) * 10 ^ (n.power - n.fraction.length))

end Numeral

/-! ## 2. Layouts of a decimal -/

section Layouts

variable (negative : Bool) (d : Decimal)

/-- The parts of a decimal whose point is in its place. -/
def positionalNumeral (pointZero : Bool) : Numeral :=
  let ds := digits d.digits
  let before : Int := ds.length + d.exponent
  if 0 ≤ d.exponent then
    ⟨negative, ds ++ List.replicate d.exponent.toNat '0', if pointZero then ['0'] else [], none⟩
  else if 0 < before then ⟨negative, ds.take before.toNat, ds.drop before.toNat, none⟩
  else ⟨negative, ['0'], List.replicate (-before).toNat '0' ++ ds, none⟩

/-- The parts of a decimal with an exponent. -/
def scientificNumeral : Numeral :=
  let ds := digits d.digits
  let order : Int := ds.length - 1 + d.exponent
  ⟨negative, ds.take 1, ds.drop 1, some (decide (¬ order < 0), digits order.natAbs)⟩

def layoutNumeral (style : NumberStyle) : Numeral :=
  let order : Int := (digits d.digits).length - 1 + d.exponent
  match style.positional with
  | none => positionalNumeral negative d style.pointZero
  | some (low, high) =>
    if low ≤ order ∧ order < high then positionalNumeral negative d style.pointZero
    else scientificNumeral negative d

/-- What is common to the layouts: the text is a numeral, and it stands for the decimal. -/
structure ShowsDecimal (cs : List Char) (n : Numeral) : Prop where
  negative_eq : n.negative = negative
  grammatical : n.Grammatical
  unsignedChars_eq : n.unsignedChars = cs
  toRat_eq : n.toRat = (if negative then -1 else 1) * d.value

variable {negative d}

/-- A numeral stands for a decimal if it has its digits, and perhaps some zeros more. -/
theorem toRat_eq_of_digits {n : Numeral} (zeros : Nat) (hnegative : n.negative = negative)
    (hvalue : value (n.whole ++ n.fraction) = d.digits * 10 ^ zeros)
    (hpower : n.power - n.fraction.length = d.exponent - zeros) :
    n.toRat = (if negative then -1 else 1) * d.value := by
  rw [Numeral.toRat, hnegative, hvalue, hpower, Decimal.value, zpow_sub₀ (by norm_num),
    zpow_natCast]
  push_cast
  field_simp

theorem digits_zero : digits 0 = ['0'] := by
  rw [digits]
  rfl

theorem fractionChars_of_ne_nil {ds : List Char} (h : ds ≠ []) : fractionChars ds = '.' :: ds := by
  cases ds with
  | nil => exact absurd rfl h
  | cons c ds => rfl

theorem take_digits_ne_nil {n k : Nat} (hk : 0 < k) : (digits n).take k ≠ [] := by
  intro hnil
  rcases List.take_eq_nil_iff.mp hnil with hk' | hdigits
  · exact hk.ne' hk'
  · exact digits_ne_nil n hdigits

/-- The front of the digits starts with a zero only if there are no other digits. -/
theorem head?_take_digits {n k : Nat} (hk : 0 < k) (h : ((digits n).take k).head? = some '0') :
    n = 0 := by
  rw [List.head?_take, if_neg hk.ne'] at h
  exact head?_digits h

theorem length_digits_pos (n : Nat) : 0 < (digits n).length :=
  List.length_pos_of_ne_nil (digits_ne_nil n)

theorem grammatical_fixed {whole fraction : List Char} (hne : whole ≠ [])
    (hwhole : ∀ c ∈ whole, c.isDigit = true)
    (hzero : whole.head? = some '0' → whole.length = 1)
    (hfraction : ∀ c ∈ fraction, c.isDigit = true) :
    Numeral.Grammatical ⟨negative, whole, fraction, none⟩ where
  whole := ⟨hne, hwhole⟩
  zeroAlone := hzero
  fraction := hfraction
  scale := by
    intro p hp
    cases hp

/-- Zeros fill up a decimal whose digits end before the point. -/
theorem shows_filled (h : 0 ≤ d.exponent) (hzero : d.digits = 0 → d.exponent ≤ 0)
    (pointZero : Bool) :
    ShowsDecimal negative d
      (digits d.digits ++ List.replicate d.exponent.toNat '0' ++
        (if pointZero then ['.', '0'] else []))
      ⟨negative, digits d.digits ++ List.replicate d.exponent.toNat '0',
        if pointZero then ['0'] else [], none⟩ where
  negative_eq := rfl
  grammatical := by
    apply grammatical_fixed
    · exact List.append_ne_nil_of_left_ne_nil (digits_ne_nil _) _
    · exact isDigit_append (digits_isDigit _) (isDigit_zeros _)
    · intro hhead
      rw [List.head?_append_of_ne_nil _ (digits_ne_nil _)] at hhead
      have hdigits := head?_digits hhead
      have hnone : d.exponent.toNat = 0 := by
        have hexponent := hzero hdigits
        omega
      rw [hnone, hdigits, digits_zero]
      rfl
    · cases pointZero with
      | true => simp
      | false => simp
  unsignedChars_eq := by
    cases pointZero with
    | true => simp [Numeral.unsignedChars, fractionChars, scaleChars]
    | false => simp [Numeral.unsignedChars, fractionChars, scaleChars]
  toRat_eq := by
    have hvalue : value (digits d.digits ++ List.replicate d.exponent.toNat '0') =
        d.digits * 10 ^ d.exponent.toNat := by
      rw [value_append, value_digits, value_replicate_zero, List.length_replicate, Nat.add_zero]
    cases pointZero with
    | true =>
        apply toRat_eq_of_digits (d.exponent.toNat + 1) rfl
        · rw [value_append, hvalue, Nat.pow_succ, ← Nat.mul_assoc]
          rfl
        · simp only [Numeral.power, if_true, List.length_singleton]
          omega
    | false =>
        apply toRat_eq_of_digits d.exponent.toNat rfl
        · simpa using hvalue
        · change (0 : ℤ) - 0 = _
          omega

/-- The point stands among the digits. -/
theorem shows_divided (h : d.exponent < 0) {before : Nat} (hpositive : 0 < before)
    (hbefore : (before : ℤ) = (digits d.digits).length + d.exponent) :
    ShowsDecimal negative d
      ((digits d.digits).take before ++ '.' :: (digits d.digits).drop before)
      ⟨negative, (digits d.digits).take before, (digits d.digits).drop before, none⟩ where
  negative_eq := rfl
  grammatical := by
    apply grammatical_fixed
    · exact take_digits_ne_nil hpositive
    · intro c hc
      exact digits_isDigit _ c (List.mem_of_mem_take hc)
    · intro hhead
      rw [head?_take_digits hpositive hhead, digits_zero, List.length_singleton] at hbefore
      omega
    · intro c hc
      exact digits_isDigit _ c (List.mem_of_mem_drop hc)
  unsignedChars_eq := by
    have hrest : (digits d.digits).drop before ≠ [] := by
      intro hnil
      have hlength := List.drop_eq_nil_iff.mp hnil
      omega
    simp [Numeral.unsignedChars, fractionChars_of_ne_nil hrest, scaleChars]
  toRat_eq := by
    apply toRat_eq_of_digits 0 rfl
    · rw [List.take_append_drop, value_digits, Nat.pow_zero, Nat.mul_one]
    · simp only [Numeral.power, List.length_drop]
      omega

/-- Zeros fill up a decimal whose digits start behind the point. -/
theorem shows_small {zeros : Nat}
    (hzeros : (zeros : ℤ) = -((digits d.digits).length + d.exponent)) :
    ShowsDecimal negative d ('0' :: '.' :: (List.replicate zeros '0' ++ digits d.digits))
      ⟨negative, ['0'], List.replicate zeros '0' ++ digits d.digits, none⟩ where
  negative_eq := rfl
  grammatical := by
    apply grammatical_fixed
    · simp
    · simp
    · intro
      rfl
    · exact isDigit_append (isDigit_zeros _) (digits_isDigit _)
  unsignedChars_eq := by
    have hrest : List.replicate zeros '0' ++ digits d.digits ≠ [] :=
      List.append_ne_nil_of_right_ne_nil _ (digits_ne_nil _)
    simp [Numeral.unsignedChars, fractionChars_of_ne_nil hrest, scaleChars]
  toRat_eq := by
    have hfirst : value ['0'] = 0 := rfl
    apply toRat_eq_of_digits 0 rfl
    · rw [value_append, value_append, value_replicate_zero, value_digits, hfirst]
      simp
    · simp only [Numeral.power, List.length_append, List.length_replicate]
      omega

theorem positional_shows (hzero : d.digits = 0 → d.exponent ≤ 0) (pointZero : Bool) :
    ShowsDecimal negative d (d.positional pointZero) (positionalNumeral negative d pointZero) := by
  unfold positionalNumeral Decimal.positional
  dsimp only
  split
  · rename_i hexponent
    exact shows_filled hexponent hzero pointZero
  · rename_i hexponent
    split
    · rename_i hbefore
      exact shows_divided (not_le.mp hexponent) (by omega) (Int.toNat_of_nonneg hbefore.le)
    · rename_i hbefore
      exact shows_small (Int.toNat_of_nonneg (by omega))

/-- One digit stands before the point, the others behind it, and the exponent says where the
point belongs. -/
theorem scientific_shows :
    ShowsDecimal negative d d.scientific (scientificNumeral negative d) := by
  have hlength := length_digits_pos d.digits
  unfold scientificNumeral Decimal.scientific
  dsimp only
  generalize horder : ((digits d.digits).length : ℤ) - 1 + d.exponent = order
  refine ⟨rfl, ⟨⟨take_digits_ne_nil Nat.one_pos, ?_⟩, ?_, ?_, ?_⟩, ?_, ?_⟩
  · intro c hc
    exact digits_isDigit _ c (List.mem_of_mem_take hc)
  · intro hhead
    rw [List.length_take]
    omega
  · intro c hc
    exact digits_isDigit _ c (List.mem_of_mem_drop hc)
  · intro p hp
    obtain rfl := Option.some.inj hp
    exact ⟨digits_ne_nil _, digits_isDigit _⟩
  · have hsign : (if decide (¬ order < 0) = true then '+' else '-') =
        if order < 0 then '-' else '+' := by
      by_cases hnegative : order < 0
      · simp [hnegative]
      · simp [hnegative]
    unfold Numeral.unsignedChars scaleChars
    dsimp only
    rw [hsign]
    cases (digits d.digits).drop 1 with
    | nil => simp [fractionChars]
    | cons c cs => simp [fractionChars]
  · apply toRat_eq_of_digits 0 rfl
    · rw [List.take_append_drop, value_digits, Nat.pow_zero, Nat.mul_one]
    · simp only [Numeral.power, List.length_drop, value_digits, decide_eq_true_eq]
      split <;> omega

/-- **Every layout shows the decimal itself.** -/
theorem layout_shows (hzero : d.digits = 0 → d.exponent ≤ 0) (style : NumberStyle) :
    ShowsDecimal negative d (d.format style) (layoutNumeral negative d style) := by
  unfold layoutNumeral Decimal.format
  cases style.positional with
  | none => exact positional_shows hzero style.pointZero
  | some range =>
      dsimp only
      split
      · exact positional_shows hzero style.pointZero
      · exact scientific_shows

end Layouts

/-! ## 3. The text of a number -/

/-- The numeral that a floating-point number is written as. -/
def floatNumeral (style : NumberStyle) (x : Binary64) : Numeral :=
  layoutNumeral x.negative (x.shortest style.tie) style

theorem floatNumeral_shows (style : NumberStyle) (x : Binary64) :
    ShowsDecimal x.negative (x.shortest style.tie) ((x.shortest style.tie).format style)
      (floatNumeral style x) := by
  apply layout_shows
  intro hdigits
  rcases Nat.eq_zero_or_pos x.mantissa with hx | hx
  · have hzero : x.isZero = true := beq_iff_eq.mpr hx
    rw [Binary64.shortest_of_isZero _ hzero]
  · exact absurd hdigits (Binary64.shortest_digits_ne_zero _ hx)

theorem chars_floatNumeral (style : NumberStyle) (x : Binary64) :
    (floatNumeral style x).chars = x.format style := by
  have hshows := floatNumeral_shows style x
  rw [Numeral.chars, hshows.negative_eq, hshows.unsignedChars_eq]
  rfl

/-- **A number is written as the shortest decimal that identifies it**, and as nothing else. -/
theorem toRat_floatNumeral (style : NumberStyle) (x : Binary64) :
    (floatNumeral style x).toRat =
      (if x.negative then -1 else 1) * (x.shortest style.tie).value :=
  (floatNumeral_shows style x).toRat_eq

end IncidentDigest.Json
