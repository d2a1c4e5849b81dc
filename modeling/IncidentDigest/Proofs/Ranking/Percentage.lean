import IncidentDigest.Proofs.Binary64.Shortest
import IncidentDigest.Ranking

/-!
# Percentages

A percentage goes through six roundings to 64 bits and one to a whole number of hundredths.  The
six together are off by `2 ^ -35` at most, the seventh by a half, and the last division of all
gives the hundredths back as a decimal.  So a percentage is written with two places.  With a total
of up to `10 ^ 9` the six roundings are too small to carry a share across a half: the two places
are the exact share rounded to the nearest hundredth, and percentages are in the order of their
counts.
-/

namespace IncidentDigest

open Binary64 (finiteBound lt_finiteBound outcome_div? outcome_mul? outcome_ofNat?)

/-! ## 1. The error of the quotient -/

section Error

/-- One part in `2 ^ 53`. -/
def roundoff : ℚ := 2 ^ (-53 : ℤ)

theorem roundoff_pos : 0 < roundoff := by
  unfold roundoff
  positivity

theorem roundoff_le : roundoff ≤ 1 / 10 ^ 6 := by
  norm_num [roundoff]

theorem Binary64.Rounds.near {q : ℚ} {x : Binary64} (h : Rounds q x) :
    |x.magnitude - q| ≤ (q + 1) * roundoff := by
  have hleast : (2 : ℚ) ^ (minExponent - 1) ≤ roundoff :=
    zpow_le_zpow_right₀ one_le_two (by decide)
  have herror := h.abs_magnitude_sub_le
  change _ ≤ q * roundoff + _ at herror
  rw [add_mul, one_mul]
  linarith

variable {u c total count whole product quotient raw hundredths : ℚ}

theorem le_double_of_near (hsmall : u ≤ 1 / 10 ^ 6) (htotal : 1 ≤ total) (hc : 0 ≤ c)
    (hle : c ≤ total) (hcount : |count - c| ≤ (c + 1) * u) : count ≤ 2 * total := by
  have hcount' : (c + 1) * u ≤ (c + 1) * (1 / 10 ^ 6) :=
    mul_le_mul_of_nonneg_left hsmall (by linarith)
  have := (abs_le.mp hcount).2
  linarith

/-- Two whole numbers that are rounded, and a product. -/
theorem product_near (hu : 0 ≤ u) (htotal : 1 ≤ total) (hle : c ≤ total)
    (hdouble : count ≤ 2 * total) (hcount : |count - c| ≤ (c + 1) * u)
    (hproduct : |product - 100 * count| ≤ (100 * count + 1) * u) :
    |product - 100 * c| ≤ 401 * (total * u) := by
  have hscale : u ≤ total * u := le_mul_of_one_le_left hu htotal
  have hc' : (c + 1) * u ≤ 2 * (total * u) := by
    have := mul_le_mul_of_nonneg_right hle hu
    linarith
  have hcount' := mul_le_mul_of_nonneg_right hdouble hu
  rw [abs_le] at hcount hproduct ⊢
  constructor <;> linarith

theorem quotient_near (hu : 0 ≤ u) (hsmall : u ≤ 1 / 10 ^ 6) (htotal : 1 ≤ total)
    (hc : 0 ≤ c) (hle : c ≤ total) (hwhole : |whole - total| ≤ (total + 1) * u)
    (hproduct : |product - 100 * c| ≤ 401 * (total * u)) :
    0 < whole ∧ |product / whole - 100 * (c / total)| ≤ 1202 * u := by
  have hpositive : 0 < total := by linarith
  have hscale : u ≤ total * u := le_mul_of_one_le_left hu htotal
  have hwhole' : |whole - total| ≤ 2 * (total * u) := by linarith
  have hhalf : total / 2 ≤ whole := by
    have htotal' : total * u ≤ total * (1 / 10 ^ 6) :=
      mul_le_mul_of_nonneg_left hsmall hpositive.le
    have := (abs_le.mp hwhole').1
    linarith
  have hwholePos : 0 < whole := by linarith
  refine ⟨hwholePos, ?_⟩
  generalize hshare : c / total = share
  have hc' : c = share * total := by rw [← hshare, div_mul_cancel₀ _ hpositive.ne']
  have hshareLe : share ≤ 1 := by
    rw [← hshare, div_le_one hpositive]
    exact hle
  have hshareNonneg : 0 ≤ share := by
    rw [← hshare]
    positivity
  have hdifference : product / whole - 100 * share =
      (product - 100 * c - 100 * (share * (whole - total))) / whole := by
    rw [hc']
    field_simp
    ring
  have hother : |share * (whole - total)| ≤ 2 * (total * u) := by
    rw [abs_mul, abs_of_nonneg hshareNonneg]
    exact (mul_le_of_le_one_left (abs_nonneg _) hshareLe).trans hwhole'
  rw [hdifference, abs_div, abs_of_pos hwholePos, div_le_iff₀ hwholePos]
  have hnumerator : |product - 100 * c - 100 * (share * (whole - total))| ≤ 601 * (total * u) := by
    rw [abs_le] at hproduct hother ⊢
    constructor <;> linarith
  have hbound : 601 * (total * u) ≤ 1202 * u * whole := by
    have := mul_le_mul_of_nonneg_left hhalf hu
    linarith
  exact hnumerator.trans hbound

theorem quotient_le (hsmall : u ≤ 1 / 10 ^ 6) (htotal : 1 ≤ total) (hle : c ≤ total)
    (hquotient : |quotient - 100 * (c / total)| ≤ 1202 * u) : quotient ≤ 101 := by
  have hshare : c / total ≤ 1 := (div_le_one (by linarith)).mpr hle
  have := (abs_le.mp hquotient).2
  linarith

theorem rounded_quotient_le (hu : 0 ≤ u) (hsmall : u ≤ 1 / 10 ^ 6) (hle : quotient ≤ 101)
    (hraw : |raw - quotient| ≤ (quotient + 1) * u) : raw ≤ 102 := by
  have hscaled := mul_le_mul_of_nonneg_right hle hu
  have := (abs_le.mp hraw).2
  linarith

theorem hundredths_near (hu : 0 ≤ u) (hquotientLe : quotient ≤ 101) (hrawLe : raw ≤ 102)
    (hquotient : |quotient - 100 * (c / total)| ≤ 1202 * u)
    (hraw : |raw - quotient| ≤ (quotient + 1) * u)
    (hhundredths : |hundredths - raw * 100| ≤ (raw * 100 + 1) * u) :
    |hundredths - 10000 * (c / total)| ≤ 2 ^ 18 * u := by
  have hquotientScaled := mul_le_mul_of_nonneg_right hquotientLe hu
  have hrawScaled := mul_le_mul_of_nonneg_right hrawLe hu
  rw [abs_le] at hquotient hraw hhundredths ⊢
  constructor <;> linarith

end Error

/-! ## 2. Percentages in hundredths -/

/-- The hundredths that a percentage consists of. -/
structure Hundredths (count total k : Nat) : Prop where
  le : k ≤ 10000
  rounds : Binary64.Rounds (k / 100) (percentage count total)
  near : |(k : ℚ) - 10000 * (count / total)| ≤ 1 / 2 + 2 ^ (-35 : ℤ)

theorem roundMagnitude_near {x : Binary64} {q : ℚ} (h : |x.magnitude - q| ≤ 2 ^ 18 * roundoff) :
    |(x.roundMagnitude : ℚ) - q| ≤ 1 / 2 + 2 ^ (-35 : ℤ) := by
  have hpower : (2 : ℚ) ^ 18 * roundoff = 2 ^ (-35 : ℤ) := by norm_num [roundoff]
  rw [hpower] at h
  calc |(x.roundMagnitude : ℚ) - q|
      ≤ |(x.roundMagnitude : ℚ) - x.magnitude| + |x.magnitude - q| := abs_sub_le _ _ _
    _ ≤ 1 / 2 + 2 ^ (-35 : ℤ) := add_le_add x.abs_roundMagnitude_sub_le h

theorem le_of_near {k : Nat} {share : ℚ} (hshare : share ≤ 1)
    (hnear : |(k : ℚ) - 10000 * share| ≤ 1 / 2 + 2 ^ (-35 : ℤ)) : k ≤ 10000 := by
  have hupper := (abs_le.mp hnear).2
  norm_num at hupper
  apply le_of_cast_lt_add_one
  push_cast
  linarith

/-- What the steps of a percentage end with: a number of hundredths, or nothing for a total that
is beyond the format. -/
inductive EndsIn (count total : Nat) : Option Binary64 → Prop where
  | hundredths {k : Nat} {x : Binary64} (le : k ≤ 10000) (rounds : Binary64.Rounds (k / 100) x)
      (near : |(k : ℚ) - 10000 * (count / total)| ≤ 1 / 2 + 2 ^ (-35 : ℤ)) :
      EndsIn count total (some x)
  | beyond (h : finiteBound ≤ 200 * total) : EndsIn count total none

theorem exists_endsIn {count total : Nat} (htotal : 0 < total) (hle : count ≤ total) :
    ∃ share, percentage count total = share.getD (.zero false) ∧ EndsIn count total share := by
  refine ⟨_, rfl, ?_⟩
  rw [Nat.max_eq_left htotal]
  have htotalCast : (1 : ℚ) ≤ total := by exact_mod_cast htotal
  have hleCast : (count : ℚ) ≤ total := by exact_mod_cast hle
  -- the six roundings before the last division, in their order
  refine (outcome_ofNat? 100).bind_of_le (by norm_num) fun hundred hhundred => ?_
  have hexact : hundred.magnitude = 100 := hhundred.magnitude_eq_natCast (by decide)
  refine (outcome_ofNat? total).bind (fun h => .beyond (by linarith)) fun whole hwhole => ?_
  refine (outcome_ofNat? count).bind (fun h => .beyond (by linarith)) fun part hpart => ?_
  have hdouble := le_double_of_near roundoff_le htotalCast (Nat.cast_nonneg count) hleCast
    hpart.near
  have hproductOutcome := outcome_mul? hhundred.negative_eq hpart.negative_eq
  rw [hexact] at hproductOutcome
  refine hproductOutcome.bind (fun h => .beyond (by linarith)) fun product hproduct => ?_
  obtain ⟨hdivisor, hquotient⟩ := quotient_near roundoff_pos.le roundoff_le htotalCast
    (Nat.cast_nonneg count) hleCast hwhole.near
    (product_near roundoff_pos.le htotalCast hleCast hdouble hpart.near hproduct.near)
  -- from here on no number is large
  have hquotientLe := quotient_le roundoff_le htotalCast hleCast hquotient
  refine (outcome_div? hproduct.negative_eq hwhole.negative_eq hdivisor).bind_of_le
    (by linarith) fun raw hraw => ?_
  have hrawLe := rounded_quotient_le roundoff_pos.le roundoff_le hquotientLe hraw.near
  have hscaledOutcome := outcome_mul? hraw.negative_eq hhundred.negative_eq
  rw [hexact] at hscaledOutcome
  refine hscaledOutcome.bind_of_le (by linarith) fun scaled hscaled => ?_
  have hnear := roundMagnitude_near (hundredths_near roundoff_pos.le hquotientLe hrawLe
    hquotient hraw.near hscaled.near)
  have hkLe := le_of_near ((div_le_one (by linarith)).mpr hleCast) hnear
  have hkLeCast : (scaled.roundMagnitude : ℚ) ≤ 10000 := by exact_mod_cast hkLe
  -- the hundredths are kept exactly
  refine (outcome_ofNat? scaled.roundMagnitude).bind_of_le (by linarith)
    fun hundredths hhundredths => ?_
  have hkept := hhundredths.magnitude_eq_natCast (lt_of_le_of_lt hkLe (by decide))
  have hlastOutcome := outcome_div? hhundredths.negative_eq hhundred.negative_eq (by
    rw [hexact]
    norm_num)
  rw [hkept, hexact] at hlastOutcome
  obtain ⟨share, hshare, hlast⟩ := hlastOutcome.exists_of_le (by linarith)
  exact hshare ▸ .hundredths hkLe hlast hnear

/-- A percentage is so many hundredths, unless the numbers are beyond the format. -/
theorem percentage_hundredths {count total : Nat} (htotal : 0 < total) (hle : count ≤ total) :
    (finiteBound ≤ 200 * total ∧ percentage count total = .zero false) ∨
      ∃ k, Hundredths count total k := by
  obtain ⟨share, hshare, hends⟩ := exists_endsIn htotal hle
  cases hends with
  | hundredths hk hrounds hnear => exact .inr ⟨_, hk, hshare ▸ hrounds, hnear⟩
  | beyond h => exact .inl ⟨h, hshare⟩

/-! ## 3. Totals of up to a thousand million

The exact share of a count is a fraction over the total.  With a total of up to `10 ^ 9`, a share
that is not half-way between two hundredths is further from there than the roundings of the
quotient can move it.  So the seven roundings together are as good as one. -/

variable {count total k : Nat}

theorem exists_hundredths (htotal : 0 < total) (hmax : total ≤ 10 ^ 9) (hle : count ≤ total) :
    ∃ k, Hundredths count total k := by
  refine (percentage_hundredths htotal hle).resolve_left fun ⟨hbeyond, _⟩ => ?_
  have htotalCast : (total : ℚ) ≤ 10 ^ 9 := by exact_mod_cast hmax
  exact absurd hbeyond (lt_finiteBound (by linarith)).not_ge

/-- **A share is rounded to the nearest hundredth.** -/
theorem Hundredths.near_half (h : Hundredths count total k) (htotal : 0 < total)
    (hmax : total ≤ 10 ^ 9) : |(k : ℚ) - 10000 * (count / total)| ≤ 1 / 2 := by
  have hpositive : (0 : ℚ) < total := Nat.cast_pos.mpr htotal
  have hmaxCast : (total : ℚ) ≤ 10 ^ 9 := by exact_mod_cast hmax
  have hscale : (k : ℚ) - 10000 * (count / total) =
      ((2 * k * total - 20000 * count : ℤ) : ℚ) / (2 * total) := by
    push_cast
    field_simp
    ring
  have hnear := h.near
  rw [hscale, abs_div, abs_of_pos (by positivity : (0 : ℚ) < 2 * total),
    div_le_iff₀ (by positivity)] at hnear ⊢
  -- twice the error in units of one part of the total is a whole number
  have hlt : |((2 * k * total - 20000 * count : ℤ) : ℚ)| < ((total + 1 : ℤ) : ℚ) := by
    push_cast at hnear ⊢
    norm_num at hnear
    linarith
  have hle : |(2 * k * total - 20000 * count : ℤ)| ≤ total := by
    rw [← Int.cast_abs, Int.cast_lt] at hlt
    omega
  have hleCast : |((2 * k * total - 20000 * count : ℤ) : ℚ)| ≤ total := by
    rw [← Int.cast_abs]
    exact_mod_cast hle
  linarith

/-- **A larger count has no smaller share.**  Shares that were in the wrong order would both be
half-way between two hundredths, so that the counts would be equal. -/
theorem Hundredths.le_of_lt {c₁ c₂ k₁ k₂ : Nat} (h₁ : Hundredths c₁ total k₁)
    (h₂ : Hundredths c₂ total k₂) (htotal : 0 < total) (hmax : total ≤ 10 ^ 9) (hlt : c₁ < c₂) :
    k₁ ≤ k₂ := by
  have hshares : (c₁ : ℚ) / total < c₂ / total :=
    div_lt_div_of_pos_right (Nat.cast_lt.mpr hlt) (Nat.cast_pos.mpr htotal)
  have hupper := (abs_le.mp (h₁.near_half htotal hmax)).2
  have hlower := (abs_le.mp (h₂.near_half htotal hmax)).1
  exact le_of_cast_lt_add_one (by linarith)

theorem Hundredths.eq_of_whole (h : Hundredths total total k) (htotal : 0 < total)
    (hmax : total ≤ 10 ^ 9) : k = 10000 := by
  have hnear := h.near_half htotal hmax
  rw [div_self (Nat.cast_ne_zero.mpr htotal.ne')] at hnear
  have hlower := (abs_le.mp hnear).1
  refine Nat.le_antisymm h.le (le_of_cast_lt_add_one ?_)
  push_cast
  linarith

end IncidentDigest
