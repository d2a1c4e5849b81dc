import IncidentDigest.Binary64
import Mathlib

/-!
# Rounding to 64 bits

Arithmetic rounds an exact ratio once.  `Rounds q x` says that `x` is what `q` is rounded to,
and `Grid` what this means: among the multiples of a power of two, fine enough for 53 bits, the
nearest one has been taken, the even one of two equally near.  The error bounds, the numbers
that are kept exactly and the order of rounded numbers follow from this alone.  `Outcome` is what
an operation comes to, also where its result is beyond the format.
-/

namespace IncidentDigest

/-! ## 1. Division to the nearest whole number -/

theorem roundDiv_cases (num den : Nat) (tie : Tie) :
    (roundDiv num den tie = num / den ∧ 2 * (num % den) ≤ den) ∨
      (roundDiv num den tie = num / den + 1 ∧ den ≤ 2 * (num % den)) := by
  unfold roundDiv
  dsimp only
  split
  · left
    omega
  · split
    · right
      omega
    · cases tie with
      | toEven =>
          dsimp only
          omega
      | awayFromZero =>
          right
          exact ⟨rfl, by omega⟩

/-- Half-way between two numbers the even one is taken. -/
theorem roundDiv_toEven_of_tie {num den : Nat} (h : 2 * (num % den) = den) :
    roundDiv num den .toEven % 2 = 0 := by
  unfold roundDiv
  dsimp only
  rw [if_neg (by omega), if_neg (by omega)]
  omega

theorem cast_div_eq (num : Nat) {den : Nat} (hden : 0 < den) :
    (num : ℚ) / den = (num / den : Nat) + (num % den : Nat) / (den : ℚ) := by
  have hpositive : (0 : ℚ) < den := Nat.cast_pos.mpr hden
  rw [div_eq_iff hpositive.ne', add_mul, div_mul_cancel₀ _ hpositive.ne']
  exact_mod_cast (Nat.div_add_mod' num den).symm

theorem le_of_cast_lt_add_one {m n : Nat} (h : (m : ℚ) < n + 1) : m ≤ n :=
  Nat.lt_succ_iff.mp (by exact_mod_cast h)

/-- Only two whole numbers are less than one away from a ratio. -/
theorem eq_div_or_succ {num den n : Nat} (hden : 0 < den) (h : |(n : ℚ) - num / den| < 1) :
    n = num / den ∨ n = num / den + 1 := by
  have hrest : (0 : ℚ) ≤ ((num % den : Nat) : ℚ) / den := by positivity
  have hlt : ((num % den : Nat) : ℚ) / den < 1 := by
    rw [div_lt_one (Nat.cast_pos.mpr hden)]
    exact_mod_cast Nat.mod_lt num hden
  rw [cast_div_eq num hden] at h
  obtain ⟨hlow, hhigh⟩ := abs_lt.mp h
  have hfrom : ((num / den : Nat) : ℚ) < (n + 1 : Nat) := by
    push_cast
    linarith
  have hto : (n : ℚ) < (num / den + 2 : Nat) := by
    push_cast
    linarith
  rw [Nat.cast_lt] at hfrom hto
  omega

theorem abs_roundDiv_sub_le (num : Nat) {den : Nat} (hden : 0 < den) (tie : Tie) :
    |(roundDiv num den tie : ℚ) - num / den| ≤ 1 / 2 := by
  have hpositive : (0 : ℚ) < den := Nat.cast_pos.mpr hden
  rw [cast_div_eq num hden, abs_le]
  rcases roundDiv_cases num den tie with ⟨h, hlow⟩ | ⟨h, hhigh⟩
  · have hrest : ((num % den : Nat) : ℚ) / den ≤ 1 / 2 := by
      rw [div_le_div_iff₀ hpositive two_pos]
      exact_mod_cast (by omega : num % den * 2 ≤ 1 * den)
    have hnonneg : (0 : ℚ) ≤ ((num % den : Nat) : ℚ) / den := by positivity
    rw [h]
    constructor <;> linarith
  · have hrest : (1 : ℚ) / 2 ≤ ((num % den : Nat) : ℚ) / den := by
      rw [div_le_div_iff₀ two_pos hpositive]
      exact_mod_cast (by omega : 1 * den ≤ num % den * 2)
    have hlt : ((num % den : Nat) : ℚ) / den < 1 := by
      rw [div_lt_one hpositive]
      exact_mod_cast Nat.mod_lt num hden
    rw [h]
    push_cast
    constructor <;> linarith

theorem abs_roundDiv_toEven_lt {num den : Nat} (hden : 0 < den)
    (hodd : roundDiv num den .toEven % 2 = 1) :
    |(roundDiv num den .toEven : ℚ) - num / den| < 1 / 2 := by
  have hpositive : (0 : ℚ) < den := Nat.cast_pos.mpr hden
  refine lt_of_le_of_ne (abs_roundDiv_sub_le num hden .toEven) ?_
  intro htie
  have hhalf : ((num % den : Nat) : ℚ) / den = 1 / 2 := by
    rw [cast_div_eq num hden] at htie
    have hnonneg : (0 : ℚ) ≤ ((num % den : Nat) : ℚ) / den := by positivity
    have hlt : ((num % den : Nat) : ℚ) / den < 1 := by
      rw [div_lt_one hpositive]
      exact_mod_cast Nat.mod_lt num hden
    rcases roundDiv_cases num den .toEven with ⟨h, -⟩ | ⟨h, -⟩
    · rw [h, sub_add_cancel_left, abs_neg, abs_of_nonneg hnonneg] at htie
      exact htie
    · rw [h] at htie
      push_cast at htie
      rw [add_sub_add_left_eq_sub, abs_of_pos (by linarith)] at htie
      linarith
  rw [div_eq_div_iff hpositive.ne' two_ne_zero] at hhalf
  have htwice : 2 * (num % den) = den := by
    have hnat : num % den * 2 = 1 * den := by exact_mod_cast hhalf
    omega
  have heven := roundDiv_toEven_of_tie htwice
  omega

/-! ## 2. Powers -/

theorem zpow_eq_div (b : ℚ) (e : ℤ) : b ^ e = b ^ e.toNat / b ^ (-e).toNat := by
  obtain ⟨n, rfl | rfl⟩ := e.eq_nat_or_neg
  · simp
  · simp

namespace Binary64

/-- The magnitude of a number. -/
def magnitude (x : Binary64) : ℚ := x.mantissa * 2 ^ x.exponent

/-- The number itself. -/
def toRat (x : Binary64) : ℚ := (if x.negative then -1 else 1) * x.magnitude

theorem numerator_div_denominator (x : Binary64) :
    (x.numerator : ℚ) / x.denominator = x.magnitude := by
  have hnum : (x.numerator : ℚ) = x.mantissa * 2 ^ x.exponent.toNat := by
    simp [numerator]
  have hden : (x.denominator : ℚ) = 2 ^ (-x.exponent).toNat := by
    simp [denominator]
  rw [hnum, hden, magnitude, zpow_eq_div, mul_div_assoc]

theorem denominator_pos (x : Binary64) : 0 < x.denominator := Nat.pow_pos two_pos

theorem numerator_pos_iff (x : Binary64) : 0 < x.numerator ↔ 0 < x.magnitude := by
  have hden : (0 : ℚ) < x.denominator := Nat.cast_pos.mpr x.denominator_pos
  rw [← numerator_div_denominator, div_pos_iff_of_pos_right hden, Nat.cast_pos]

theorem cast_log2_bounds {n : Nat} (hn : 0 < n) :
    (2 : ℚ) ^ (n.log2 : ℤ) ≤ n ∧ (n : ℚ) < 2 ^ ((n.log2 : ℤ) + 1) := by
  constructor
  · rw [zpow_natCast]
    exact_mod_cast Nat.log2_self_le hn.ne'
  · have hlt := Nat.lt_log2_self (n := n)
    rw [← Nat.cast_succ, zpow_natCast]
    exact_mod_cast hlt

/-- The binary order of a ratio is the exponent of its leading binary digit. -/
theorem binaryOrder_bounds {num den : Nat} (hnum : 0 < num) (hden : 0 < den) :
    (2 : ℚ) ^ binaryOrder num den ≤ num / den ∧
      (num : ℚ) / den < 2 ^ (binaryOrder num den + 1) := by
  have hpositive : (0 : ℚ) < den := Nat.cast_pos.mpr hden
  obtain ⟨hnumLow, hnumHigh⟩ := cast_log2_bounds hnum
  obtain ⟨hdenLow, hdenHigh⟩ := cast_log2_bounds hden
  unfold binaryOrder
  dsimp only
  generalize hk : (num.log2 : ℤ) - (den.log2 : ℤ) = k
  have hreaches : den * Nat.pow 2 k.toNat ≤ num * Nat.pow 2 (-k).toNat ↔
      (2 : ℚ) ^ k ≤ num / den := by
    rw [zpow_eq_div, div_le_div_iff₀ (by positivity) hpositive]
    simp only [Nat.pow_eq]
    rw [mul_comm den]
    exact_mod_cast Iff.rfl
  have hhigh : (num : ℚ) / den < 2 ^ (k + 1) := by
    rw [div_lt_iff₀ hpositive]
    have hsplit : (2 : ℚ) ^ ((num.log2 : ℤ) + 1) = 2 ^ (k + 1) * 2 ^ (den.log2 : ℤ) := by
      rw [← zpow_add₀ two_ne_zero]
      congr 1
      omega
    calc (num : ℚ) < 2 ^ (k + 1) * 2 ^ (den.log2 : ℤ) := hsplit ▸ hnumHigh
      _ ≤ 2 ^ (k + 1) * den := by gcongr
  have hlow : (2 : ℚ) ^ (k - 1) ≤ num / den := by
    rw [le_div_iff₀ hpositive]
    have hsplit : (2 : ℚ) ^ (num.log2 : ℤ) = 2 ^ (k - 1) * 2 ^ ((den.log2 : ℤ) + 1) := by
      rw [← zpow_add₀ two_ne_zero]
      congr 1
      omega
    calc (2 : ℚ) ^ (k - 1) * den ≤ 2 ^ (k - 1) * 2 ^ ((den.log2 : ℤ) + 1) := by gcongr
      _ ≤ num := hsplit ▸ hnumLow
  split
  · rename_i h
    exact ⟨hreaches.mp h, hhigh⟩
  · rename_i h
    rw [hreaches, not_le] at h
    rw [sub_add_cancel]
    exact ⟨hlow, h⟩

/-! ## 3. The grid of a number -/

/-- The number that a ratio is rounded to. -/
def Rounds (q : ℚ) (x : Binary64) : Prop :=
  ∃ num den : Nat, 0 < den ∧ q = num / den ∧ ofRatio? false num den = some x

/-- How `q` is rounded to `x`: to the multiple `m` of `2 ^ e`, where `e` is the exponent that
gives `q` its 53 digits, or the least one.  A mantissa that has grown by a digit is halved. -/
structure Grid (q : ℚ) (x : Binary64) (m : Nat) (e : ℤ) : Prop where
  error : |(m : ℚ) - q / 2 ^ e| ≤ 1 / 2
  error_lt : m % 2 = 1 → |(m : ℚ) - q / 2 ^ e| < 1 / 2
  least : minExponent ≤ e
  normal : e = minExponent ∨ (2 : ℚ) ^ (e + 52) ≤ q
  bound : q < 2 ^ (e + 53)
  result : (m < mantissaBound ∧ x = ⟨false, m, e⟩) ∨
    (m = mantissaBound ∧ x = ⟨false, m / 2, e + 1⟩)

/-- A mantissa that is rounded up has at most one digit more. -/
theorem le_mantissaBound {q : ℚ} {m : Nat} {e : ℤ} (herror : |(m : ℚ) - q / 2 ^ e| ≤ 1 / 2)
    (hbound : q < 2 ^ (e + 53)) : m ≤ mantissaBound := by
  have hpositive : (0 : ℚ) < 2 ^ e := by positivity
  have hquotient : q / 2 ^ e < mantissaBound := by
    rw [div_lt_iff₀ hpositive]
    have hpower : (2 : ℚ) ^ (e + 53) = mantissaBound * 2 ^ e := by
      rw [zpow_add₀ two_ne_zero, mul_comm]
      norm_num [mantissaBound]
    rwa [hpower] at hbound
  have hupper := (abs_le.mp herror).2
  exact le_of_cast_lt_add_one (by linarith)

theorem Rounds.exists_grid {q : ℚ} {x : Binary64} (h : Rounds q x) (hq : 0 < q) :
    ∃ m e, Grid q x m e := by
  obtain ⟨num, den, hden, rfl, hx⟩ := h
  have hpositive : (0 : ℚ) < den := Nat.cast_pos.mpr hden
  have hnum : 0 < num := by
    rw [div_pos_iff_of_pos_right hpositive] at hq
    exact_mod_cast hq
  obtain ⟨hlow, hhigh⟩ := binaryOrder_bounds hnum hden
  rw [ofRatio?, if_neg hnum.ne'] at hx
  dsimp only at hx
  generalize he : max (binaryOrder num den - 52) minExponent = e at hx
  generalize hm : roundDiv (num * Nat.pow 2 (-e).toNat) (den * Nat.pow 2 e.toNat) .toEven = m at hx
  have hscaled : 0 < den * Nat.pow 2 e.toNat := Nat.mul_pos hden (Nat.pow_pos two_pos)
  have hquotient : ((num * Nat.pow 2 (-e).toNat : Nat) : ℚ) / (den * Nat.pow 2 e.toNat : Nat) =
      (num : ℚ) / den / 2 ^ e := by
    simp only [Nat.pow_eq]
    push_cast
    rw [zpow_eq_div, div_div_eq_mul_div, div_mul_eq_mul_div, div_div]
  have herror : |(m : ℚ) - (num : ℚ) / den / 2 ^ e| ≤ 1 / 2 := by
    rw [← hm, ← hquotient]
    exact abs_roundDiv_sub_le _ hscaled _
  have hbound : (num : ℚ) / den < 2 ^ (e + 53) := by
    refine lt_of_lt_of_le hhigh ?_
    apply zpow_le_zpow_right₀ one_le_two
    omega
  refine ⟨m, e, herror, ?_, ?_, ?_, hbound, ?_⟩
  · intro hodd
    rw [← hm, ← hquotient]
    exact abs_roundDiv_toEven_lt hscaled (hm ▸ hodd)
  · exact he ▸ le_max_right _ _
  · rcases max_choice (binaryOrder num den - 52) minExponent with hmax | hmax
    · right
      rw [← he, hmax, sub_add_cancel]
      exact hlow
    · left
      rw [← he, hmax]
  · have hle := le_mantissaBound herror hbound
    rcases Nat.lt_or_eq_of_le hle with hlt | heq
    · left
      rw [if_pos hlt] at hx
      split at hx
      · exact ⟨hlt, (Option.some.inj hx).symm⟩
      · cases hx
    · right
      rw [if_neg (Nat.not_lt.mpr heq.ge)] at hx
      split at hx
      · exact ⟨heq, (Option.some.inj hx).symm⟩
      · cases hx

namespace Grid

variable {q : ℚ} {x : Binary64} {m : Nat} {e : ℤ}

theorem magnitude_eq (h : Grid q x m e) : x.magnitude = m * 2 ^ e := by
  rcases h.result with ⟨-, rfl⟩ | ⟨hm, rfl⟩
  · rfl
  · subst hm
    rw [magnitude, zpow_add_one₀ two_ne_zero]
    norm_num [mantissaBound]
    ring

theorem negative_eq (h : Grid q x m e) : x.negative = false := by
  rcases h.result with ⟨-, rfl⟩ | ⟨-, rfl⟩
  · rfl
  · rfl

/-- A number is off by half a step at most. -/
theorem abs_magnitude_sub_le (h : Grid q x m e) : |x.magnitude - q| ≤ 2 ^ e / 2 := by
  have hpositive : (0 : ℚ) < 2 ^ e := by positivity
  have hscale : x.magnitude - q = ((m : ℚ) - q / 2 ^ e) * 2 ^ e := by
    rw [h.magnitude_eq, sub_mul, div_mul_cancel₀ _ hpositive.ne']
  rw [hscale, abs_mul, abs_of_pos hpositive]
  have herror := h.error
  nlinarith

/-- A step is small against the number, unless it is the least one. -/
theorem step_le (h : Grid q x m e) (hq : 0 < q) :
    (2 : ℚ) ^ e ≤ q * 2 ^ (-52 : ℤ) + 2 ^ minExponent := by
  rcases h.normal with rfl | hnormal
  · have : 0 ≤ q * (2 : ℚ) ^ (-52 : ℤ) := by positivity
    linarith
  · have hsplit : (2 : ℚ) ^ e = 2 ^ (e + 52) * 2 ^ (-52 : ℤ) := by
      rw [← zpow_add₀ two_ne_zero]
      congr 1
      omega
    have hstep : (2 : ℚ) ^ e ≤ q * 2 ^ (-52 : ℤ) := by
      rw [hsplit]
      gcongr
    have : (0 : ℚ) < 2 ^ minExponent := by positivity
    linarith

end Grid

/-! ## 4. Errors -/

theorem Rounds.eq_zero {x : Binary64} (h : Rounds 0 x) : x = zero false := by
  obtain ⟨num, den, hden, hq, hx⟩ := h
  have hpositive : (0 : ℚ) < den := Nat.cast_pos.mpr hden
  have hnum : num = 0 := by
    rw [eq_comm, div_eq_zero_iff] at hq
    exact_mod_cast hq.resolve_right hpositive.ne'
  rw [ofRatio?, if_pos hnum] at hx
  exact (Option.some.inj hx).symm

theorem magnitude_zero (negative : Bool) : (zero negative).magnitude = 0 := by
  simp [magnitude, zero]

theorem Rounds.nonneg {q : ℚ} {x : Binary64} (h : Rounds q x) : 0 ≤ q := by
  obtain ⟨num, den, hden, rfl, hx⟩ := h
  positivity

theorem Rounds.negative_eq {q : ℚ} {x : Binary64} (h : Rounds q x) : x.negative = false := by
  rcases h.nonneg.lt_or_eq with hq | rfl
  · obtain ⟨m, e, hgrid⟩ := h.exists_grid hq
    exact hgrid.negative_eq
  · rw [h.eq_zero]
    rfl

theorem Rounds.toRat_eq {q : ℚ} {x : Binary64} (h : Rounds q x) : x.toRat = x.magnitude := by
  rw [toRat, h.negative_eq, if_neg (by decide), one_mul]

/-- **Rounding is off by one part in `2 ^ 53` at most**, and by half the least number. -/
theorem Rounds.abs_magnitude_sub_le {q : ℚ} {x : Binary64} (h : Rounds q x) :
    |x.magnitude - q| ≤ q * 2 ^ (-53 : ℤ) + 2 ^ (minExponent - 1) := by
  have hhalf : ∀ e : ℤ, (2 : ℚ) ^ (e - 1) = 2 ^ e / 2 := fun e => zpow_sub_one₀ two_ne_zero e
  rcases h.nonneg.lt_or_eq with hq | rfl
  · obtain ⟨m, e, hgrid⟩ := h.exists_grid hq
    have hstep := hgrid.step_le hq
    have hfine : (2 : ℚ) ^ (-53 : ℤ) = 2 ^ (-52 : ℤ) / 2 := by norm_num
    calc |x.magnitude - q| ≤ 2 ^ e / 2 := hgrid.abs_magnitude_sub_le
      _ ≤ (q * 2 ^ (-52 : ℤ) + 2 ^ minExponent) / 2 := by gcongr
      _ = q * 2 ^ (-53 : ℤ) + 2 ^ (minExponent - 1) := by
        rw [hhalf minExponent, hfine]
        ring
  · rw [h.eq_zero, magnitude_zero]
    simp only [sub_zero, abs_zero, zero_mul, zero_add]
    positivity

/-- **Whole numbers of 53 bits are exact.** -/
theorem Rounds.magnitude_eq_natCast {n : Nat} {x : Binary64} (h : Rounds n x)
    (hn : n < mantissaBound) : x.magnitude = n := by
  rcases Nat.eq_zero_or_pos n with rfl | hpositive
  · rw [Nat.cast_zero] at h
    rw [h.eq_zero, magnitude_zero, Nat.cast_zero]
  · obtain ⟨m, e, hgrid⟩ := h.exists_grid (Nat.cast_pos.mpr hpositive)
    have he : e ≤ 0 := by
      rcases hgrid.normal with rfl | hnormal
      · decide
      · have hlt : (2 : ℚ) ^ (e + 52) < 2 ^ (53 : ℤ) := by
          refine lt_of_le_of_lt hnormal ?_
          have hcast : (n : ℚ) < mantissaBound := Nat.cast_lt.mpr hn
          norm_num [mantissaBound] at hcast ⊢
          exact hcast
        have hexponent := (zpow_lt_zpow_iff_right₀ one_lt_two).mp hlt
        omega
    -- the number is a multiple of the step, so that nothing is rounded
    have hquotient : (n : ℚ) / 2 ^ e = ((n * 2 ^ (-e).toNat : Nat) : ℚ) := by
      push_cast
      rw [div_eq_mul_inv, ← zpow_neg, zpow_eq_div 2 (-e)]
      simp [Int.toNat_of_nonpos he]
    have hm : m = n * 2 ^ (-e).toNat := by
      have herror := hgrid.error
      rw [hquotient] at herror
      have hint : |(m : ℤ) - (n * 2 ^ (-e).toNat : Nat)| < 1 := by
        have hlt : |(m : ℚ) - ((n * 2 ^ (-e).toNat : Nat) : ℚ)| < 1 := by linarith
        exact_mod_cast hlt
      have hzero := Int.abs_lt_one_iff.mp hint
      omega
    rw [hgrid.magnitude_eq, hm, ← hquotient, div_mul_cancel₀ _ (by positivity)]

/-! ## 5. Order -/

namespace Grid

variable {q q₁ q₂ : ℚ} {x x₁ x₂ : Binary64} {m m₁ m₂ : Nat} {e e₁ e₂ : ℤ}

/-- The step of a larger number is no finer. -/
theorem exponent_mono (h₁ : Grid q₁ x₁ m₁ e₁) (h₂ : Grid q₂ x₂ m₂ e₂) (hle : q₁ ≤ q₂) :
    e₁ ≤ e₂ := by
  by_contra hlt
  rw [not_le] at hlt
  have hleast := h₂.least
  have hnormal := h₁.normal.resolve_left (by omega)
  have hpower : (2 : ℚ) ^ (e₂ + 53) ≤ 2 ^ (e₁ + 52) :=
    zpow_le_zpow_right₀ one_le_two (by omega)
  have hbound := h₂.bound
  linarith

/-- With the same step the multiples are in order: two that were not would be neighbours of a
tie, of which only the even one is taken. -/
theorem mantissa_mono (h₁ : Grid q₁ x₁ m₁ e) (h₂ : Grid q₂ x₂ m₂ e) (hle : q₁ ≤ q₂) :
    m₁ ≤ m₂ := by
  have hquotient : q₁ / 2 ^ e ≤ q₂ / 2 ^ e := by gcongr
  have hupper := (abs_le.mp h₁.error).2
  have hlower := (abs_le.mp h₂.error).1
  by_contra hlt
  rw [not_le] at hlt
  have hsucc : (m₂ : ℚ) + 1 ≤ m₁ := by exact_mod_cast hlt
  rcases Nat.mod_two_eq_zero_or_one m₁ with heven₁ | hodd₁
  · rcases Nat.mod_two_eq_zero_or_one m₂ with heven₂ | hodd₂
    · have hapart : (m₂ : ℚ) + 2 ≤ m₁ := by exact_mod_cast (by omega : m₂ + 2 ≤ m₁)
      linarith
    · have hlower' := (abs_lt.mp (h₂.error_lt hodd₂)).1
      linarith
  · have hupper' := (abs_lt.mp (h₁.error_lt hodd₁)).2
    linarith

theorem magnitude_le (h : Grid q x m e) : x.magnitude ≤ 2 ^ (e + 53) := by
  have hcast : (m : ℚ) ≤ mantissaBound := Nat.cast_le.mpr (le_mantissaBound h.error h.bound)
  have hpower : (mantissaBound : ℚ) = 2 ^ (53 : ℤ) := by norm_num [mantissaBound]
  rw [h.magnitude_eq, add_comm, zpow_add₀ two_ne_zero, ← hpower]
  gcongr

/-- A mantissa that is rounded down keeps its digits. -/
theorem le_magnitude (h : Grid q x m e) (hnormal : (2 : ℚ) ^ (e + 52) ≤ q) :
    2 ^ (e + 52) ≤ x.magnitude := by
  have hpositive : (0 : ℚ) < 2 ^ e := by positivity
  rw [add_comm, zpow_add₀ two_ne_zero] at hnormal ⊢
  have hpower : (2 : ℚ) ^ (52 : ℤ) = (2 ^ 52 : Nat) := by norm_num
  rw [hpower] at hnormal ⊢
  have hquotient := (le_div_iff₀ hpositive).mpr hnormal
  have hlower := (abs_le.mp h.error).1
  have hfull : ((2 ^ 52 : Nat) : ℚ) ≤ m :=
    Nat.cast_le.mpr (le_of_cast_lt_add_one (by linarith))
  rw [h.magnitude_eq]
  gcongr

end Grid

/-- **Rounding keeps the order of ratios.** -/
theorem Rounds.magnitude_mono {q₁ q₂ : ℚ} {x₁ x₂ : Binary64} (h₁ : Rounds q₁ x₁)
    (h₂ : Rounds q₂ x₂) (hle : q₁ ≤ q₂) : x₁.magnitude ≤ x₂.magnitude := by
  rcases h₁.nonneg.lt_or_eq with hpositive | rfl
  · obtain ⟨m₁, e₁, hgrid₁⟩ := h₁.exists_grid hpositive
    obtain ⟨m₂, e₂, hgrid₂⟩ := h₂.exists_grid (hpositive.trans_le hle)
    rcases (hgrid₁.exponent_mono hgrid₂ hle).lt_or_eq with hlt | rfl
    · have hleast := hgrid₁.least
      have hnormal := hgrid₂.normal.resolve_left (by omega)
      calc x₁.magnitude ≤ 2 ^ (e₁ + 53) := hgrid₁.magnitude_le
        _ ≤ 2 ^ (e₂ + 52) := zpow_le_zpow_right₀ one_le_two (by omega)
        _ ≤ x₂.magnitude := hgrid₂.le_magnitude hnormal
    · have hcast : (m₁ : ℚ) ≤ m₂ := Nat.cast_le.mpr (hgrid₁.mantissa_mono hgrid₂ hle)
      rw [hgrid₁.magnitude_eq, hgrid₂.magnitude_eq]
      gcongr
  · rw [h₁.eq_zero, magnitude_zero, magnitude]
    positivity

/-! ## 6. Operations -/

/-- Ratios below this power of two are rounded to finite numbers. -/
def finiteBound : ℚ := 2 ^ (1023 : ℤ)

theorem lt_finiteBound {q : ℚ} (h : q ≤ 10 ^ 12) : q < finiteBound := by
  have hpower : (10 : ℚ) ^ 12 < 2 ^ (40 : ℤ) := by norm_num
  have hbound : (2 : ℚ) ^ (40 : ℤ) ≤ finiteBound := zpow_le_zpow_right₀ one_le_two (by decide)
  exact (h.trans_lt hpower).trans_le hbound

/-- An operation with the exact result `q` gives the number that `q` is rounded to, or nothing
because `q` is beyond the format. -/
inductive Outcome (q : ℚ) : Option Binary64 → Prop where
  | rounded {x : Binary64} (h : Rounds q x) : Outcome q (some x)
  | beyond (h : finiteBound ≤ q) : Outcome q none

/-- What holds whether a step gives a number or not, holds of the steps from there on. -/
theorem Outcome.bind {β : Type} {P : Option β → Prop} {q : ℚ} {o : Option Binary64}
    {f : Binary64 → Option β} (h : Outcome q o) (hbeyond : finiteBound ≤ q → P none)
    (hrounded : ∀ x, Rounds q x → P (f x)) : P (o.bind f) := by
  cases h with
  | rounded h => exact hrounded _ h
  | beyond h => exact hbeyond h

theorem Outcome.exists_of_le {q : ℚ} {o : Option Binary64} (h : Outcome q o) (hq : q ≤ 10 ^ 12) :
    ∃ x, o = some x ∧ Rounds q x := by
  cases h with
  | rounded h => exact ⟨_, rfl, h⟩
  | beyond h => exact absurd h (lt_finiteBound hq).not_ge

theorem Outcome.bind_of_le {β : Type} {P : Option β → Prop} {q : ℚ} {o : Option Binary64}
    {f : Binary64 → Option β} (h : Outcome q o) (hq : q ≤ 10 ^ 12)
    (hrounded : ∀ x, Rounds q x → P (f x)) : P (o.bind f) := by
  obtain ⟨x, rfl, hx⟩ := h.exists_of_le hq
  exact hrounded x hx

theorem isSome_ofRatio? (negative : Bool) {num den : Nat} (hden : 0 < den)
    (h : (num : ℚ) / den < finiteBound) : (ofRatio? negative num den).isSome = true := by
  rcases Nat.eq_zero_or_pos num with rfl | hnum
  · rw [ofRatio?, if_pos rfl]
    rfl
  · have horder : binaryOrder num den < 1023 :=
      (zpow_lt_zpow_iff_right₀ one_lt_two).mp
        (lt_of_le_of_lt (binaryOrder_bounds hnum hden).1 h)
    -- there is room for a carry above the exponent of the ratio
    have hroom : max (binaryOrder num den - 52) minExponent + 1 ≤ maxExponent := by
      unfold minExponent maxExponent
      omega
    rw [ofRatio?, if_neg hnum.ne']
    dsimp only
    generalize max (binaryOrder num den - 52) minExponent = e at hroom
    rw [if_pos]
    · rfl
    · split
      · exact (lt_add_one e).le.trans hroom
      · exact hroom

theorem outcome_ofRatio? (num : Nat) {den : Nat} (hden : 0 < den) :
    Outcome (num / den) (ofRatio? false num den) := by
  cases h : ofRatio? false num den with
  | some x => exact .rounded ⟨num, den, hden, rfl, h⟩
  | none =>
      refine .beyond (not_lt.mp fun hlt => ?_)
      have hsome := isSome_ofRatio? false hden hlt
      rw [h] at hsome
      cases hsome

theorem outcome_ofNat? (n : Nat) : Outcome n (ofNat? n) := by
  have h := outcome_ofRatio? n Nat.one_pos
  rwa [Nat.cast_one, div_one] at h

variable {x y : Binary64}

theorem outcome_mul? (hx : x.negative = false) (hy : y.negative = false) :
    Outcome (x.magnitude * y.magnitude) (x.mul? y) := by
  have h := outcome_ofRatio? (x.numerator * y.numerator)
    (Nat.mul_pos x.denominator_pos y.denominator_pos)
  push_cast at h
  rw [← div_mul_div_comm, numerator_div_denominator, numerator_div_denominator] at h
  rw [mul?, hx, hy]
  exact h

theorem outcome_div? (hx : x.negative = false) (hy : y.negative = false)
    (hdivisor : 0 < y.magnitude) : Outcome (x.magnitude / y.magnitude) (x.div? y) := by
  have h := outcome_ofRatio? (x.numerator * y.denominator)
    (Nat.mul_pos x.denominator_pos (y.numerator_pos_iff.mpr hdivisor))
  push_cast at h
  rw [← div_div_div_eq, numerator_div_denominator, numerator_div_denominator] at h
  rw [div?, hx, hy]
  exact h

theorem abs_roundMagnitude_sub_le (x : Binary64) :
    |(x.roundMagnitude : ℚ) - x.magnitude| ≤ 1 / 2 := by
  rw [← numerator_div_denominator]
  exact abs_roundDiv_sub_le _ x.denominator_pos _

end Binary64
end IncidentDigest
