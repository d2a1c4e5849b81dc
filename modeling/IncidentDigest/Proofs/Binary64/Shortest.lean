import IncidentDigest.Binary64.Shortest
import IncidentDigest.Proofs.Binary64.Rounding

/-!
# The shortest decimal of a rounded decimal

A decimal that is rounded to a number is among the decimals that identify this number, and all
of these lie within one step of each other.  So where the steps of the numbers are much finer
than a grid of decimals, one decimal of the grid at most identifies a number, and the search,
which goes from coarse grids to fine ones, can only end with this one (`shortest_value`).
-/

namespace IncidentDigest

/-! ## 1. Values of decimals -/

namespace Decimal

def value (d : Decimal) : ℚ := d.digits * 10 ^ d.exponent

/-- The comparison is that of the two values: both sides are scaled alike. -/
theorem compareDyadic_eq (d : Decimal) (n : Nat) (j : ℤ) :
    d.compareDyadic n j = cmp d.value (n * 2 ^ j) := by
  have hscale : (0 : ℚ) < 10 ^ (-d.exponent).toNat * 2 ^ (-j).toNat := by positivity
  have hten : (10 : ℚ) ^ (-d.exponent).toNat ≠ 0 := by positivity
  have htwo : (2 : ℚ) ^ (-j).toNat ≠ 0 := by positivity
  have hleft : ((d.digits * Nat.pow 10 d.exponent.toNat * Nat.pow 2 (-j).toNat : Nat) : ℚ) =
      d.value * (10 ^ (-d.exponent).toNat * 2 ^ (-j).toNat) := by
    simp only [Nat.pow_eq]
    push_cast
    rw [value, zpow_eq_div 10 d.exponent]
    field_simp
  have hright : ((n * Nat.pow 2 j.toNat * Nat.pow 10 (-d.exponent).toNat : Nat) : ℚ) =
      n * 2 ^ j * (10 ^ (-d.exponent).toNat * 2 ^ (-j).toNat) := by
    simp only [Nat.pow_eq]
    push_cast
    rw [zpow_eq_div 2 j]
    field_simp
  rw [← cmp_mul_pos_right hscale, ← hleft, ← hright, Nat.strictMono_cast.cmp_map_eq,
    cmp_eq_compare]
  rfl

/-- Zeros at the end do not count. -/
theorem value_strip (d : Decimal) : d.strip.value = d.value := by
  fun_induction strip d with
  | case1 d h ih =>
      have hdigits : d.digits = d.digits / 10 * 10 := by omega
      have hcast : (d.digits : ℚ) = (d.digits / 10 : Nat) * 10 := by exact_mod_cast hdigits
      rw [ih, value, value, hcast, zpow_add_one₀ (by norm_num)]
      ring
  | case2 d h => rfl

/-- On a coarser grid stand fewer of the same decimals. -/
theorem exists_value_eq_of_le {d : Decimal} {k : ℤ} (h : k ≤ d.exponent) :
    ∃ n : Nat, d.value = n * 10 ^ k := by
  refine ⟨d.digits * 10 ^ (d.exponent - k).toNat, ?_⟩
  have hsplit : (10 : ℚ) ^ d.exponent = 10 ^ (d.exponent - k).toNat * 10 ^ k := by
    rw [← zpow_natCast, ← zpow_add₀ (by norm_num), Int.toNat_of_nonneg (by omega)]
    congr 1
    omega
  push_cast
  rw [value, hsplit, mul_assoc]

end Decimal

namespace Binary64

variable {x : Binary64} {d : Decimal}

/-! ## 2. The decimals that identify a number -/

/-- The two ends of the interval, in quarters of a step. -/
theorem admits_iff : x.admits d = true ↔
    (((4 * x.mantissa - (if x.narrowBelow then 1 else 2) : Nat) : ℚ) * 2 ^ (x.exponent - 2) <
        d.value ∨
      x.mantissa % 2 = 0 ∧
        ((4 * x.mantissa - (if x.narrowBelow then 1 else 2) : Nat) : ℚ) * 2 ^ (x.exponent - 2) =
          d.value) ∧
    (d.value < ((4 * x.mantissa + 2 : Nat) : ℚ) * 2 ^ (x.exponent - 2) ∨
      x.mantissa % 2 = 0 ∧
        d.value = ((4 * x.mantissa + 2 : Nat) : ℚ) * 2 ^ (x.exponent - 2)) := by
  unfold admits
  dsimp only
  rw [d.compareDyadic_eq, d.compareDyadic_eq]
  simp only [Bool.and_eq_true, Bool.or_eq_true, beq_iff_eq, cmp_eq_gt_iff, cmp_eq_eq_iff,
    cmp_eq_lt_iff]
  rw [eq_comm (a := d.value)]

theorem two_zpow_eq (e : ℤ) : (2 : ℚ) ^ e = 4 * 2 ^ (e - 2) := by
  rw [zpow_sub₀ two_ne_zero]
  norm_num
  ring

/-- What identifies a number is half a step away from it at most. -/
theorem abs_value_sub_le (hx : 0 < x.mantissa) (h : x.admits d = true) :
    |d.value - x.magnitude| ≤ 2 ^ x.exponent / 2 := by
  obtain ⟨hlow, hhigh⟩ := admits_iff.mp h
  have hpositive : (0 : ℚ) < 2 ^ (x.exponent - 2) := by positivity
  have hend : ((4 * x.mantissa - 2 : Nat) : ℚ) ≤
      (4 * x.mantissa - (if x.narrowBelow then 1 else 2) : Nat) := by
    apply Nat.cast_le.mpr
    split <;> omega
  have hsub : ((4 * x.mantissa - 2 : Nat) : ℚ) = 4 * x.mantissa - 2 := by
    rw [Nat.cast_sub (by omega)]
    push_cast
    ring
  have hfrom : (4 * (x.mantissa : ℚ) - 2) * 2 ^ (x.exponent - 2) ≤ d.value := by
    rw [← hsub]
    refine le_trans (mul_le_mul_of_nonneg_right hend hpositive.le) ?_
    rcases hlow with hlt | ⟨-, heq⟩
    · exact hlt.le
    · exact heq.le
  have hto : d.value ≤ (4 * (x.mantissa : ℚ) + 2) * 2 ^ (x.exponent - 2) := by
    have hcast : ((4 * x.mantissa + 2 : Nat) : ℚ) = 4 * x.mantissa + 2 := by push_cast; rfl
    rw [hcast] at hhigh
    rcases hhigh with hlt | ⟨-, heq⟩
    · exact hlt.le
    · exact heq.le
  rw [magnitude, two_zpow_eq x.exponent, abs_le]
  constructor <;> nlinarith

namespace Grid

variable {q : ℚ} {m : Nat} {e : ℤ}

/-- What is rounded lies between the two middles next to the multiple, and meets them only if
this is even. -/
theorem within (h : Grid q x m e) :
    ((4 * (m : ℚ) - 2) * 2 ^ (e - 2) < q ∨
      m % 2 = 0 ∧ (4 * (m : ℚ) - 2) * 2 ^ (e - 2) = q) ∧
    (q < (4 * (m : ℚ) + 2) * 2 ^ (e - 2) ∨
      m % 2 = 0 ∧ q = (4 * (m : ℚ) + 2) * 2 ^ (e - 2)) := by
  have hpositive : (0 : ℚ) < 2 ^ (e - 2) := by positivity
  have hquotient : q / 2 ^ e * 4 * 2 ^ (e - 2) = q := by
    rw [mul_assoc, ← two_zpow_eq, div_mul_cancel₀ _ (by positivity)]
  rcases Nat.mod_two_eq_zero_or_one m with heven | hodd
  · obtain ⟨hlow, hhigh⟩ := abs_le.mp h.error
    have hfrom : (4 * (m : ℚ) - 2) * 2 ^ (e - 2) ≤ q := by
      rw [← hquotient]
      nlinarith
    have hto : q ≤ (4 * (m : ℚ) + 2) * 2 ^ (e - 2) := by
      rw [← hquotient]
      nlinarith
    exact ⟨hfrom.lt_or_eq.imp_right fun heq => ⟨heven, heq⟩,
      hto.lt_or_eq.imp_right fun heq => ⟨heven, heq⟩⟩
  · obtain ⟨hlow, hhigh⟩ := abs_lt.mp (h.error_lt hodd)
    constructor
    · left
      rw [← hquotient]
      nlinarith
    · left
      rw [← hquotient]
      nlinarith

/-- At a power of two the neighbour below is nearer, but no ratio is rounded up to it. -/
theorem lt_of_narrowBelow (h : Grid q x m e) (hnarrow : narrowBelow ⟨false, m, e⟩ = true) :
    ((4 * m - 1 : Nat) : ℚ) * 2 ^ (e - 2) < q := by
  simp only [narrowBelow, Bool.and_eq_true, beq_iff_eq, bne_iff_ne, ne_eq] at hnarrow
  have hpositive : (0 : ℚ) < 2 ^ (e - 2) := by positivity
  have hhalf : m = 2 ^ 52 := by
    have hdouble := hnarrow.1
    norm_num [mantissaBound] at hdouble ⊢
    omega
  have hleast := h.normal.resolve_left hnarrow.2
  rw [zpow_add₀ two_ne_zero, two_zpow_eq e] at hleast
  subst hhalf
  norm_num at hleast ⊢
  linarith

theorem admits_of_lt (h : Grid q x m e) (hq : 0 < q) (hd : d.value = q) :
    admits ⟨false, m, e⟩ d = true := by
  obtain ⟨hlow, hhigh⟩ := h.within
  rw [admits_iff, hd]
  constructor
  · by_cases hnarrow : narrowBelow ⟨false, m, e⟩ = true
    · left
      rw [if_pos hnarrow]
      exact h.lt_of_narrowBelow hnarrow
    · rw [if_neg hnarrow]
      rcases Nat.eq_zero_or_pos m with rfl | hpos
      · left
        simpa using hq
      · rw [Nat.cast_sub (by omega : 2 ≤ 4 * m)]
        push_cast
        exact hlow
  · push_cast
    exact hhigh

/-- After a carry the multiple is a power of two, and the middle below it is the old one. -/
theorem admits_of_carry (h : Grid q x mantissaBound e) (hd : d.value = q) :
    admits ⟨false, mantissaBound / 2, e + 1⟩ d = true := by
  have hpositive : (0 : ℚ) < 2 ^ (e - 2) := by positivity
  have hleast := h.least
  have hbound := h.bound
  obtain ⟨hlow, -⟩ := h.within
  have hstep : (2 : ℚ) ^ (e + 1 - 2) = 2 * 2 ^ (e - 2) := by
    rw [show e + 1 - 2 = e - 2 + 1 by omega, zpow_add_one₀ two_ne_zero, mul_comm]
  have hnarrow : narrowBelow ⟨false, mantissaBound / 2, e + 1⟩ = true := by
    simp only [narrowBelow, Bool.and_eq_true, beq_iff_eq, bne_iff_ne, ne_eq]
    refine ⟨rfl, ?_⟩
    omega
  rw [zpow_add₀ two_ne_zero, two_zpow_eq e] at hbound
  rw [admits_iff, hd, if_pos hnarrow]
  dsimp only
  rw [hstep]
  norm_num [mantissaBound] at hlow hbound ⊢
  constructor
  · rcases hlow with hlt | heq
    · left
      linarith
    · right
      linarith
  · left
    linarith

/-- **A decimal identifies the number that it is rounded to.** -/
theorem admits_value (h : Grid q x m e) (hq : 0 < q) (hd : d.value = q) : x.admits d = true := by
  rcases h.result with ⟨-, hx⟩ | ⟨rfl, hx⟩
  · exact hx ▸ h.admits_of_lt hq hd
  · exact hx ▸ h.admits_of_carry hd

end Grid

/-! ## 3. The search -/

theorem nearestOnGrid?_spec {tie : Tie} {k : ℤ} (h : x.nearestOnGrid? tie k = some d) :
    d.exponent = k ∧ x.admits d = true := by
  unfold nearestOnGrid? at h
  dsimp only at h
  split at h
  · rename_i hbelow habove
    obtain rfl := Option.some.inj h
    rcases roundDiv_cases (x.numerator * Nat.pow 10 (-k).toNat)
      (x.denominator * Nat.pow 10 k.toNat) tie with ⟨hdigits, -⟩ | ⟨hdigits, -⟩
    · rw [hdigits]
      exact ⟨rfl, hbelow⟩
    · rw [hdigits]
      exact ⟨rfl, habove⟩
  · rename_i hbelow _
    obtain rfl := Option.some.inj h
    exact ⟨rfl, hbelow⟩
  · rename_i _ habove
    obtain rfl := Option.some.inj h
    exact ⟨rfl, habove⟩
  · cases h

/-- On a grid that is coarser than the numbers, what identifies a number is one of the two
decimals next to it, so that the search finds it. -/
theorem nearestOnGrid?_isSome (tie : Tie) {n : Nat} {k : ℤ} (hx : 0 < x.mantissa)
    (h : x.admits ⟨n, k⟩ = true) (hfine : (2 : ℚ) ^ x.exponent < 10 ^ k) :
    (x.nearestOnGrid? tie k).isSome = true := by
  have hgrid : (0 : ℚ) < 10 ^ k := by positivity
  generalize hnum : x.numerator * Nat.pow 10 (-k).toNat = num
  generalize hden : x.denominator * Nat.pow 10 k.toNat = den
  have hpositive : 0 < den := hden ▸ Nat.mul_pos x.denominator_pos (Nat.pow_pos (by decide))
  have hquotient : (num : ℚ) / den = x.magnitude / 10 ^ k := by
    rw [← hnum, ← hden, ← numerator_div_denominator, zpow_eq_div 10 k]
    simp only [Nat.pow_eq]
    push_cast
    field_simp
  have hnear : |(n : ℚ) - num / den| < 1 := by
    have hdistance := abs_value_sub_le hx h
    have hscale : (n : ℚ) - num / den = (Decimal.value ⟨n, k⟩ - x.magnitude) / 10 ^ k := by
      rw [hquotient, Decimal.value, sub_div, mul_div_cancel_right₀ _ hgrid.ne']
    rw [hscale, abs_div, abs_of_pos hgrid, div_lt_one hgrid]
    have hstep : (0 : ℚ) < 2 ^ x.exponent := by positivity
    linarith
  unfold nearestOnGrid?
  dsimp only
  rw [hnum, hden]
  rcases eq_div_or_succ hpositive hnear with heq | heq
  · rw [heq] at h
    rw [h]
    cases x.admits ⟨num / den + 1, k⟩ <;> rfl
  · rw [heq] at h
    rw [h]
    cases x.admits ⟨num / den, k⟩ <;> rfl

/-- The first hit of a search comes no later than any other hit. -/
theorem exists_findSome?_range {β : Type} {f : Nat → Option β} {i n : Nat} (hi : i < n)
    (h : (f i).isSome = true) :
    ∃ j ≤ i, ∃ b, (List.range n).findSome? f = some b ∧ f j = some b := by
  induction n with
  | zero => exact absurd hi (Nat.not_lt_zero i)
  | succ n ih =>
      rw [List.range_succ, List.findSome?_append]
      rcases Nat.lt_succ_iff_lt_or_eq.mp hi with hlt | rfl
      · obtain ⟨j, hj, b, hfound, hfj⟩ := ih hlt
        exact ⟨j, hj, b, by rw [hfound, Option.some_or], hfj⟩
      · cases hfound : (List.range i).findSome? f with
        | some b =>
            obtain ⟨j, hj, hfj⟩ := List.exists_of_findSome?_eq_some hfound
            exact ⟨j, (List.mem_range.mp hj).le, b, by rw [Option.some_or], hfj⟩
        | none =>
            obtain ⟨b, hb⟩ := Option.isSome_iff_exists.mp h
            exact ⟨i, Nat.le_refl i, b, by simp [hb], hb⟩

/-- **The shortest decimal of a number is the one that it comes from**, if that stands on a grid
that is coarser than the numbers, and the search comes to this grid. -/
theorem shortest_value (tie : Tie) {n : Nat} {k : ℤ} (hx : 0 < x.mantissa)
    (h : x.admits ⟨n, k⟩ = true) (hfine : (2 : ℚ) ^ x.exponent < 10 ^ k)
    (hlow : k ≤ x.decimalOrder) (hhigh : x.decimalOrder ≤ k + 16) :
    (x.shortest tie).value = n * 10 ^ k := by
  have hgrid : (0 : ℚ) < 10 ^ k := by positivity
  have hplace : x.decimalOrder - ((x.decimalOrder - k).toNat : Nat) = k := by omega
  obtain ⟨j, hj, d, hfound, hd⟩ := exists_findSome?_range
    (f := fun i : Nat => x.nearestOnGrid? tie (x.decimalOrder - i))
    (i := (x.decimalOrder - k).toNat) (n := 17) (by omega)
    (by rw [hplace]; exact nearestOnGrid?_isSome tie hx h hfine)
  obtain ⟨hexponent, hadmits⟩ := nearestOnGrid?_spec hd
  have hzero : x.isZero = false := by
    simp only [isZero, beq_eq_false_iff_ne]
    omega
  have hshortest : x.shortest tie = d.strip := by
    unfold shortest
    dsimp only
    rw [hzero, hfound]
    rfl
  rw [hshortest, Decimal.value_strip]
  -- both decimals stand on the grid, less than a step of it apart
  obtain ⟨n', hn'⟩ := Decimal.exists_value_eq_of_le (d := d) (k := k) (by omega)
  have hfirst := abs_value_sub_le hx h
  have hsecond := abs_value_sub_le hx hadmits
  have hclose : |d.value - Decimal.value ⟨n, k⟩| < 10 ^ k := by
    have htriangle := abs_sub_le d.value x.magnitude (Decimal.value ⟨n, k⟩)
    rw [abs_sub_comm x.magnitude] at htriangle
    linarith
  rw [hn', Decimal.value, ← sub_mul, abs_mul, abs_of_pos hgrid] at hclose
  have hint : |(n' : ℤ) - n| < 1 := by
    have hlt : |(n' : ℚ) - n| < 1 := by
      by_contra hge
      have hle := not_lt.mp hge
      nlinarith
    exact_mod_cast hlt
  have heq := Int.abs_lt_one_iff.mp hint
  rw [hn', show n' = n by omega]

/-! ## 4. Where the search starts -/

/-- The guess of the decimal order is off by two at most, whatever the comparisons say. -/
theorem decimalOrder_bounds (x : Binary64) :
    ((x.exponent + x.mantissa.log2) * 30103).fdiv 100000 - 2 ≤ x.decimalOrder ∧
      x.decimalOrder ≤ ((x.exponent + x.mantissa.log2) * 30103).fdiv 100000 + 1 := by
  unfold decimalOrder
  dsimp only
  generalize ((x.exponent + (x.mantissa.log2 : ℤ)) * 30103).fdiv 100000 = guess
  cases hfound : [guess + 1, guess, guess - 1].find? x.reachesPowerOfTen with
  | none =>
      rw [Option.getD_none]
      omega
  | some k =>
      have hmem := List.mem_of_find?_eq_some hfound
      simp only [List.mem_cons, List.not_mem_nil, or_false] at hmem
      rw [Option.getD_some]
      omega

/-- The binary order of a number bounds its magnitude. -/
theorem magnitude_bounds (hx : 0 < x.mantissa) :
    (2 : ℚ) ^ (x.exponent + x.mantissa.log2) ≤ x.magnitude ∧
      x.magnitude < 2 ^ (x.exponent + x.mantissa.log2 + 1) := by
  obtain ⟨hlow, hhigh⟩ := cast_log2_bounds hx
  have hpositive : (0 : ℚ) < 2 ^ x.exponent := by positivity
  constructor
  · rw [zpow_add₀ two_ne_zero, mul_comm, magnitude]
    gcongr
  · rw [add_assoc, zpow_add₀ two_ne_zero, mul_comm, magnitude]
    gcongr

/-! ## 5. Zero and hundredths -/

theorem shortest_of_isZero (tie : Tie) (h : x.isZero = true) : x.shortest tie = ⟨0, 0⟩ := by
  rw [shortest, if_pos h]

theorem value_pos_of_admits (hx : 0 < x.mantissa) (h : x.admits d = true) : 0 < d.value := by
  have hlow : (0 : ℚ) <
      (4 * x.mantissa - (if x.narrowBelow then 1 else 2) : Nat) * 2 ^ (x.exponent - 2) := by
    apply mul_pos
    · apply Nat.cast_pos.mpr
      split <;> omega
    · positivity
  rcases (admits_iff.mp h).1 with hlt | ⟨-, heq⟩
  · exact hlow.trans hlt
  · exact heq ▸ hlow

/-- Only zero is written with the digit zero alone. -/
theorem shortest_digits_ne_zero (tie : Tie) (hx : 0 < x.mantissa) :
    (x.shortest tie).digits ≠ 0 := by
  intro hdigits
  have hvalue : (x.shortest tie).value = 0 := by
    rw [Decimal.value, hdigits, Nat.cast_zero, zero_mul]
  have hzero : x.isZero = false := by
    simp only [isZero, beq_eq_false_iff_ne]
    omega
  unfold shortest at hvalue
  rw [hzero, if_neg (by decide)] at hvalue
  dsimp only at hvalue
  rw [Decimal.value_strip] at hvalue
  cases hfound : (List.range 17).findSome? fun i : Nat =>
      x.nearestOnGrid? tie (x.decimalOrder - i) with
  | some d =>
      rw [hfound, Option.getD_some] at hvalue
      obtain ⟨i, -, hi⟩ := List.exists_of_findSome?_eq_some hfound
      exact (value_pos_of_admits hx (nearestOnGrid?_spec hi).2).ne' hvalue
  | none =>
      rw [hfound, Option.getD_none] at hvalue
      have hexact : 0 < x.exactDecimal.value := by
        simp only [exactDecimal, Decimal.value, Nat.pow_eq]
        push_cast
        positivity
      exact hexact.ne' hvalue

theorem mantissa_pos (h : 0 < x.magnitude) : 0 < x.mantissa := by
  by_contra hzero
  rw [magnitude, Nat.eq_zero_of_not_pos hzero, Nat.cast_zero, zero_mul] at h
  exact lt_irrefl 0 h

/-- For percentages the search starts where it passes the grid of `10 ^ -5`. -/
theorem decimalOrder_mem (hlow : 1 / 200 < x.magnitude) (hhigh : x.magnitude < 200) :
    -5 ≤ x.decimalOrder ∧ x.decimalOrder ≤ 3 := by
  have hx : 0 < x.mantissa := mantissa_pos (lt_trans (by norm_num) hlow)
  obtain ⟨hfrom, hto⟩ := magnitude_bounds hx
  have hbelow : x.exponent + x.mantissa.log2 < 8 := by
    have hlt : (2 : ℚ) ^ (x.exponent + x.mantissa.log2) < 2 ^ (8 : ℤ) := by
      refine lt_of_le_of_lt hfrom ?_
      norm_num
      linarith
    exact (zpow_lt_zpow_iff_right₀ one_lt_two).mp hlt
  have habove : -8 < x.exponent + x.mantissa.log2 + 1 := by
    have hlt : (2 : ℚ) ^ (-8 : ℤ) < 2 ^ (x.exponent + x.mantissa.log2 + 1) := by
      refine lt_trans ?_ hto
      norm_num
      linarith
    exact (zpow_lt_zpow_iff_right₀ one_lt_two).mp hlt
  obtain ⟨horderLow, horderHigh⟩ := x.decimalOrder_bounds
  rw [Int.fdiv_eq_ediv_of_nonneg _ (by decide)] at horderLow horderHigh
  omega

/-- Below a hundred the steps of the numbers are much finer than that grid. -/
theorem Grid.exponent_le {q : ℚ} {m : Nat} {e : ℤ} (h : Grid q x m e) (hq : q ≤ 100) :
    e ≤ -46 ∧ x.exponent ≤ -45 := by
  have he : e ≤ -46 := by
    rcases h.normal with rfl | hnormal
    · decide
    · have hlt : (2 : ℚ) ^ (e + 52) < 2 ^ (7 : ℤ) := by
        refine lt_of_le_of_lt hnormal ?_
        norm_num
        linarith
      have hexponent := (zpow_lt_zpow_iff_right₀ one_lt_two).mp hlt
      omega
  refine ⟨he, ?_⟩
  rcases h.result with ⟨-, rfl⟩ | ⟨-, rfl⟩
  · dsimp only
    omega
  · dsimp only
    omega

theorem shortest_value_of_hundredths (tie : Tie) {k : Nat} (hpos : 0 < k) (hk : k ≤ 10000)
    (h : Rounds (k / 100) x) : (x.shortest tie).value = k / 100 := by
  have hlow : (1 : ℚ) ≤ k := by exact_mod_cast hpos
  have hhigh : (k : ℚ) ≤ 10000 := by exact_mod_cast hk
  obtain ⟨m, e, hgrid⟩ := h.exists_grid (by positivity)
  obtain ⟨he, hexponent⟩ := hgrid.exponent_le (by linarith)
  -- the number itself is not far from the decimal
  have hstep : (2 : ℚ) ^ e ≤ 2 ^ (-46 : ℤ) := zpow_le_zpow_right₀ one_le_two he
  norm_num at hstep
  obtain ⟨hbelow, habove⟩ := abs_le.mp hgrid.abs_magnitude_sub_le
  have hover : 1 / 200 < x.magnitude := by linarith
  obtain ⟨horderLow, horderHigh⟩ := decimalOrder_mem hover (by linarith)
  have hvalue : Decimal.value ⟨k * 1000, -5⟩ = (k : ℚ) / 100 := by
    rw [Decimal.value]
    push_cast
    norm_num
    ring
  have hfine : (2 : ℚ) ^ x.exponent < 10 ^ (-5 : ℤ) := by
    refine lt_of_le_of_lt (zpow_le_zpow_right₀ one_le_two hexponent) ?_
    norm_num
  have hadmits := hgrid.admits_value (by positivity) hvalue
  have hx : 0 < x.mantissa := mantissa_pos (lt_trans (by norm_num) hover)
  rw [shortest_value tie hx hadmits hfine horderLow (by omega), ← hvalue, Decimal.value]

/-- **A percentage with two places is written with these places**: the search finds the decimal
that has been rounded. -/
theorem shortest_hundredths (tie : Tie) {k : Nat} (hk : k ≤ 10000) (h : Rounds (k / 100) x) :
    (x.shortest tie).value = k / 100 := by
  rcases Nat.eq_zero_or_pos k with rfl | hpos
  · rw [Nat.cast_zero, zero_div] at h ⊢
    rw [h.eq_zero, shortest_of_isZero tie rfl, Decimal.value, Nat.cast_zero, zero_mul]
  · exact shortest_value_of_hundredths tie hpos hk h

end Binary64
end IncidentDigest
