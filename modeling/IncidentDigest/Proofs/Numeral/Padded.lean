import IncidentDigest.Numeral
import Mathlib

/-!
# Numbers of a fixed width

A string of digits stands for a number below the power of ten of its length.  A number that
fits into a width is written with exactly this many digits, and they stand for the number.
-/

namespace IncidentDigest.Numeral

/-! ## 1. The value of digits -/

theorem foldl_eq (acc : Nat) (cs : List Char) :
    cs.foldl (fun acc c => acc * 10 + digitValue c) acc = acc * 10 ^ cs.length + value cs := by
  unfold value
  induction cs generalizing acc with
  | nil => simp
  | cons c cs ih =>
      rw [List.foldl_cons, List.foldl_cons, ih, ih (0 * 10 + digitValue c), List.length_cons]
      ring

theorem value_append (cs ds : List Char) :
    value (cs ++ ds) = value cs * 10 ^ ds.length + value ds := by
  rw [value, List.foldl_append, foldl_eq]
  rfl

theorem value_cons (c : Char) (cs : List Char) :
    value (c :: cs) = digitValue c * 10 ^ cs.length + value cs := by
  rw [value, List.foldl_cons, foldl_eq, Nat.zero_mul, Nat.zero_add]

theorem value_replicate_zero (k : Nat) : value (List.replicate k '0') = 0 := by
  induction k with
  | zero => rfl
  | succ k ih =>
      have hzero : digitValue '0' = 0 := rfl
      rw [List.replicate_succ, value_cons, ih, hzero, Nat.zero_mul]

theorem digitValue_lt {c : Char} (h : c.isDigit = true) : digitValue c < 10 := by
  rw [Char.isDigit, Bool.and_eq_true, decide_eq_true_eq, decide_eq_true_eq] at h
  have hnine : c.toNat ≤ 57 := h.2
  have hzero : '0'.toNat = 48 := rfl
  unfold digitValue
  omega

/-- A string of digits stands for less than the power of ten of its length. -/
theorem value_lt {cs : List Char} (h : ∀ c ∈ cs, c.isDigit = true) :
    value cs < 10 ^ cs.length := by
  induction cs with
  | nil => decide
  | cons c cs ih =>
      have hhead : digitValue c + 1 ≤ 10 := digitValue_lt (h c List.mem_cons_self)
      have htail := ih fun d hd => h d (List.mem_cons_of_mem c hd)
      calc value (c :: cs) = digitValue c * 10 ^ cs.length + value cs := value_cons c cs
        _ < digitValue c * 10 ^ cs.length + 10 ^ cs.length := by omega
        _ = (digitValue c + 1) * 10 ^ cs.length := by ring
        _ ≤ 10 * 10 ^ cs.length := Nat.mul_le_mul_right _ hhead
        _ = 10 ^ (c :: cs).length := by rw [List.length_cons, Nat.pow_succ, Nat.mul_comm]

/-! ## 2. Padding -/

theorem length_digits_le {width n : Nat} (hwidth : 0 < width) (h : n < 10 ^ width) :
    (digits n).length ≤ width := by
  induction n using Nat.strong_induction_on generalizing width with
  | _ n ih =>
      rw [digits]
      split
      · exact hwidth
      · rename_i hn
        obtain ⟨w, rfl⟩ : ∃ w, width = w + 1 := ⟨width - 1, by omega⟩
        have hw : 0 < w := by
          by_contra hzero
          obtain rfl : w = 0 := by omega
          omega
        have hdiv : n / 10 < 10 ^ w := by
          rw [Nat.pow_succ] at h
          omega
        rw [List.length_append, List.length_singleton]
        exact Nat.succ_le_succ (ih (n / 10) (by omega) hw hdiv)

theorem length_padded {width n : Nat} (hwidth : 0 < width) (h : n < 10 ^ width) :
    (padded width n).length = width := by
  unfold padded
  rw [List.length_append, List.length_replicate]
  exact Nat.sub_add_cancel (length_digits_le hwidth h)

theorem isDigit_append {cs ds : List Char} (hcs : ∀ c ∈ cs, c.isDigit = true)
    (hds : ∀ c ∈ ds, c.isDigit = true) : ∀ c ∈ cs ++ ds, c.isDigit = true := by
  intro c hc
  rcases List.mem_append.mp hc with hc | hc
  · exact hcs c hc
  · exact hds c hc

theorem isDigit_zeros (k : Nat) : ∀ c ∈ List.replicate k '0', c.isDigit = true := by
  intro c hc
  rw [List.eq_of_mem_replicate hc]
  rfl

theorem padded_isDigit (width n : Nat) : ∀ c ∈ padded width n, c.isDigit = true :=
  isDigit_append (isDigit_zeros _) (digits_isDigit n)

theorem padded_ne_nil (width n : Nat) : padded width n ≠ [] :=
  List.append_ne_nil_of_right_ne_nil _ (digits_ne_nil n)

/-- The zeros in front do not count. -/
theorem value_padded (width n : Nat) : value (padded width n) = n := by
  unfold padded
  rw [value_append, value_replicate_zero, value_digits, Nat.zero_mul, Nat.zero_add]

end IncidentDigest.Numeral
