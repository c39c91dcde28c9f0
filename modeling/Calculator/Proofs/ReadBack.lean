import Calculator.Decimal.Style
import Calculator.Proofs.Nearest

set_option autoImplicit false

namespace Calculator

def Decimal.value (d : Decimal) : ℚ := d.digits * 10 ^ d.exponent

namespace Magnitude

variable {x : Magnitude} {d : Decimal}

theorem nearestFloat_of_value (double : x.IsDouble) (positive : 0 < x.mantissa)
    (near : x.Near d.value) : d.toFloat = .ofBits (.ofNat x.bits) := by
  have denPos : 0 < Nat.pow 10 (-d.exponent).toNat := Nat.pow_pos (by decide)
  have ratio : ((d.digits * Nat.pow 10 d.exponent.toNat : ℕ) : ℚ) /
      (Nat.pow 10 (-d.exponent).toNat : ℕ) = d.value := by
    rw [Decimal.value, zpow_eq_div, Nat.pow_eq, Nat.pow_eq]
    push_cast
    rw [mul_div_assoc]
  exact nearestFloat_eq_of_near double positive denPos (ratio ▸ near)

def unit (x : Magnitude) (k : ℤ) : ℚ := 10 ^ (-k).toNat * 2 ^ (-x.exponent).toNat

theorem unit_pos (x : Magnitude) (k : ℤ) : 0 < x.unit k := by
  unfold unit
  positivity

theorem step_eq (x : Magnitude) (k : ℤ) : (x.step k : ℚ) = x.unit k * 2 ^ x.exponent := by
  rw [step, unit, zpow_eq_div, Nat.shiftLeft_eq, Nat.pow_eq]
  push_cast
  field_simp

theorem grid_eq (x : Magnitude) (k : ℤ) : (x.grid k : ℚ) = x.unit k * 10 ^ k := by
  rw [grid, unit, zpow_eq_div, Nat.shiftLeft_eq, Nat.pow_eq]
  push_cast
  field_simp

theorem le_iff_of_unit {a b : ℕ} {u s t : ℚ} (pos : 0 < u) (left : (a : ℚ) = u * s)
    (right : (b : ℚ) = u * t) : a ≤ b ↔ s ≤ t := by
  rw [← mul_le_mul_iff_of_pos_left pos, ← left, ← right, Nat.cast_le]

theorem lt_iff_of_unit {a b : ℕ} {u s t : ℚ} (pos : 0 < u) (left : (a : ℚ) = u * s)
    (right : (b : ℚ) = u * t) : a < b ↔ s < t := by
  rw [← mul_lt_mul_iff_of_pos_left pos, ← left, ← right, Nat.cast_lt]

theorem near_of_readsBack (positive : 0 < x.mantissa) (h : x.readsBack d) : x.Near d.value := by
  have pos := x.unit_pos d.exponent
  have gap : ((4 * x.mantissa - (if x.narrowBelow then 1 else 2) : ℕ) : ℚ) =
      4 * x.mantissa - x.gapBelow := by
    rw [Nat.cast_sub (by split <;> omega), gapBelow]
    split <;> simp
  have low : (((4 * x.mantissa - if x.narrowBelow then 1 else 2) * x.step d.exponent : ℕ) : ℚ) =
      x.unit d.exponent * ((4 * x.mantissa - x.gapBelow) * 2 ^ x.exponent) := by
    rw [Nat.cast_mul, gap, step_eq]
    ring
  have high : (((4 * x.mantissa + 2) * x.step d.exponent : ℕ) : ℚ) =
      x.unit d.exponent * ((4 * x.mantissa + 2) * 2 ^ x.exponent) := by
    rw [Nat.cast_mul, step_eq]
    push_cast
    ring
  have point : ((4 * d.digits * x.grid d.exponent : ℕ) : ℚ) =
      x.unit d.exponent * (4 * d.value) := by
    rw [Nat.cast_mul, grid_eq, Decimal.value]
    push_cast
    ring
  simp only [readsBack] at h
  by_cases even : x.mantissa % 2 = 0
  · rw [if_pos even, Bool.and_eq_true, decide_eq_true_eq, decide_eq_true_eq,
      le_iff_of_unit pos low point, le_iff_of_unit pos point high] at h
    exact ⟨h.1, h.2, fun odd => by omega⟩
  · rw [if_neg even, Bool.and_eq_true, decide_eq_true_eq, decide_eq_true_eq,
      lt_iff_of_unit pos low point, lt_iff_of_unit pos point high] at h
    exact ⟨h.1.le, h.2.le, fun _ => h⟩

theorem value_exact (x : Magnitude) : x.exact.value = x.mantissa * 2 ^ x.exponent := by
  rw [exact, Decimal.value]
  split
  · rename_i whole
    obtain ⟨n, same⟩ := Int.eq_ofNat_of_zero_le whole
    simp [same, Nat.shiftLeft_eq]
  · rename_i negative
    obtain ⟨n, same⟩ := Int.eq_ofNat_of_zero_le (show 0 ≤ -x.exponent by omega)
    obtain negated : x.exponent = -n := by omega
    have ten : (10 : ℚ) ^ n = 5 ^ n * 2 ^ n := by rw [← mul_pow]; norm_num
    rw [negated, Nat.pow_eq]
    simp only [neg_neg, Int.toNat_natCast, zpow_neg, zpow_natCast, ten]
    push_cast
    field_simp

theorem near_exact (x : Magnitude) : x.Near x.exact.value := by
  have unit : (0 : ℚ) < 2 ^ x.exponent := by positivity
  have gap : 0 < x.gapBelow := by
    unfold gapBelow
    split <;> norm_num
  have below : (4 * x.mantissa - x.gapBelow) * 2 ^ x.exponent <
      4 * (x.mantissa * 2 ^ x.exponent) := by
    nlinarith
  have above : 4 * (x.mantissa * 2 ^ x.exponent) < (4 * x.mantissa + 2 : ℚ) * 2 ^ x.exponent := by
    nlinarith
  rw [value_exact]
  exact ⟨below.le, above.le, fun _ => ⟨below, above⟩⟩

theorem readsBack_of_onGrid? {k : ℤ} (h : x.onGrid? k = some d) : x.readsBack d := by
  simp only [onGrid?] at h
  split at h
  · split at h <;> cases h <;> assumption
  · cases h
    assumption
  · cases h
    assumption
  · contradiction

theorem near_shortest (positive : 0 < x.mantissa) : x.Near x.shortest.value := by
  rw [shortest, if_neg (Nat.ne_of_gt positive)]
  cases found : (List.range 20).findSome? fun (i : Nat) => x.onGrid? (x.coarsest - i) with
  | none => exact near_exact x
  | some d =>
      obtain ⟨i, _, hit⟩ := List.exists_of_findSome?_eq_some found
      exact near_of_readsBack positive (readsBack_of_onGrid? hit)

end Magnitude

theorem toFloat_shortest {v : Float} (finite : v.isFinite) (nonneg : isNegative v = false) :
    (Magnitude.ofFloat v).shortest.toFloat = v := by
  have same : Float.ofBits (.ofNat (Magnitude.ofFloat v).bits) = v := by
    rw [Magnitude.bits_ofFloat finite nonneg, UInt64.ofNat_toNat, Float.ofBits_toBits]
  rcases Nat.eq_zero_or_pos (Magnitude.ofFloat v).mantissa with zero | positive
  · have double := Magnitude.isDouble_ofFloat finite
    have lowest : (Magnitude.ofFloat v).exponent = -1074 := by
      have := double.full
      omega
    have none : (Magnitude.ofFloat v).bits = 0 := by
      simp [Magnitude.bits, zero, lowest]
    rw [none] at same
    rw [Magnitude.shortest, if_pos zero, ← same]
    decide +kernel
  · rw [Magnitude.nearestFloat_of_value (Magnitude.isDouble_ofFloat finite) positive
      (Magnitude.near_shortest positive), same]

end Calculator
