import Calculator.Proofs.FloatBits

set_option autoImplicit false

namespace Calculator

theorem zpow_eq_div (b : ℚ) (e : ℤ) : b ^ e = b ^ e.toNat / b ^ (-e).toNat := by
  rcases Int.le_total 0 e with h | h
  · obtain ⟨n, rfl⟩ := Int.eq_ofNat_of_zero_le h
    simp
  · obtain ⟨n, same⟩ := Int.eq_ofNat_of_zero_le (Int.neg_nonneg_of_nonpos h)
    obtain rfl : e = -n := by omega
    simp

theorem lt_of_two_zpow_lt {a b : ℤ} (h : (2 : ℚ) ^ a < 2 ^ b) : a < b :=
  (zpow_lt_zpow_iff_right₀ (by norm_num)).mp h

section Rounding

variable {num den n : ℕ}

theorem roundDiv_eq (pos : 0 < den) (low : 2 * (n * den) ≤ 2 * num + den)
    (high : 2 * num ≤ 2 * (n * den) + den)
    (strict : n % 2 = 1 → 2 * (n * den) < 2 * num + den ∧ 2 * num < 2 * (n * den) + den) :
    roundDiv num den = n := by
  have whole := Nat.div_add_mod num den
  have bound := Nat.mod_lt num pos
  simp only [roundDiv]
  generalize num / den = q at *
  generalize num % den = r at *
  have notBelow : q ≤ n := by
    by_contra less
    have := Nat.mul_le_mul_right den (show n + 1 ≤ q by omega)
    nlinarith
  have notAbove : n ≤ q + 1 := by
    by_contra more
    have := Nat.mul_le_mul_right den (show q + 2 ≤ n by omega)
    nlinarith
  rw [Nat.mul_comm] at whole
  rcases (show n = q ∨ n = q + 1 by omega) with rfl | rfl
  · split
    · rfl
    · rename_i above
      rw [Nat.compare_eq_gt] at above
      omega
    · rename_i tie
      rw [Nat.compare_eq_eq] at tie
      omega
  · have next : (q + 1) * den = q * den + den := Nat.succ_mul q den
    rw [next] at low high strict
    split
    · rename_i below
      rw [Nat.compare_eq_lt] at below
      omega
    · rfl
    · rename_i tie
      rw [Nat.compare_eq_eq] at tie
      omega

theorem roundDiv_eq_of_ratio (pos : 0 < den) (low : (2 * n - 1 : ℚ) ≤ 2 * (num / den : ℚ))
    (high : 2 * (num / den : ℚ) ≤ 2 * n + 1)
    (strict : n % 2 = 1 → (2 * n - 1 : ℚ) < 2 * (num / den : ℚ) ∧ 2 * (num / den : ℚ) < 2 * n + 1) :
    roundDiv num den = n := by
  have denPos : (0 : ℚ) < den := by exact_mod_cast pos
  have unit : (num / den : ℚ) * den = num := by field_simp
  refine roundDiv_eq pos ?_ ?_ fun odd => ?_
  · have scaled := mul_le_mul_of_nonneg_right low denPos.le
    have : (2 * (n * den) : ℚ) ≤ 2 * num + den := by linarith
    exact_mod_cast this
  · have scaled := mul_le_mul_of_nonneg_right high denPos.le
    have : (2 * num : ℚ) ≤ 2 * (n * den) + den := by linarith
    exact_mod_cast this
  · obtain ⟨below, above⟩ := strict odd
    have scaledBelow := mul_lt_mul_of_pos_right below denPos
    have scaledAbove := mul_lt_mul_of_pos_right above denPos
    have first : (2 * (n * den) : ℚ) < 2 * num + den := by linarith
    have second : (2 * num : ℚ) < 2 * (n * den) + den := by linarith
    exact ⟨by exact_mod_cast first, by exact_mod_cast second⟩

end Rounding

section Place

variable {num den : ℕ} {place : ℤ}

theorem two_zpow_log2_le (pos : 0 < num) : (2 : ℚ) ^ (num.log2 : ℤ) ≤ num := by
  rw [zpow_natCast]
  exact_mod_cast Nat.log2_self_le (by omega)

theorem lt_two_zpow_log2 (num : ℕ) : (num : ℚ) < 2 ^ (num.log2 + 1 : ℤ) := by
  have below : num < 2 ^ (num.log2 + 1) := Nat.lt_log2_self
  exact_mod_cast below

theorem two_zpow_le_ratio_iff (denPos : 0 < den) (e : ℤ) :
    (2 : ℚ) ^ e ≤ num / den ↔ den <<< e.toNat ≤ num <<< (-e).toNat := by
  have denPos' : (0 : ℚ) < den := by exact_mod_cast denPos
  have unit : (0 : ℚ) < 2 ^ (-e).toNat := by positivity
  rw [Nat.shiftLeft_eq, Nat.shiftLeft_eq, zpow_eq_div, div_le_div_iff₀ unit denPos',
    mul_comm ((2 : ℚ) ^ e.toNat)]
  exact_mod_cast Iff.rfl

theorem lead_bounds (numPos : 0 < num) (denPos : 0 < den) :
    ∃ lead : ℤ, lastPlace num den = max (lead - 52) (-1074) ∧ (2 : ℚ) ^ lead ≤ num / den ∧
      (num / den : ℚ) < 2 ^ (lead + 1) := by
  have denPos' : (0 : ℚ) < den := by exact_mod_cast denPos
  have atMost : (num / den : ℚ) < 2 ^ ((num.log2 : ℤ) - den.log2 + 1) := by
    rw [div_lt_iff₀ denPos']
    calc (num : ℚ) < 2 ^ (num.log2 + 1 : ℤ) := lt_two_zpow_log2 num
      _ = 2 ^ ((num.log2 : ℤ) - den.log2 + 1) * 2 ^ (den.log2 : ℤ) := by
          rw [← zpow_add₀ (by norm_num)]
          congr 1
          omega
      _ ≤ 2 ^ ((num.log2 : ℤ) - den.log2 + 1) * den :=
          mul_le_mul_of_nonneg_left (two_zpow_log2_le denPos) (by positivity)
  have atLeast : (2 : ℚ) ^ ((num.log2 : ℤ) - den.log2 - 1) ≤ num / den := by
    rw [le_div_iff₀ denPos']
    calc (2 : ℚ) ^ ((num.log2 : ℤ) - den.log2 - 1) * den
        ≤ 2 ^ ((num.log2 : ℤ) - den.log2 - 1) * 2 ^ (den.log2 + 1 : ℤ) :=
          mul_le_mul_of_nonneg_left (lt_two_zpow_log2 den).le (by positivity)
      _ = 2 ^ (num.log2 : ℤ) := by
          rw [← zpow_add₀ (by norm_num)]
          congr 1
          omega
      _ ≤ num := two_zpow_log2_le numPos
  unfold lastPlace
  generalize (num.log2 : ℤ) - den.log2 = high at *
  by_cases reached : den <<< high.toNat ≤ num <<< (-high).toNat
  · refine ⟨high, by simp only [reached, if_true], ?_, atMost⟩
    exact (two_zpow_le_ratio_iff denPos high).mpr reached
  · refine ⟨high - 1, by simp only [reached, if_false], atLeast, ?_⟩
    rw [sub_add_cancel]
    exact lt_of_not_ge fun h => reached ((two_zpow_le_ratio_iff denPos high).mp h)

theorem lastPlace_le (numPos : 0 < num) (denPos : 0 < den) (lowest : -1074 ≤ place)
    (h : (num / den : ℚ) < 2 ^ (place + 53)) : lastPlace num den ≤ place := by
  obtain ⟨lead, same, low, _⟩ := lead_bounds numPos denPos
  have := lt_of_two_zpow_lt (low.trans_lt h)
  omega

theorem le_lastPlace (numPos : 0 < num) (denPos : 0 < den)
    (h : place = -1074 ∨ (2 : ℚ) ^ (place + 52) ≤ num / den) : place ≤ lastPlace num den := by
  obtain ⟨lead, same, _, high⟩ := lead_bounds numPos denPos
  rcases h with rfl | h
  · omega
  · have := lt_of_two_zpow_lt (h.trans_lt high)
    omega

theorem ratio_at_place (place : ℤ) :
    ((num <<< (-place).toNat : ℕ) : ℚ) / (den <<< place.toNat : ℕ) = num / den / 2 ^ place := by
  rw [Nat.shiftLeft_eq, Nat.shiftLeft_eq, zpow_eq_div]
  push_cast
  field_simp

theorem nearestFloat_at {n : ℕ} (numPos : 0 < num) (denPos : 0 < den)
    (isPlace : lastPlace num den = place) (low : (2 * n - 1 : ℚ) ≤ 2 * (num / den / 2 ^ place))
    (high : 2 * (num / den / 2 ^ place) ≤ (2 * n + 1 : ℚ))
    (strict : n % 2 = 1 → (2 * n - 1 : ℚ) < 2 * (num / den / 2 ^ place) ∧
      2 * (num / den / 2 ^ place) < (2 * n + 1 : ℚ)) :
    nearestFloat num den =
      .ofBits (.ofNat (min (((place + 1074).toNat <<< 52) + n) (2047 <<< 52))) := by
  have shiftedPos : 0 < den <<< place.toNat := by
    rw [Nat.shiftLeft_eq]
    positivity
  rw [← ratio_at_place] at low high strict
  have rounded := roundDiv_eq_of_ratio shiftedPos low high strict
  simp only [nearestFloat, Nat.ne_of_gt numPos, if_false, isPlace, rounded]

end Place

namespace Magnitude

def gapBelow (x : Magnitude) : ℚ := if x.narrowBelow then 1 else 2

/-- Between the midpoints to the neighbours, in quarters of a unit of the last place. Halfway, the
even mantissa is near. -/
structure Near (x : Magnitude) (q : ℚ) : Prop where
  low : (4 * x.mantissa - x.gapBelow) * 2 ^ x.exponent ≤ 4 * q
  high : 4 * q ≤ (4 * x.mantissa + 2) * 2 ^ x.exponent
  strict : x.mantissa % 2 = 1 → (4 * x.mantissa - x.gapBelow) * 2 ^ x.exponent < 4 * q ∧
    4 * q < (4 * x.mantissa + 2) * 2 ^ x.exponent

theorem gapBelow_le (x : Magnitude) : x.gapBelow ≤ 2 := by
  unfold gapBelow
  split <;> norm_num

variable {x : Magnitude} {q : ℚ}

theorem Near.scaled (near : x.Near q) :
    4 * x.mantissa - x.gapBelow ≤ 4 * (q / 2 ^ x.exponent) ∧
      4 * (q / 2 ^ x.exponent) ≤ 4 * x.mantissa + 2 ∧
      (x.mantissa % 2 = 1 → 4 * x.mantissa - x.gapBelow < 4 * (q / 2 ^ x.exponent) ∧
        4 * (q / 2 ^ x.exponent) < 4 * x.mantissa + 2) := by
  have unit : (0 : ℚ) < 2 ^ x.exponent := by positivity
  rw [← mul_div_assoc, le_div_iff₀ unit, div_le_iff₀ unit, lt_div_iff₀ unit, div_lt_iff₀ unit]
  exact ⟨near.low, near.high, near.strict⟩

theorem bits_le (double : x.IsDouble) : x.bits ≤ 2047 <<< 52 := by
  have := double.highest
  have := double.lowest
  have := double.short
  simp only [bits, Nat.shiftLeft_eq]
  omega

section Quotient

variable {num den : ℕ}

theorem Near.num_pos (positive : 0 < x.mantissa) (near : x.Near (num / den)) : 0 < num := by
  have low := near.scaled.1
  have gap := x.gapBelow_le
  have mantissaPos : (1 : ℚ) ≤ x.mantissa := by exact_mod_cast positive
  rcases Nat.eq_zero_or_pos num with rfl | numPos
  · simp only [Nat.cast_zero, zero_div, mul_zero] at low
    linarith
  · exact numPos

theorem lt_two_zpow_iff (k : ℤ) : q < 2 ^ (x.exponent + k) ↔ q / 2 ^ x.exponent < 2 ^ k := by
  rw [div_lt_iff₀ (by positivity), add_comm, zpow_add₀ (by norm_num)]

-- The last bit of the quotient has the place of the last bit of the double, or the quotient lies
-- below the power of two that is the double.
theorem Near.lastPlace_cases (double : x.IsDouble) (positive : 0 < x.mantissa) (denPos : 0 < den)
    (near : x.Near (num / den)) :
    lastPlace num den = x.exponent ∨ lastPlace num den = x.exponent - 1 ∧
      x.mantissa = 2 ^ 52 ∧ -1074 < x.exponent ∧ (num / den / 2 ^ x.exponent : ℚ) < 2 ^ 52 := by
  have numPos := near.num_pos positive
  obtain ⟨low, high, _⟩ := near.scaled
  have gap := x.gapBelow_le
  have short : (x.mantissa : ℚ) + 1 ≤ 2 ^ 53 := by exact_mod_cast double.short
  have notAbove : lastPlace num den ≤ x.exponent := by
    refine lastPlace_le numPos denPos double.lowest ((lt_two_zpow_iff 53).mpr ?_)
    rw [zpow_ofNat]
    linarith
  by_cases full : x.exponent = -1074 ∨ (2 : ℚ) ^ (x.exponent + 52) ≤ num / den
  · exact .inl (Int.le_antisymm notAbove (le_lastPlace numPos denPos full))
  · obtain ⟨notLowest, less⟩ := not_or.mp full
    have above : -1074 < x.exponent := lt_of_le_of_ne double.lowest (Ne.symm notLowest)
    have large : 2 ^ 52 ≤ x.mantissa := double.full.resolve_left notLowest
    have below := (lt_two_zpow_iff 52).mp (lt_of_not_ge less)
    rw [zpow_ofNat] at below
    have power : x.mantissa = 2 ^ 52 := by
      have close : (x.mantissa : ℚ) < (2 ^ 52 + 1 : ℕ) := by
        push_cast
        linarith
      have : x.mantissa < 2 ^ 52 + 1 := by exact_mod_cast close
      omega
    refine .inr ⟨Int.le_antisymm ?_ ?_, power, above, below⟩
    · refine lastPlace_le numPos denPos (by omega) ?_
      rw [show x.exponent - 1 + 53 = x.exponent + 52 by omega]
      exact lt_of_not_ge less
    · refine le_lastPlace numPos denPos (.inr (le_of_not_gt fun small => ?_))
      rw [show x.exponent - 1 + 52 = x.exponent + 51 by omega, lt_two_zpow_iff,
        zpow_ofNat] at small
      rw [power] at low
      push_cast at low
      linarith

theorem nearestFloat_eq_of_near (double : x.IsDouble) (positive : 0 < x.mantissa)
    (denPos : 0 < den) (near : x.Near (num / den)) :
    nearestFloat num den = .ofBits (.ofNat x.bits) := by
  have numPos := near.num_pos positive
  have gap := x.gapBelow_le
  obtain ⟨low, high, strict⟩ := near.scaled
  rcases near.lastPlace_cases double positive denPos with isPlace | ⟨isPlace, power, above, below⟩
  · rw [nearestFloat_at numPos denPos isPlace (n := x.mantissa) ?_ ?_ fun odd => ?_]
    · exact congrArg _ (congrArg _ (Nat.min_eq_left (bits_le double)))
    · linarith
    · linarith
    · obtain ⟨first, second⟩ := strict odd
      constructor <;> linarith
  · -- One place lower there are twice as many units, and rounding carries into the next place.
    have twice : (num / den / 2 ^ (x.exponent - 1) : ℚ) = 2 * (num / den / 2 ^ x.exponent) := by
      rw [zpow_sub_one₀ (by norm_num)]
      field_simp
    have narrow : x.gapBelow = 1 := by
      simp [gapBelow, double.narrow.mpr ⟨power, above⟩]
    have carried :
        min (((x.exponent - 1 + 1074).toNat <<< 52) + 2 ^ 53) (2047 <<< 52) = x.bits := by
      have := bits_le double
      simp only [bits, Nat.shiftLeft_eq, power] at this ⊢
      omega
    rw [power, narrow] at low
    rw [nearestFloat_at numPos denPos isPlace (n := 2 ^ 53) ?_ ?_ fun odd => ?_, carried]
    · rw [twice]
      push_cast at low ⊢
      linarith
    · rw [twice]
      push_cast
      linarith
    · exact absurd odd (by decide)

end Quotient

end Magnitude

end Calculator
