import Calculator.Decimal.Style
import Calculator.Proofs.Grammar
import Calculator.Proofs.ReadBack
import Calculator.Proofs.Spelling

set_option autoImplicit false

namespace Calculator

namespace Decimal

theorem digits_toDigits (n : Nat) : Digits (Nat.toDigits 10 n) :=
  ⟨Nat.toDigits_ne_nil, fun _ member => Nat.isDigit_of_mem_toDigits (by decide) (by decide) member⟩

theorem isDigit_of_mem_zeros {n : Nat} {c : Char} (member : c ∈ zeros n) : c.isDigit := by
  rw [List.eq_of_mem_replicate member]
  decide

theorem positional_whole {d : Decimal} (whole : 0 ≤ d.exponent) :
    Digits (d.positional []) ∧
      ofNumeral? (d.positional []) = some ⟨d.digits * 10 ^ d.exponent.toNat, 0⟩ := by
  obtain ⟨nonempty, digits⟩ := digits_toDigits d.digits
  have text : d.positional [] = Nat.toDigits 10 d.digits ++ zeros d.exponent.toNat := by
    rw [positional]
    simp only [whole, if_true, List.append_nil]
  have isDigits : Digits (d.positional []) := by
    rw [text]
    refine ⟨by simp [nonempty], fun c member => ?_⟩
    exact (List.mem_append.mp member).elim (digits c) isDigit_of_mem_zeros
  refine ⟨isDigits, ?_⟩
  rw [ofNumeral?_digits isDigits, text, Nat.ofDigitChars_append, Nat.ofDigitChars_ten_toDigits,
    zeros, Nat.ofDigitChars_replicate_zero, Nat.mul_comm]

theorem positional_fraction {d : Decimal} (negative : d.exponent < 0) :
    ∃ whole fraction, d.positional [] = whole ++ '.' :: fraction ∧ Digits whole ∧
      (∀ c ∈ fraction, c.isDigit) ∧ fraction.length = d.exponent.natAbs ∧
      Nat.ofDigitChars 10 (whole ++ fraction) 0 = d.digits := by
  obtain ⟨nonempty, digits⟩ := digits_toDigits d.digits
  have value := Nat.ofDigitChars_ten_toDigits (n := d.digits)
  unfold positional
  generalize Nat.toDigits 10 d.digits = text at *
  simp only [Int.not_le.mpr negative, if_false]
  by_cases few : d.exponent.natAbs < text.length
  · refine ⟨_, _, by rw [if_pos few], ⟨?_, ?_⟩, ?_, ?_, ?_⟩
    · simp only [ne_eq, List.take_eq_nil_iff, nonempty, or_false]
      omega
    · exact fun c member => digits c (List.mem_of_mem_take member)
    · exact fun c member => digits c (List.mem_of_mem_drop member)
    · rw [List.length_drop]
      omega
    · rw [List.take_append_drop, value]
  · refine ⟨['0'], zeros (d.exponent.natAbs - text.length) ++ text, by rw [if_neg few]; rfl,
      ⟨by simp, by simp⟩, ?_, ?_, ?_⟩
    · intro c member
      exact (List.mem_append.mp member).elim isDigit_of_mem_zeros (digits c)
    · rw [List.length_append, zeros, List.length_replicate]
      omega
    · have zero : Nat.ofDigitChars 10 ['0'] 0 = 0 := rfl
      rw [Nat.ofDigitChars_append, Nat.ofDigitChars_append, zeros,
        Nat.ofDigitChars_replicate_zero, zero, Nat.mul_zero, value]

theorem numeral_positional (d : Decimal) : Numeral (d.positional []) := by
  rcases le_or_gt 0 d.exponent with whole | negative
  · exact .whole (positional_whole whole).1
  · obtain ⟨digits, fraction, text, isDigits, others, _⟩ := positional_fraction negative
    rw [text]
    exact .fractional isDigits (by decide) others

theorem numeralValue?_positional (d : Decimal) :
    numeralValue? (d.positional []) = some d.toFloat := by
  rcases le_or_gt 0 d.exponent with whole | negative
  · rw [numeralValue?, (positional_whole whole).2]
    have same : (⟨d.digits * 10 ^ d.exponent.toNat, 0⟩ : Decimal).toFloat = d.toFloat := by
      have nothing : (-d.exponent).toNat = 0 := by omega
      simp [toFloat, nothing]
    rw [Option.map_some, same]
  · obtain ⟨digits, fraction, text, isDigits, others, places, value⟩ := positional_fraction negative
    have same : (⟨d.digits, -fraction.length⟩ : Decimal) = d := by
      have sign : -(fraction.length : Int) = d.exponent := by omega
      rw [sign]
    rw [numeralValue?, text, ofNumeral?_point (isDigits.append others), value, same]
    rfl

end Decimal

theorem format_of_isFinite {v : Float} (finite : v.isFinite) (nonneg : isNegative v = false) :
    NumberStyle.plain.format v = (Magnitude.ofFloat v).shortest.positional [] := by
  obtain ⟨notNaN, notInf⟩ := status_of_isFinite finite
  simp only [NumberStyle.format, notNaN, notInf, NumberStyle.signed, nonneg,
    NumberStyle.ofDecimal, NumberStyle.plain, Bool.false_eq_true, if_false]

theorem numeral_format {v : Float} (finite : v.isFinite) (nonneg : isNegative v = false) :
    Numeral (NumberStyle.plain.format v) := by
  rw [format_of_isFinite finite nonneg]
  exact Decimal.numeral_positional _

theorem numeralValue?_format {v : Float} (finite : v.isFinite) (nonneg : isNegative v = false) :
    numeralValue? (NumberStyle.plain.format v) = some v := by
  rw [format_of_isFinite finite nonneg, Decimal.numeralValue?_positional,
    toFloat_shortest finite nonneg]

end Calculator
