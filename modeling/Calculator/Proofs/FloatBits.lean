import Mathlib
import Calculator.Decimal.Basic

set_option autoImplicit false

namespace Calculator

open Float.Model (Format)
open Float.Model.UnpackedFloat (unpack unpackExponent unpackMantissa)

theorem status_of_isFinite {x : Float} (finite : x.isFinite) :
    x.isNaN = false ∧ x.isInf = false := by
  simp only [Float.isFinite, Float.Model.isFinite] at finite
  simp only [Float.isNaN, Float.isInf, Float.Model.isNaN, Float.Model.isInf]
  cases unpacked : x.toModel.unpack with
  | notANumber | infinity =>
      rw [unpacked] at finite
      contradiction
  | zero | finite => exact ⟨rfl, rfl⟩

theorem toNat_unpackExponent (x : Float) :
    (@unpackExponent Format.binary64 x.toBits.toBitVec).toNat =
      x.toBits.toNat / 2 ^ 52 % 2 ^ 11 := by
  simp only [unpackExponent, BitVec.toNat_cast, BitVec.extractLsb_toNat, Nat.shiftRight_eq_div_pow]
  rfl

theorem toNat_unpackMantissa (x : Float) :
    (@unpackMantissa Format.binary64 x.toBits.toBitVec).toNat = x.toBits.toNat % 2 ^ 52 := by
  simp only [unpackMantissa, BitVec.toNat_cast, BitVec.extractLsb_toNat, Nat.shiftRight_zero]
  rfl

theorem unpackExponent_ne_of_isFinite {x : Float} (finite : x.isFinite) :
    @unpackExponent Format.binary64 x.toBits.toBitVec ≠ (-1#_) := by
  intro largest
  have unpacked : (unpack Format.binary64 x.toBits.toBitVec).isFinite = true := finite
  rw [unpack, if_pos largest] at unpacked
  split at unpacked <;> contradiction

theorem exponentBits_of_isFinite {x : Float} (finite : x.isFinite) :
    x.toBits.toNat / 2 ^ 52 % 2 ^ 11 < 2047 := by
  refine Nat.lt_of_le_of_ne (by omega) fun largest => unpackExponent_ne_of_isFinite finite ?_
  exact BitVec.eq_of_toNat_eq ((toNat_unpackExponent x).trans largest)

theorem toBits_lt_of_not_isNegative {x : Float} (nonneg : isNegative x = false) :
    x.toBits.toNat < 2 ^ 63 := by
  have bound : x.toBits.toNat < 2 ^ 64 := x.toBits.toNat_lt
  rw [isNegative, Nat.testBit_eq_decide_div_mod_eq, decide_eq_false_iff_not] at nonneg
  omega

namespace Magnitude

-- The largest exponent is 2046 - 1075.
structure IsDouble (x : Magnitude) : Prop where
  lowest : -1074 ≤ x.exponent
  highest : x.exponent ≤ 971
  short : x.mantissa < 2 ^ 53
  full : x.exponent = -1074 ∨ 2 ^ 52 ≤ x.mantissa
  narrow : x.narrowBelow ↔ x.mantissa = 2 ^ 52 ∧ -1074 < x.exponent

def bits (x : Magnitude) : Nat := ((x.exponent + 1074).toNat <<< 52) + x.mantissa

theorem isDouble_ofFloat {x : Float} (finite : x.isFinite) : (ofFloat x).IsDouble := by
  have bound := exponentBits_of_isFinite finite
  unfold ofFloat
  simp only [Nat.shiftRight_eq_div_pow, Nat.shiftLeft_eq, Nat.one_mul]
  generalize x.toBits.toNat / 2 ^ 52 % 2 ^ 11 = biased at *
  have fraction := Nat.mod_lt x.toBits.toNat (show 0 < 2 ^ 52 by decide)
  generalize x.toBits.toNat % 2 ^ 52 = fraction at *
  split
  · exact ⟨Int.le_refl _, by simp, Nat.lt_trans fraction (by decide), .inl rfl, by simp⟩
  · refine ⟨?_, ?_, ?_, .inr ?_, ?_⟩ <;> dsimp only
    any_goals omega
    rw [decide_eq_true_eq]
    omega

theorem bits_ofFloat {x : Float} (finite : x.isFinite) (nonneg : isNegative x = false) :
    (ofFloat x).bits = x.toBits.toNat := by
  have bound := exponentBits_of_isFinite finite
  have positive := toBits_lt_of_not_isNegative nonneg
  unfold ofFloat bits
  simp only [Nat.shiftRight_eq_div_pow, Nat.shiftLeft_eq, Nat.one_mul]
  split
  · simp only
    omega
  · simp only
    omega

end Magnitude

end Calculator
