import Calculator.Proofs.NumberText

set_option autoImplicit false

namespace Calculator

open Float.Model (Format)
open Float.Model.UnpackedFloat (unpack unpackExponent unpackMantissa)

structure NearestTo (q : ℚ) (n : ℕ) : Prop where
  near : |q - n| ≤ 1 / 2
  even : |q - n| = 1 / 2 → n % 2 = 0

theorem roundDiv_near (num den : ℕ) (pos : 0 < den) :
    2 * (roundDiv num den * den) ≤ 2 * num + den ∧
      2 * num ≤ 2 * (roundDiv num den * den) + den ∧
      (2 * (roundDiv num den * den) = 2 * num + den ∨
        2 * num = 2 * (roundDiv num den * den) + den → roundDiv num den % 2 = 0) := by
  have whole := Nat.div_add_mod num den
  have bound := Nat.mod_lt num pos
  have parity := Nat.mod_two_eq_zero_or_one (num / den)
  simp only [roundDiv]
  generalize num / den = q at *
  generalize num % den = r at *
  have next : (q + 1) * den = q * den + den := Nat.succ_mul q den
  rw [Nat.mul_comm den q] at whole
  split
  next below =>
    rw [Nat.compare_eq_lt] at below
    omega
  next above =>
    rw [Nat.compare_eq_gt] at above
    omega
  next tie =>
    rw [Nat.compare_eq_eq] at tie
    rcases parity with even | odd
    next =>
      rw [even, Nat.add_zero]
      omega
    next =>
      rw [odd]
      omega

theorem nearestTo_roundDiv (num : ℕ) {den : ℕ} (pos : 0 < den) :
    NearestTo (num / den) (roundDiv num den) := by
  obtain ⟨low, high, tie⟩ := roundDiv_near num den pos
  generalize roundDiv num den = n at *
  have denPos : (0 : ℚ) < den := by exact_mod_cast pos
  have scaled : (num / den - n : ℚ) = (num - n * den) / den := by field_simp
  have low' : (2 * (n * den) : ℚ) ≤ 2 * num + den := by exact_mod_cast low
  have high' : (2 * num : ℚ) ≤ 2 * (n * den) + den := by exact_mod_cast high
  constructor
  next =>
    rw [scaled, abs_le, le_div_iff₀ denPos, div_le_iff₀ denPos]
    constructor <;> linarith
  next =>
    intro half
    apply tie
    rw [scaled, abs_eq (by norm_num), div_eq_iff denPos.ne', div_eq_iff denPos.ne'] at half
    rcases half with above | below
    next =>
      right
      have : (2 * num : ℚ) = 2 * (n * den) + den := by linarith
      exact_mod_cast this
    next =>
      left
      have : (2 * (n * den) : ℚ) = 2 * num + den := by linarith
      exact_mod_cast this

theorem head?_toDigits {n : ℕ} (h : (Nat.toDigits 10 n).head? = some '0') : n = 0 := by
  induction n using Nat.strongRecOn with
  | ind n ih =>
      by_cases small : n < 10
      next =>
        rw [Nat.toDigits_of_lt_base small, List.head?_cons, Option.some_inj] at h
        interval_cases n <;> first | rfl | contradiction
      next =>
        rw [Nat.toDigits_of_base_le (by decide) (Nat.le_of_not_lt small),
          List.head?_append_of_ne_nil _ Nat.toDigits_ne_nil] at h
        have := ih (n / 10) (by omega) h
        omega

namespace Magnitude

theorem nearestTo_units (x : Magnitude) (places : ℕ) :
    NearestTo (x.mantissa * 2 ^ x.exponent * 10 ^ places) (x.units places) := by
  have pos : 0 < 1 <<< (-x.exponent).toNat := by
    rw [Nat.shiftLeft_eq]
    positivity
  have near := nearestTo_roundDiv ((x.mantissa * Nat.pow 10 places) <<< x.exponent.toNat) pos
  have ratio : (((x.mantissa * Nat.pow 10 places) <<< x.exponent.toNat : ℕ) : ℚ) /
      (1 <<< (-x.exponent).toNat : ℕ) = x.mantissa * 2 ^ x.exponent * 10 ^ places := by
    rw [zpow_eq_div, Nat.shiftLeft_eq, Nat.shiftLeft_eq, Nat.pow_eq]
    push_cast
    ring
  rw [ratio] at near
  exact near

section Padded

variable (x : Magnitude) (places : ℕ)

theorem length_padded :
    (x.padded places).length = max (places + 1) (Nat.toDigits 10 (x.units places)).length := by
  rw [padded, List.length_append, Decimal.zeros, List.length_replicate]
  omega

theorem isDigit_of_mem_padded {c : Char} (member : c ∈ x.padded places) : c.isDigit :=
  (List.mem_append.mp member).elim Decimal.isDigit_of_mem_zeros
    ((Decimal.digits_toDigits _).2 c)

theorem value_padded : Nat.ofDigitChars 10 (x.padded places) 0 = x.units places := by
  rw [padded, Nat.ofDigitChars_append, Decimal.zeros, Nat.ofDigitChars_replicate_zero,
    Nat.mul_zero, Nat.ofDigitChars_ten_toDigits]

theorem length_padded_of_zero (zero : (x.padded places).head? = some '0') :
    (x.padded places).length = places + 1 := by
  by_cases few : (Nat.toDigits 10 (x.units places)).length ≤ places + 1
  next => rw [length_padded, Nat.max_eq_left few]
  next =>
    have none : places + 1 - (Nat.toDigits 10 (x.units places)).length = 0 := by omega
    rw [padded, none, Decimal.zeros, List.replicate_zero, List.nil_append] at zero
    rw [head?_toDigits zero, Nat.toDigits_zero, List.length_singleton] at few
    omega

end Padded

end Magnitude

structure FixedParts (places : ℕ) (q : ℚ) (whole fraction : List Char) : Prop where
  whole_digits : Digits whole
  short : whole.head? = some '0' → whole = ['0']
  fraction_digits : ∀ c ∈ fraction, c.isDigit
  length : fraction.length = places
  rounded : NearestTo (q * 10 ^ places) (Nat.ofDigitChars 10 (whole ++ fraction) 0)

theorem exists_fixedParts (x : Magnitude) (places : ℕ) :
    ∃ whole fraction, FixedParts places (x.mantissa * 2 ^ x.exponent) whole fraction ∧
      x.fixed places = whole ++ if places = 0 then [] else '.' :: fraction := by
  have near := x.nearestTo_units places
  have enough : places < (x.padded places).length := by
    rw [x.length_padded]
    omega
  have digits (c : Char) (member : c ∈ x.padded places) := x.isDigit_of_mem_padded places member
  have short := x.length_padded_of_zero places
  rw [← x.value_padded] at near
  rw [Magnitude.fixed]
  generalize x.padded places = text at *
  refine ⟨text.take (text.length - places), text.drop (text.length - places), ?_, ?_⟩
  next =>
    refine ⟨⟨?_, fun c member => digits c (List.mem_of_mem_take member)⟩, fun zero => ?_,
      fun c member => digits c (List.mem_of_mem_drop member), ?_, ?_⟩
    next =>
      rw [← List.length_pos_iff, List.length_take]
      omega
    next =>
      rw [List.head?_take, if_neg (by omega)] at zero
      rw [short zero, Nat.add_sub_cancel_left, List.take_one, zero]
      rfl
    next =>
      rw [List.length_drop]
      omega
    next => rwa [List.take_append_drop]
  next =>
    split
    next noPlaces => rw [noPlaces, Nat.sub_zero, List.take_length, List.append_nil]
    next => rfl

/-- How far a finite double is from zero. -/
def distance (x : Float) : ℚ :=
  match x.toModel.unpack with
  | .finite _ mantissa exponent _ => mantissa * 2 ^ exponent
  | _ => 0

theorem toNat_one_append (mantissa : BitVec 52) :
    (1#1 ++ mantissa).toNat = 2 ^ 52 + mantissa.toNat := by
  rw [BitVec.toNat_append, ← Nat.shiftLeft_add_eq_or_of_lt mantissa.isLt]
  rfl

theorem distance_eq {x : Float} (finite : x.isFinite) :
    distance x = (Magnitude.ofFloat x).mantissa * 2 ^ (Magnitude.ofFloat x).exponent := by
  have exponent := toNat_unpackExponent x
  have mantissa := toNat_unpackMantissa x
  have decoded : distance x =
      match unpack Format.binary64 x.toBits.toBitVec with
      | .finite _ mantissa exponent _ => mantissa * 2 ^ exponent
      | _ => 0 := rfl
  have bias (e : ℤ) : e - ((Format.binary64.exponentBias : ℤ) + (52 : ℕ)) = e - 1075 := rfl
  rw [decoded, unpack, if_neg (unpackExponent_ne_of_isFinite finite), Magnitude.ofFloat]
  simp only [Nat.shiftRight_eq_div_pow, Nat.shiftLeft_eq, Nat.one_mul, ← exponent, ← mantissa]
  by_cases subnormal : (@unpackExponent Format.binary64 x.toBits.toBitVec) = 0#11
  next =>
    have none : (0#11).toNat = 0 := rfl
    rw [if_pos subnormal, subnormal, if_pos none]
    by_cases zero : (@unpackMantissa Format.binary64 x.toBits.toBitVec) = 0#52
    next =>
      rw [dif_pos zero, zero]
      simp
    next =>
      rw [dif_neg zero]
      rfl
  next =>
    have positive : (@unpackExponent Format.binary64 x.toBits.toBitVec).toNat ≠ 0 := fun none =>
      subnormal (BitVec.eq_of_toNat_eq none)
    rw [if_neg subnormal, if_neg positive]
    dsimp only
    rw [bias, ← toNat_one_append]

def IsFixedText (places : ℕ) (x : Float) (text : String) : Prop :=
  ∃ whole fraction, FixedParts places (distance x) whole fraction ∧
    text.toList = (if isNegative x then ['-'] else []) ++
      (whole ++ if places = 0 then [] else '.' :: fraction)

theorem isFixedText_fixedText {x : Float} (finite : x.isFinite) (places : ℕ) :
    IsFixedText places x (fixedText places x) := by
  obtain ⟨whole, fraction, parts, written⟩ := exists_fixedParts (Magnitude.ofFloat x) places
  rw [← distance_eq finite] at parts
  refine ⟨whole, fraction, parts, ?_⟩
  rw [fixedText, if_pos finite, String.toList_ofList, NumberStyle.signed, written]
  split <;> rfl

end Calculator
