import Calculator.Calculation
import Calculator.Proofs.Canonical

set_option autoImplicit false

namespace Calculator

theorem Numeral.canonicalChars {run : List Char} (h : Numeral run) :
    Numeral (canonicalChars run) := by
  rw [canonicalChars_run h.numeric]
  cases h with
  | whole digits =>
      rw [map_canonicalChar_of_digits digits.2]
      exact .whole digits
  | fractional digits separator fraction =>
      rw [List.map_append, List.map_cons, map_canonicalChar_of_digits digits.2,
        map_canonicalChar_of_digits fraction, canonicalChar,
        if_pos (isSeparator_iff.mpr separator)]
      exact .fractional digits (by decide) fraction

theorem Derives.canonicalChars {phrase : Phrase} {text : List Char} (h : Derives phrase text) :
    Derives phrase (canonicalChars text) := by
  induction h with
  | number before numeral after =>
      rw [canonicalChars_append, canonicalChars_append, canonicalChars_spaces before,
        canonicalChars_spaces after]
      exact .number spaces_nil numeral.canonicalChars spaces_nil
  | bracket before _ after ih =>
      rw [canonicalChars_append, canonicalChars_opening, canonicalChars_append,
        canonicalChars_closing, canonicalChars_spaces before, canonicalChars_spaces after]
      exact .bracket spaces_nil ih spaces_nil
  | bracketed _ ih => exact .bracketed ih
  | done => exact .done
  | next operator _ _ operand tail =>
      rw [canonicalChars_operator (isOperator_iff.mpr operator), canonicalChars_append]
      exact .next operator operand tail
  | plain _ _ operand tail =>
      rw [canonicalChars_append]
      exact .plain operand tail
  | signed before additive _ _ operand tail =>
      have isOperator := isOperator_of_isAdditive (isAdditive_iff.mpr additive)
      rw [canonicalChars_append, canonicalChars_operator isOperator, canonicalChars_append,
        canonicalChars_spaces before]
      exact .signed spaces_nil additive operand tail
  | scaled before multiplicative _ _ bracket tail =>
      have isOperator := isOperator_of_isMultiplicative (isMultiplicative_iff.mpr multiplicative)
      rw [canonicalChars_append, canonicalChars_operator isOperator, canonicalChars_append,
        canonicalChars_spaces before]
      exact .scaled spaces_nil multiplicative bracket tail

theorem isValid_canonical {text : String} (h : isValid text) : isValid (canonical text) := by
  rcases derives_of_isValid h with blank | expression
  · apply isValid_of_spaces
    rw [toList_canonical, canonicalChars_spaces blank]
    exact spaces_nil
  · apply isValid_of_derives
    rw [toList_canonical]
    exact expression.canonicalChars

theorem calculate_of_isValid {text : String} (h : isValid text) (limit : Nat) :
    calculate limit text =
      (evaluate limit (canonical text)).mapError (.failed (canonical text)) := by
  have noProblem : firstProblem? text = none := Option.isNone_iff_eq_none.mp h
  rw [calculate, noProblem]

end Calculator
