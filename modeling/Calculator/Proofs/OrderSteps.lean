import Calculator.Proofs.Grammar

set_option autoImplicit false

namespace Calculator

open SymbolClass (next)

def Meaningless (c : Char) : Prop := SymbolClass.of c = .other

instance (c : Char) : Decidable (Meaningless c) :=
  inferInstanceAs (Decidable (SymbolClass.of c = .other))

theorem meaning_cases (c : Char) :
    Meaningless c ∨ c.isDigit ∨ isSeparator c ∨ isOperator c ∨ c = '(' ∨ c = ')' := by
  by_cases numeric : isNumeric c
  · rcases isDigit_or_isSeparator numeric with digit | separator
    · exact .inr (.inl digit)
    · exact .inr (.inr (.inl separator))
  · grind [Meaningless, SymbolClass.of]

theorem not_meaningless_of_isNumeric {c : Char} (numeric : isNumeric c) : ¬Meaningless c := by
  rw [Meaningless, SymbolClass.of_isNumeric numeric]
  exact SymbolClass.noConfusion

theorem not_meaningless_of_isOperator {c : Char} (operator : isOperator c) : ¬Meaningless c := by
  rw [Meaningless, SymbolClass.of_isOperator operator]
  exact SymbolClass.noConfusion

theorem next_of_meaningless {c : Char} (h : Meaningless c) (rest : List Char) :
    next (c :: rest) = next rest := by
  have noSymbol : ¬(c.isDigit || isOperator c || isBracket c) := by
    grind [Meaningless, SymbolClass.of, isNumeric, isBracket]
  rw [next, if_neg noSymbol]

theorem ne_brackets_of_meaningless {c : Char} (h : Meaningless c) : c ≠ '(' ∧ c ≠ ')' := by
  constructor <;> rintro rfl <;> revert h <;> decide

theorem not_isNumeric_of_meaningless {c : Char} (h : Meaningless c) : isNumeric c = false :=
  Bool.eq_false_iff.mpr fun numeric => not_meaningless_of_isNumeric numeric h

section Steps

variable {previous : SymbolClass} {position : Nat} {c : Char} {rest : List Char}

theorem orderFrom_nil : orderFrom previous position [] = none := by
  rw [orderFrom]

theorem orderFrom_meaningless (none : Meaningless c) :
    orderFrom previous position (c :: rest) = orderFrom previous (position + 1) rest := by
  rw [orderFrom, none]

theorem orderFrom_operator (operator : isOperator c) :
    orderFrom previous position (c :: rest) =
      if operatorFits c previous (next rest) then orderFrom .operator (position + 1) rest
      else some (.misplaced c position) := by
  rw [orderFrom, SymbolClass.of_isOperator operator]

theorem orderFrom_opening :
    orderFrom previous position ('(' :: rest) =
      if previous = .closing ∨ previous = .number then some (.misplaced '(' position)
      else orderFrom .opening (position + 1) rest := by
  rw [orderFrom, SymbolClass.of_opening]

theorem orderFrom_closing :
    orderFrom previous position (')' :: rest) =
      if previous = .operator ∨ previous = .opening then some (.misplaced ')' position)
      else orderFrom .closing (position + 1) rest := by
  rw [orderFrom, SymbolClass.of_closing]

theorem orderFrom_separator (separator : isSeparator c) :
    orderFrom previous position (c :: rest) = some (.misplaced c position) := by
  rw [orderFrom, SymbolClass.of_isNumeric (isNumeric_of_isSeparator separator)]
  exact if_pos (.inl separator)

theorem orderFrom_digit (digit : c.isDigit) :
    orderFrom previous position (c :: rest) =
      if previous = .closing ∨ previous = .number then some (.misplaced c position)
      else if 1 < (c :: rest.takeWhile isNumeric).countP isSeparator then
        some (.malformedNumber (String.ofList (c :: rest.takeWhile isNumeric)) position)
      else
        orderFrom .number (position + (c :: rest.takeWhile isNumeric).length)
          (rest.dropWhile isNumeric) := by
  rw [orderFrom, SymbolClass.of_isNumeric (isNumeric_of_isDigit digit)]
  simp only [not_isSeparator_of_isDigit digit, Bool.false_eq_true, false_or]

end Steps

end Calculator
