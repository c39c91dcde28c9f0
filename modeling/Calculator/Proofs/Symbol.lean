import Calculator.Symbol
import Calculator.Arithmetic

set_option autoImplicit false

namespace Calculator

theorem isSpace_iff {c : Char} : isSpace c ↔ c = ' ' := by simp [isSpace]

theorem isSeparator_iff {c : Char} : isSeparator c ↔ c = '.' ∨ c = ',' := by simp [isSeparator]

theorem isAdditive_iff {c : Char} : isAdditive c ↔ c = '+' ∨ c = '-' := by simp [isAdditive]

theorem isMultiplicative_iff {c : Char} : isMultiplicative c ↔ c = '*' ∨ c = '/' := by
  simp [isMultiplicative]

theorem isOperator_iff {c : Char} :
    isOperator c ↔ c = '+' ∨ c = '-' ∨ c = '*' ∨ c = '/' := by
  simp [isOperator, isAdditive, isMultiplicative, or_assoc]

theorem isOperator_iff_ofSymbol? {c : Char} :
    isOperator c ↔ ∃ op, Operator.ofSymbol? c = some op := by
  rw [isOperator_iff]
  constructor
  · rintro (rfl | rfl | rfl | rfl) <;> exact ⟨_, rfl⟩
  · rintro ⟨op, read⟩
    rw [← Operator.symbol_of_ofSymbol? read]
    cases op <;> decide

theorem exists_symbol_of_isOperator {c : Char} (h : isOperator c) :
    ∃ op : Operator, op.symbol = c := by
  obtain ⟨op, known⟩ := isOperator_iff_ofSymbol?.mp h
  exact ⟨op, Operator.symbol_of_ofSymbol? known⟩

theorem isOperator_of_isAdditive {c : Char} (h : isAdditive c) : isOperator c := by
  simp [isOperator, h]

theorem isOperator_of_isMultiplicative {c : Char} (h : isMultiplicative c) : isOperator c := by
  simp [isOperator, h]

theorem isOperator_symbol (op : Operator) : isOperator op.symbol := by cases op <;> decide

theorem precedence_of_isAdditive {op : Operator} (h : isAdditive op.symbol) :
    op.precedence = .additive := by
  cases op <;> revert h <;> decide

theorem isAdditive_symbol {op : Operator} (h : op.precedence = .additive) :
    isAdditive op.symbol := by
  cases op <;> revert h <;> decide

theorem isMultiplicative_symbol {op : Operator} (h : op.precedence = .multiplicative) :
    isMultiplicative op.symbol := by
  cases op <;> revert h <;> decide

theorem isNumeric_of_isDigit {c : Char} (h : c.isDigit) : isNumeric c := by
  simp [isNumeric, h]

theorem isNumeric_of_isSeparator {c : Char} (h : isSeparator c) : isNumeric c := by
  simp [isNumeric, h]

theorem isDigit_or_isSeparator {c : Char} (h : isNumeric c) : c.isDigit ∨ isSeparator c := by
  simpa [isNumeric] using h

theorem not_isDigit_of_isSeparator {c : Char} (h : isSeparator c) : c.isDigit = false := by
  simp only [isSeparator, Bool.or_eq_true, beq_iff_eq] at h
  rcases h with rfl | rfl <;> decide

theorem not_isSeparator_of_isDigit {c : Char} (h : c.isDigit) : isSeparator c = false := by
  refine Bool.eq_false_iff.mpr fun separator => ?_
  simpa [h] using not_isDigit_of_isSeparator separator

theorem not_isOperator_of_isNumeric {c : Char} (h : isNumeric c) : isOperator c = false := by
  refine Bool.eq_false_iff.mpr fun operator => ?_
  rcases isOperator_iff.mp operator with rfl | rfl | rfl | rfl <;> revert h <;> decide

theorem not_isNumeric_of_isOperator {c : Char} (h : isOperator c) : isNumeric c = false := by
  rcases isOperator_iff.mp h with rfl | rfl | rfl | rfl <;> decide

theorem not_isNumeric_symbol (op : Operator) : isNumeric op.symbol = false :=
  not_isNumeric_of_isOperator (isOperator_symbol op)

theorem ne_brackets_of_isNumeric {c : Char} (h : isNumeric c) : c ≠ '(' ∧ c ≠ ')' := by
  constructor <;> rintro rfl <;> revert h <;> decide

theorem ne_brackets_of_isOperator {c : Char} (h : isOperator c) : c ≠ '(' ∧ c ≠ ')' := by
  rcases isOperator_iff.mp h with rfl | rfl | rfl | rfl <;> decide

theorem isAcceptable_cases {c : Char} (h : isAcceptable c) :
    c = ' ' ∨ c.isDigit ∨ isSeparator c ∨ isOperator c ∨ c = '(' ∨ c = ')' := by
  simp only [isAcceptable, isNumeric, isBracket, isSpace, Bool.or_eq_true, beq_iff_eq] at h
  rcases h with (((h | h) | h) | h | h) | h <;> simp [h]

namespace SymbolClass

theorem of_isOperator {c : Char} (h : isOperator c) : of c = operator := by
  obtain ⟨opening, closing⟩ := ne_brackets_of_isOperator h
  simp [of, opening, closing, h]

theorem of_isNumeric {c : Char} (h : isNumeric c) : of c = number := by
  obtain ⟨opening, closing⟩ := ne_brackets_of_isNumeric h
  simp [of, opening, closing, h, not_isOperator_of_isNumeric h]

@[simp] theorem of_opening : of '(' = opening := by decide
@[simp] theorem of_closing : of ')' = closing := by decide
@[simp] theorem of_space : of ' ' = other := by decide

theorem next_cons_of_isDigit {c : Char} (h : c.isDigit) (rest : List Char) :
    next (c :: rest) = number := by
  simp [next, h, of_isNumeric (isNumeric_of_isDigit h)]

@[simp] theorem next_opening (rest : List Char) : next ('(' :: rest) = opening := by
  rw [next, if_pos (by decide), of_opening]

@[simp] theorem next_space (rest : List Char) : next (' ' :: rest) = next rest := by
  rw [next, if_neg (by decide)]

end SymbolClass

end Calculator
