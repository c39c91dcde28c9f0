import Calculator.Symbol
import Calculator.Proofs.Recognition
import Calculator.Proofs.Spelling

set_option autoImplicit false

namespace Calculator

theorem isBlank_of_isSpace {c : Char} (h : isSpace c) : Text.isBlank c := by
  obtain rfl := isSpace_iff.mp h
  decide

theorem isBlank_of_isDigit {c : Char} (h : c.isDigit) : Text.isBlank c = false := by
  simp only [Char.isDigit, Bool.and_eq_true, decide_eq_true_eq, ge_iff_le,
    UInt32.le_iff_toNat_le] at h
  have place : 48 ≤ c.toNat ∧ c.toNat ≤ 57 := h
  simp only [Text.isBlank, Text.inRanges, Text.blankRanges, List.any_cons, List.any_nil,
    Bool.or_eq_false_iff, Bool.and_eq_false_iff, decide_eq_false_iff_not]
  refine ⟨?_, ?_, ?_, ?_, ?_, ?_, ?_, ?_, ?_, ?_, trivial⟩ <;> omega

theorem isBlank_of_isNumeric {c : Char} (h : isNumeric c) : Text.isBlank c = false := by
  rcases isDigit_or_isSeparator h with digit | separator
  · exact isBlank_of_isDigit digit
  · simp only [isSeparator, Bool.or_eq_true, beq_iff_eq] at separator
    rcases separator with rfl | rfl <;> decide

theorem isBlank_of_isOperator {c : Char} (h : isOperator c) : Text.isBlank c = false := by
  rcases isOperator_iff.mp h with rfl | rfl | rfl | rfl <;> decide

theorem canonicalChar_of_not_isSeparator {c : Char} (h : isSeparator c = false) :
    canonicalChar c = c := by
  simp [canonicalChar, h]

theorem isNumeric_canonicalChar {c : Char} (h : isNumeric c) : isNumeric (canonicalChar c) := by
  unfold canonicalChar
  split
  · decide
  · exact h

theorem canonicalChar_canonicalChar (c : Char) :
    canonicalChar (canonicalChar c) = canonicalChar c := by
  by_cases separator : isSeparator c
  · simp only [canonicalChar, separator, if_true]
    decide
  · have plain := canonicalChar_of_not_isSeparator (Bool.eq_false_iff.mpr separator)
    rw [plain, plain]

theorem map_canonicalChar_of_digits {digits : List Char} (h : ∀ c ∈ digits, c.isDigit) :
    digits.map canonicalChar = digits := by
  refine (List.map_congr_left fun c member => ?_).trans (List.map_id digits)
  exact canonicalChar_of_not_isSeparator (not_isSeparator_of_isDigit (h c member))

theorem map_canonicalChar_of_numeralValue? {run : List Char} {value : Float}
    (h : numeralValue? run = some value) : run.map canonicalChar = run := by
  obtain ⟨d, read, _⟩ := Option.map_eq_some_iff.mp h
  refine (List.map_congr_left fun c member => ?_).trans (List.map_id run)
  rcases (ofNumeral?_run read).2 c member with digit | rfl
  · exact canonicalChar_of_not_isSeparator (not_isSeparator_of_isDigit digit)
  · rfl

def canonicalChars (text : List Char) : List Char :=
  (text.filter (!Text.isBlank ·)).map canonicalChar

theorem toList_canonical (text : String) : (canonical text).toList = canonicalChars text.toList :=
  String.toList_ofList

section Characters

variable {c : Char} {rest : List Char}

theorem canonicalChars_append (a b : List Char) :
    canonicalChars (a ++ b) = canonicalChars a ++ canonicalChars b := by
  simp [canonicalChars]

theorem canonicalChars_blank (blank : Text.isBlank c) :
    canonicalChars (c :: rest) = canonicalChars rest := by
  simp [canonicalChars, blank]

theorem canonicalChars_plain (visible : Text.isBlank c = false) (plain : isSeparator c = false) :
    canonicalChars (c :: rest) = c :: canonicalChars rest := by
  simp [canonicalChars, visible, canonicalChar_of_not_isSeparator plain]

theorem canonicalChars_operator (h : isOperator c) :
    canonicalChars (c :: rest) = c :: canonicalChars rest := by
  refine canonicalChars_plain (isBlank_of_isOperator h) ?_
  rcases isOperator_iff.mp h with rfl | rfl | rfl | rfl <;> decide

theorem canonicalChars_opening : canonicalChars ('(' :: rest) = '(' :: canonicalChars rest :=
  canonicalChars_plain (by decide) (by decide)

theorem canonicalChars_closing : canonicalChars (')' :: rest) = ')' :: canonicalChars rest :=
  canonicalChars_plain (by decide) (by decide)

theorem canonicalChars_spaces {spaces : List Char} (h : Spaces spaces) :
    canonicalChars spaces = [] := by
  have none : spaces.filter (!Text.isBlank ·) = [] :=
    List.filter_eq_nil_iff.mpr fun c member => by
      simp [isBlank_of_isSpace (isSpace_iff.mpr (h c member))]
  rw [canonicalChars, none, List.map_nil]

theorem canonicalChars_run {run : List Char} (numeric : ∀ c ∈ run, isNumeric c) :
    canonicalChars run = run.map canonicalChar := by
  have all : run.filter (!Text.isBlank ·) = run :=
    List.filter_eq_self.mpr fun c member => by simp [isBlank_of_isNumeric (numeric c member)]
  rw [canonicalChars, all]

end Characters

def Token.canonical? : Token → Option Token
  | numeral run => some (numeral (run.map canonicalChar))
  | stray c => if Text.isBlank c then none else some (stray c)
  | token => some token

/-- Forming the canonical text neither fuses tokens nor splits them. -/
def TokensKept (text : List Char) : Prop :=
  tokens (canonicalChars text) = (tokens text).filterMap Token.canonical?

namespace TokensKept

theorem nil : TokensKept [] := by simp [TokensKept, canonicalChars]

theorem append {a b : List Char} (first : TokensKept a) (second : TokensKept b)
    (detached : Detached b) (detached' : Detached (canonicalChars b)) : TokensKept (a ++ b) := by
  rw [TokensKept, canonicalChars_append, tokens_append detached', tokens_append detached,
    List.filterMap_append, first, second]

theorem space {text : List Char} (kept : TokensKept text) : TokensKept (' ' :: text) := by
  rw [TokensKept, canonicalChars_blank (by decide), tokens_symbol (by decide), kept]
  rfl

theorem spaces {spaces text : List Char} (h : Spaces spaces) (kept : TokensKept text) :
    TokensKept (spaces ++ text) := by
  induction spaces with
  | nil => exact kept
  | cons c spaces ih =>
      obtain ⟨rfl, others⟩ := h.of_cons
      exact (ih others).space

theorem operator {c : Char} {text : List Char} (h : isOperator c) (kept : TokensKept text) :
    TokensKept (c :: text) := by
  obtain ⟨op, rfl⟩ := exists_symbol_of_isOperator h
  rw [TokensKept, canonicalChars_operator h, tokens_operator, tokens_operator, kept]
  rfl

theorem opening {text : List Char} (kept : TokensKept text) : TokensKept ('(' :: text) := by
  rw [TokensKept, canonicalChars_opening, tokens_opening, tokens_opening, kept]
  rfl

theorem closing {text : List Char} (kept : TokensKept text) : TokensKept (')' :: text) := by
  rw [TokensKept, canonicalChars_closing, tokens_closing, tokens_closing, kept]
  rfl

theorem numeral {run : List Char} (h : Numeral run) : TokensKept run := by
  obtain ⟨c, rest, rfl, _⟩ := h.head_isDigit
  have numeric : ∀ d ∈ (c :: rest).map canonicalChar, isNumeric d := by
    intro d member
    obtain ⟨d, original, rfl⟩ := List.mem_map.mp member
    exact isNumeric_canonicalChar (h.numeric d original)
  rw [TokensKept, canonicalChars_run h.numeric, tokens_numeral (by simp) numeric,
    tokens_numeral (List.cons_ne_nil c rest) h.numeric]
  rfl

end TokensKept

theorem detached_canonicalChars_tail {text : List Char} (h : Derives .tail text) :
    Detached (canonicalChars text) := by
  cases h with
  | done => exact detached_nil
  | next operator _ _ =>
      have isOperator := isOperator_iff.mpr operator
      rw [canonicalChars_operator isOperator]
      exact detached_cons (not_isNumeric_of_isOperator isOperator)

theorem Derives.tail_detached {text : List Char} (h : Derives .tail text) : Detached text := by
  simpa using detached_tail h detached_nil

theorem Derives.tokensKept {phrase : Phrase} {text : List Char} (h : Derives phrase text) :
    TokensKept text := by
  induction h with
  | @number before numeral after spacesBefore isNumeral spacesAfter =>
      have blank : TokensKept after := by simpa using TokensKept.nil.spaces spacesAfter
      refine .spaces spacesBefore ((TokensKept.numeral isNumeral).append blank ?_ ?_)
      · simpa using spacesAfter.detached detached_nil
      · rw [canonicalChars_spaces spacesAfter]
        exact detached_nil
  | @bracket before inner after spacesBefore _ spacesAfter ih =>
      have blank : TokensKept after := by simpa using TokensKept.nil.spaces spacesAfter
      refine .spaces spacesBefore (.opening (ih.append blank.closing ?_ ?_))
      · exact detached_cons (by decide)
      · rw [canonicalChars_closing]
        exact detached_cons (by decide)
  | bracketed _ ih => exact ih
  | done => exact .nil
  | next operator _ isTail operand tail =>
      exact .operator (isOperator_iff.mpr operator)
        (operand.append tail isTail.tail_detached (detached_canonicalChars_tail isTail))
  | plain _ isTail operand tail =>
      exact operand.append tail isTail.tail_detached (detached_canonicalChars_tail isTail)
  | signed before additive _ isTail operand tail =>
      exact .spaces before (.operator (isOperator_of_isAdditive (isAdditive_iff.mpr additive))
        (operand.append tail isTail.tail_detached (detached_canonicalChars_tail isTail)))
  | scaled before multiplicative _ isTail bracket tail =>
      have isOperator := isOperator_of_isMultiplicative (isMultiplicative_iff.mpr multiplicative)
      exact .spaces before (.operator isOperator
        (bracket.append tail isTail.tail_detached (detached_canonicalChars_tail isTail)))

theorem tokensKept_of_isValid {text : String} (h : isValid text) : TokensKept text.toList := by
  rcases derives_of_isValid h with blank | expression
  · simpa using TokensKept.nil.spaces blank
  · exact expression.tokensKept

end Calculator
