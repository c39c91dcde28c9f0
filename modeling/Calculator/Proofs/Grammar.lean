import Calculator.Check
import Calculator.Proofs.Symbol
import Calculator.Proofs.Token

set_option autoImplicit false

namespace Calculator

def Spaces (text : List Char) : Prop := ∀ c ∈ text, c = ' '

def Digits (text : List Char) : Prop := text ≠ [] ∧ ∀ c ∈ text, c.isDigit

inductive Numeral : List Char → Prop where
  | whole {digits : List Char} : Digits digits → Numeral digits
  | fractional {digits fraction : List Char} {separator : Char} :
      Digits digits → separator = '.' ∨ separator = ',' → (∀ c ∈ fraction, c.isDigit) →
      Numeral (digits ++ separator :: fraction)

inductive Phrase where
  | expression
  | tail
  | operand
  | bracket
deriving DecidableEq

-- Spaces stand around the tokens, never inside a numeral. A multiplicative operator may come first
-- only before a bracket.
inductive Derives : Phrase → List Char → Prop where
  | number {before numeral after : List Char} :
      Spaces before → Numeral numeral → Spaces after →
      Derives .operand (before ++ (numeral ++ after))
  | bracket {before inner after : List Char} :
      Spaces before → Derives .expression inner → Spaces after →
      Derives .bracket (before ++ '(' :: (inner ++ ')' :: after))
  | bracketed {text : List Char} : Derives .bracket text → Derives .operand text
  | done : Derives .tail []
  | next {c : Char} {operand tail : List Char} :
      c = '+' ∨ c = '-' ∨ c = '*' ∨ c = '/' → Derives .operand operand → Derives .tail tail →
      Derives .tail (c :: (operand ++ tail))
  | plain {operand tail : List Char} :
      Derives .operand operand → Derives .tail tail → Derives .expression (operand ++ tail)
  | signed {before : List Char} {c : Char} {operand tail : List Char} :
      Spaces before → c = '+' ∨ c = '-' → Derives .operand operand → Derives .tail tail →
      Derives .expression (before ++ c :: (operand ++ tail))
  | scaled {before : List Char} {c : Char} {bracket tail : List Char} :
      Spaces before → c = '*' ∨ c = '/' → Derives .bracket bracket → Derives .tail tail →
      Derives .expression (before ++ c :: (bracket ++ tail))

theorem spaces_nil : Spaces [] := by simp [Spaces]

theorem Spaces.of_cons {c : Char} {text : List Char} (h : Spaces (c :: text)) :
    c = ' ' ∧ Spaces text := by
  simpa [Spaces] using h

theorem Digits.append {digits others : List Char} (h : Digits digits)
    (isDigit : ∀ c ∈ others, c.isDigit) : Digits (digits ++ others) :=
  ⟨by simp [h.1], List.forall_mem_append.mpr ⟨h.2, isDigit⟩⟩

theorem Numeral.numeric {text : List Char} (h : Numeral text) : ∀ c ∈ text, isNumeric c := by
  cases h with
  | whole digits => exact fun c member => isNumeric_of_isDigit (digits.2 c member)
  | fractional digits separator fraction =>
      intro c member
      rcases List.mem_append.mp member with member | member
      · exact isNumeric_of_isDigit (digits.2 c member)
      · rcases List.mem_cons.mp member with rfl | member
        · exact isNumeric_of_isSeparator (isSeparator_iff.mpr separator)
        · exact isNumeric_of_isDigit (fraction c member)

theorem Numeral.head_isDigit {text : List Char} (h : Numeral text) :
    ∃ c rest, text = c :: rest ∧ c.isDigit := by
  have first {digits : List Char} (nonempty : Digits digits) (others : List Char) :
      ∃ c rest, digits ++ others = c :: rest ∧ c.isDigit := by
    obtain ⟨c, rest, rfl⟩ := List.exists_cons_of_ne_nil nonempty.1
    exact ⟨c, rest ++ others, rfl, nonempty.2 c List.mem_cons_self⟩
  cases h with
  | whole digits => simpa using first digits []
  | fractional digits _ _ => exact first digits _

theorem countP_isSeparator_of_digits {text : List Char} (h : ∀ c ∈ text, c.isDigit) :
    text.countP isSeparator = 0 := by
  refine List.countP_eq_zero.mpr fun c member => ?_
  rw [not_isSeparator_of_isDigit (h c member)]
  exact Bool.false_ne_true

theorem numeral_iff {c : Char} {rest : List Char} (numeric : ∀ d ∈ c :: rest, isNumeric d)
    (digit : c.isDigit) : Numeral (c :: rest) ↔ (c :: rest).countP isSeparator ≤ 1 := by
  constructor
  · intro numeral
    generalize c :: rest = text at numeral
    cases numeral with
    | whole digits => simp [countP_isSeparator_of_digits digits.2]
    | fractional digits separator fraction =>
        simp [List.countP_append, countP_isSeparator_of_digits digits.2,
          countP_isSeparator_of_digits fraction, isSeparator_iff.mpr separator]
  · intro few
    have whole := List.takeWhile_append_dropWhile (p := Char.isDigit) (l := c :: rest)
    have digits : Digits ((c :: rest).takeWhile Char.isDigit) :=
      ⟨by simp [digit], List.all_eq_true.mp List.all_takeWhile⟩
    have stop := List.head?_dropWhile_not Char.isDigit (c :: rest)
    cases later : (c :: rest).dropWhile Char.isDigit with
    | nil =>
        rw [later, List.append_nil] at whole
        exact whole ▸ .whole digits
    | cons s fraction =>
        rw [later] at whole stop
        have inside {d : Char} (member : d ∈ s :: fraction) : isNumeric d :=
          numeric d (whole ▸ List.mem_append_right _ member)
        have separator : isSeparator s :=
          (isDigit_or_isSeparator (inside List.mem_cons_self)).resolve_left (by simpa using stop)
        have onlyOne : fraction.countP isSeparator = 0 := by
          rw [← whole, List.countP_append, List.countP_cons, if_pos separator] at few
          omega
        have others : ∀ d ∈ fraction, d.isDigit := fun d member =>
          (isDigit_or_isSeparator (inside (List.mem_cons_of_mem _ member))).resolve_right
            (List.countP_eq_zero.mp onlyOne d member)
        exact whole ▸ .fractional digits (isSeparator_iff.mp separator) others

theorem ofNumeral?_digits {digits : List Char} (h : Digits digits) :
    Decimal.ofNumeral? digits = some ⟨Nat.ofDigitChars 10 digits 0, 0⟩ := by
  have all : (digits ++ []).takeWhile Char.isDigit = digits := by
    rw [List.takeWhile_append_of_pos h.2, List.takeWhile_nil, List.append_nil]
  have none : (digits ++ []).dropWhile Char.isDigit = [] := by
    rw [List.dropWhile_append_of_pos h.2, List.dropWhile_nil]
  rw [List.append_nil] at all none
  simp [Decimal.ofNumeral?, all, none, h.1]

theorem ofNumeral?_point {whole fraction : List Char} (h : Digits (whole ++ fraction)) :
    Decimal.ofNumeral? (whole ++ '.' :: fraction) =
      some ⟨Nat.ofDigitChars 10 (whole ++ fraction) 0, -fraction.length⟩ := by
  obtain ⟨nonempty, isDigit⟩ := h
  obtain ⟨first, others⟩ := List.forall_mem_append.mp isDigit
  have front : (whole ++ '.' :: fraction).takeWhile Char.isDigit = whole := by
    rw [List.takeWhile_append_of_pos first]
    simp
  have behind : (whole ++ '.' :: fraction).dropWhile Char.isDigit = '.' :: fraction := by
    rw [List.dropWhile_append_of_pos first]
    simp
  have all : fraction.all Char.isDigit = true := List.all_eq_true.mpr others
  have present : (whole ++ fraction).isEmpty = false := by simpa using nonempty
  simp only [Decimal.ofNumeral?, front, behind, all, present, Bool.not_false, Bool.and_self,
    if_true]

theorem exists_ofNumeral?_iff {run : List Char} :
    (∃ d, Decimal.ofNumeral? run = some d) ↔
      Digits run ∨
        ∃ whole fraction, run = whole ++ '.' :: fraction ∧ Digits (whole ++ fraction) := by
  constructor
  next =>
    rintro ⟨d, read⟩
    have parts := List.takeWhile_append_dropWhile (p := Char.isDigit) (l := run)
    have digits : ∀ c ∈ run.takeWhile Char.isDigit, c.isDigit :=
      List.all_eq_true.mp List.all_takeWhile
    simp only [Decimal.ofNumeral?] at read
    split at read
    next none =>
      rw [none, List.append_nil] at parts
      rw [parts] at read digits
      refine .inl ⟨?_, digits⟩
      rintro rfl
      simp at read
    next fraction found =>
      rw [found] at parts
      refine .inr ⟨_, fraction, parts.symm, ?_⟩
      split at read
      next fits =>
        simp only [Bool.and_eq_true, List.all_eq_true, Bool.not_eq_true',
          List.isEmpty_eq_false_iff] at fits
        exact ⟨fits.2, List.forall_mem_append.mpr ⟨digits, fits.1⟩⟩
      next => contradiction
    next => contradiction
  next =>
    rintro (digits | ⟨whole, fraction, rfl, digits⟩)
    · exact ⟨_, ofNumeral?_digits digits⟩
    · exact ⟨_, ofNumeral?_point digits⟩

end Calculator
