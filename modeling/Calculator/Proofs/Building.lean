import Calculator.Proofs.Canonical
import Calculator.Proofs.Grouping

set_option autoImplicit false

namespace Calculator

namespace Expr

def Complete : Expr → Prop
  | number _ | absent => True
  | bracketed inner => inner ≠ absent ∧ inner.Complete
  | operation _ left right => right ≠ absent ∧ left.Complete ∧ right.Complete

def isBracketed : Expr → Bool
  | bracketed _ => true
  | _ => false

/-- Complete, and a multiplicative operator has a left operand, unless a bracket follows it. -/
def Regular : Expr → Prop
  | number _ | absent => True
  | bracketed inner => inner ≠ absent ∧ inner.Regular
  | operation op left right =>
      right ≠ absent ∧ (left = absent → op.precedence = .additive ∨ right.isBracketed) ∧
        left.Regular ∧ right.Regular

theorem Regular.complete {e : Expr} (h : e.Regular) : e.Complete := by
  induction e with
  | number | absent => trivial
  | bracketed inner ih => exact ⟨h.1, ih h.2⟩
  | operation op left right ihLeft ihRight =>
      obtain ⟨present, _, isLeft, isRight⟩ := h
      exact ⟨present, ihLeft isLeft, ihRight isRight⟩

def attach (op : Operator) (operand : Expr) : Expr → Expr
  | operation before left right =>
      if before.precedence = .additive ∧ op.precedence = .multiplicative then
        operation before left (operation op right operand)
      else operation op (operation before left right) operand
  | e => operation op e operand

theorem attach_inside {before op : Operator} (additive : before.precedence = .additive)
    (multiplicative : op.precedence = .multiplicative) (left right operand : Expr) :
    attach op operand (operation before left right) =
      operation before left (operation op right operand) := by
  simp [attach, additive, multiplicative]

theorem attach_outside {op : Operator} {e : Expr}
    (h : op.precedence = .multiplicative → e.isSum = false) (operand : Expr) :
    attach op operand e = operation op e operand := by
  cases e with
  | number | absent | bracketed => rfl
  | operation before left right =>
      rw [attach, if_neg]
      rintro ⟨additive, multiplicative⟩
      simpa [isSum_operation, additive] using h multiplicative

end Expr

structure Built (text : List Char) (e : Expr) : Prop where
  spells : e.Spells text
  wellGrouped : e.WellGrouped
  regular : e.Regular
  present : e ≠ .absent

namespace Built

open Calculator.Expr (attach attach_inside attach_outside isSum_of_not_isOperation
  not_isOperation_of_isAtom)

variable {text inside : List Char} {e a : Expr} {op : Operator}

theorem bracketed (h : Built inside e) : Built ('(' :: (inside ++ [')'])) (.bracketed e) :=
  ⟨.bracketed h.spells, h.wellGrouped, ⟨h.present, h.regular⟩, Expr.noConfusion⟩

theorem signed (h : Built text a) (atom : a.isAtom)
    (leads : op.precedence = .additive ∨ a.isBracketed) :
    Built (op.symbol :: text) (.operation op .absent a) := by
  have notOperation := not_isOperation_of_isAtom atom
  have notSum := isSum_of_not_isOperation notOperation
  refine ⟨.operation .absent h.spells, ⟨trivial, h.wellGrouped, ?_⟩,
    ⟨h.present, fun _ => leads, trivial, h.regular⟩, Expr.noConfusion⟩
  cases op with
  | add | subtract => exact notSum
  | multiply | divide => exact ⟨rfl, notOperation⟩

theorem attach {front : List Char} (h : Built front e) (operand : Built text a)
    (atom : a.isAtom) : Built (front ++ op.symbol :: text) (attach op a e) := by
  have notOperation := not_isOperation_of_isAtom atom
  by_cases goesInside : op.precedence = .multiplicative ∧ e.isSum = true
  · obtain ⟨multiplicative, isSum⟩ := goesInside
    obtain ⟨spells, wellGrouped, regular, -⟩ := h
    cases spells with
    | number | absent | bracketed => contradiction
    | @operation before left right x y spellsLeft spellsRight =>
        have additive : before.precedence = .additive := by
          simpa [Expr.isSum_operation] using isSum
        obtain ⟨leftGrouped, rightGrouped, rightProduct⟩ :=
          (Expr.wellGrouped_sum additive).mp wellGrouped
        obtain ⟨rightPresent, _, leftRegular, rightRegular⟩ := regular
        rw [attach_inside additive multiplicative]
        -- A product behind a sum belongs to the last term of the sum.
        have product : (Expr.operation op right a).WellGrouped :=
          (Expr.wellGrouped_product multiplicative).mpr
            ⟨rightGrouped, operand.wellGrouped, rightProduct, notOperation⟩
        have notSum : (Expr.operation op right a).isSum = false := by
          rw [Expr.isSum_operation, multiplicative]
          rfl
        refine ⟨?_, (Expr.wellGrouped_sum additive).mpr ⟨leftGrouped, product, notSum⟩,
          ⟨Expr.noConfusion, fun _ => .inl additive, leftRegular,
            operand.present, fun none => absurd none rightPresent, rightRegular, operand.regular⟩,
          Expr.noConfusion⟩
        rw [List.append_assoc, List.cons_append]
        exact .operation spellsLeft (.operation spellsRight operand.spells)
  · have outside : op.precedence = .multiplicative → e.isSum = false := fun multiplicative =>
      Bool.eq_false_iff.mpr fun isSum => goesInside ⟨multiplicative, isSum⟩
    rw [attach_outside outside]
    refine ⟨.operation h.spells operand.spells, ?_,
      ⟨operand.present, fun none => absurd none h.present, h.regular, operand.regular⟩,
      Expr.noConfusion⟩
    cases kind : op.precedence with
    | additive =>
        exact (Expr.wellGrouped_sum kind).mpr
          ⟨h.wellGrouped, operand.wellGrouped, isSum_of_not_isOperation notOperation⟩
    | multiplicative =>
        exact (Expr.wellGrouped_product kind).mpr
          ⟨h.wellGrouped, operand.wellGrouped, outside kind, notOperation⟩

end Built

theorem Numeral.value {run : List Char} (h : Numeral run) :
    ∃ value, numeralValue? (run.map canonicalChar) = some value := by
  cases h with
  | whole digits =>
      rw [map_canonicalChar_of_digits digits.2, numeralValue?, ofNumeral?_digits digits]
      exact ⟨_, rfl⟩
  | fractional digits separator fraction =>
      rw [List.map_append, List.map_cons, map_canonicalChar_of_digits digits.2,
        map_canonicalChar_of_digits fraction, canonicalChar,
        if_pos (isSeparator_iff.mpr separator), numeralValue?,
        ofNumeral?_point (digits.append fraction)]
      exact ⟨_, rfl⟩

def Phrase.Builds : Phrase → List Char → Prop
  | expression, text => ∃ e, Built text e
  | operand, text => ∃ e, Built text e ∧ e.isAtom
  | bracket, text => ∃ e, Built text e ∧ e.isBracketed
  | tail, text => ∀ front e, Built front e → ∃ e', Built (front ++ text) e'

theorem isAtom_of_isBracketed {e : Expr} (h : e.isBracketed) : e.isAtom := by
  cases e <;> simp_all [Expr.isBracketed, Expr.isAtom]

theorem Phrase.builds_signed {before first tail : List Char} {op : Operator} {a : Expr}
    (spaces : Spaces before) (built : Built (canonicalChars first) a) (atom : a.isAtom)
    (leads : op.precedence = .additive ∨ a.isBracketed)
    (others : Phrase.tail.Builds (canonicalChars tail)) :
    Phrase.expression.Builds (canonicalChars (before ++ op.symbol :: (first ++ tail))) := by
  obtain ⟨whole, wholeBuilt⟩ := others _ _ (built.signed atom leads)
  rw [canonicalChars_append, canonicalChars_spaces spaces, List.nil_append,
    canonicalChars_operator (isOperator_symbol op), canonicalChars_append, ← List.cons_append]
  exact ⟨whole, wholeBuilt⟩

theorem Derives.builds {phrase : Phrase} {text : List Char} (h : Derives phrase text) :
    phrase.Builds (canonicalChars text) := by
  induction h with
  | number before numeral after =>
      obtain ⟨value, read⟩ := numeral.value
      rw [canonicalChars_append, canonicalChars_append, canonicalChars_spaces before,
        canonicalChars_spaces after, canonicalChars_run numeral.numeric, List.nil_append,
        List.append_nil]
      exact ⟨.number value, ⟨.number read, trivial, trivial, Expr.noConfusion⟩, rfl⟩
  | @bracket before inner after spacesBefore _ spacesAfter ih =>
      obtain ⟨e, built⟩ := ih
      rw [canonicalChars_append, canonicalChars_opening, canonicalChars_append,
        canonicalChars_closing, canonicalChars_spaces spacesBefore,
        canonicalChars_spaces spacesAfter, List.nil_append]
      exact ⟨.bracketed e, built.bracketed, rfl⟩
  | bracketed _ ih =>
      obtain ⟨e, built, isBracketed⟩ := ih
      exact ⟨e, built, isAtom_of_isBracketed isBracketed⟩
  | done =>
      intro front e built
      rw [canonicalChars, List.filter_nil, List.map_nil, List.append_nil]
      exact ⟨e, built⟩
  | next operator _ _ operandBuilds tailBuilds =>
      intro front e built
      have isOperator := isOperator_iff.mpr operator
      obtain ⟨op, rfl⟩ := exists_symbol_of_isOperator isOperator
      obtain ⟨a, operandBuilt, atom⟩ := operandBuilds
      obtain ⟨whole, wholeBuilt⟩ := tailBuilds _ _ (built.attach operandBuilt atom)
      refine ⟨whole, ?_⟩
      rw [canonicalChars_operator isOperator, canonicalChars_append]
      simpa using wholeBuilt
  | plain _ _ operandBuilds tailBuilds =>
      obtain ⟨a, operandBuilt, _⟩ := operandBuilds
      obtain ⟨whole, wholeBuilt⟩ := tailBuilds _ _ operandBuilt
      rw [canonicalChars_append]
      exact ⟨whole, wholeBuilt⟩
  | signed spaces additive _ _ operandBuilds tailBuilds =>
      have sign := isAdditive_iff.mpr additive
      obtain ⟨op, rfl⟩ := exists_symbol_of_isOperator (isOperator_of_isAdditive sign)
      obtain ⟨a, built, atom⟩ := operandBuilds
      exact Phrase.builds_signed spaces built atom (.inl (precedence_of_isAdditive sign))
        tailBuilds
  | scaled spaces multiplicative _ _ bracketBuilds tailBuilds =>
      have isOperator := isOperator_of_isMultiplicative (isMultiplicative_iff.mpr multiplicative)
      obtain ⟨op, rfl⟩ := exists_symbol_of_isOperator isOperator
      obtain ⟨a, built, isBracketed⟩ := bracketBuilds
      exact Phrase.builds_signed spaces built (isAtom_of_isBracketed isBracketed) (.inr isBracketed)
        tailBuilds

theorem exists_tree_of_isValid {text : String} (h : isValid text) :
    ∃ e : Expr, e.Spells (canonical text).toList ∧ e.WellGrouped ∧ e.Regular := by
  rw [toList_canonical]
  rcases derives_of_isValid h with blank | expression
  · rw [canonicalChars_spaces blank]
    exact ⟨.absent, .absent, trivial, trivial⟩
  · obtain ⟨e, built⟩ := expression.builds
    exact ⟨e, built.spells, built.wellGrouped, built.regular⟩

end Calculator
