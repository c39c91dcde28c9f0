import Calculator.Expr.Functional
import Calculator.Proofs.NumberText
import Calculator.Proofs.ReadCanonical

set_option autoImplicit false

namespace Calculator

namespace Expr

def stripped : Expr → Expr
  | number value => number value
  | absent => absent
  | bracketed inner => inner.stripped
  | operation op left right => operation op left.stripped right.stripped

theorem evaluate_stripped (e : Expr) : e.stripped.evaluate = e.evaluate := by
  induction e with
  | number | absent => rfl
  | bracketed inner ih => exact ih
  | operation op left right ihLeft ihRight =>
      simp only [stripped, evaluate, ihLeft, ihRight]

def literals : Expr → List Float
  | number value => [value]
  | absent => []
  | bracketed inner => inner.literals
  | operation _ left right => left.literals ++ right.literals

def grouped (needed : Bool) (e : Expr) : Expr := if needed then bracketed e else e

def explicit : Expr → Expr
  | number value => number value
  | absent => absent
  | bracketed inner => bracketed inner.explicit
  | operation op left right =>
      operation op (grouped left.isOperation left.explicit)
        (grouped right.isOperation right.explicit)

theorem stripped_grouped (needed : Bool) (e : Expr) : (grouped needed e).stripped = e.stripped := by
  cases needed <;> rfl

theorem stripped_explicit (e : Expr) : e.explicit.stripped = e.stripped := by
  induction e with
  | number | absent => rfl
  | bracketed inner ih => exact ih
  | operation op left right ihLeft ihRight =>
      simp only [explicit, stripped, stripped_grouped, ihLeft, ihRight]

theorem isOperation_explicit (e : Expr) : e.explicit.isOperation = e.isOperation := by
  cases e <;> rfl

theorem explicit_eq_absent (e : Expr) : e.explicit = absent ↔ e = absent := by
  cases e <;> simp [explicit]

theorem isOperation_grouped (e : Expr) :
    (grouped e.isOperation e.explicit).isOperation = false := by
  cases kind : e.isOperation
  · simpa [grouped, isOperation_explicit] using kind
  · rfl

theorem grouped_eq_absent (e : Expr) : grouped e.isOperation e.explicit = absent ↔ e = absent := by
  cases kind : e.isOperation
  · exact explicit_eq_absent e
  · simp only [grouped, if_true, reduceCtorEq, false_iff]
    rintro rfl
    contradiction

theorem infixForm_explicit (e : Expr) : e.explicit.infixForm = e.infixForm := by
  have operandForm (operand : Expr) (same : operand.explicit.infixForm = operand.infixForm) :
      enclosed (grouped operand.isOperation operand.explicit).isOperation
        (grouped operand.isOperation operand.explicit).infixForm =
          enclosed operand.isOperation operand.infixForm := by
    rw [isOperation_grouped]
    cases operand.isOperation
    · exact same
    · simp [grouped, infixForm, same, enclosed]
  induction e with
  | number | absent => rfl
  | bracketed inner ih => simp only [explicit, infixForm, ih]
  | operation op left right ihLeft ihRight =>
      simp only [explicit, infixForm, grouped_eq_absent, operandForm left ihLeft,
        operandForm right ihRight]

theorem wellGrouped_explicit (e : Expr) : e.explicit.WellGrouped := by
  have operandGrouped (operand : Expr) (isGrouped : operand.explicit.WellGrouped) :
      (grouped operand.isOperation operand.explicit).WellGrouped := by
    cases operand.isOperation <;> exact isGrouped
  induction e with
  | number | absent => trivial
  | bracketed inner ih => exact ih
  | operation op left right ihLeft ihRight =>
      refine ⟨operandGrouped left ihLeft, operandGrouped right ihRight, ?_⟩
      have rightAlone := isOperation_grouped right
      cases op with
      | add | subtract => exact isSum_of_not_isOperation rightAlone
      | multiply | divide =>
          exact ⟨isSum_of_not_isOperation (isOperation_grouped left), rightAlone⟩

def Plain (e : Expr) : Prop := ∀ v ∈ e.literals, v.isFinite ∧ isNegative v = false

theorem Plain.left {op : Operator} {left right : Expr} (h : (operation op left right).Plain) :
    left.Plain :=
  fun v member => h v (List.mem_append_left _ member)

theorem Plain.right {op : Operator} {left right : Expr} (h : (operation op left right).Plain) :
    right.Plain :=
  fun v member => h v (List.mem_append_right _ member)

theorem obstacle?_explicit {e : Expr} (plain : e.Plain) (limit levels : Nat)
    (deep : e.depth ≤ levels) : e.explicit.obstacle? limit levels = none := by
  induction e generalizing levels with
  | number value => rw [explicit, obstacle?, if_pos (plain value List.mem_cons_self).1]
  | absent => rw [explicit, obstacle?]
  | bracketed inner ih =>
      obtain ⟨levels, rfl⟩ : ∃ n, levels = n + 1 := ⟨levels - 1, by simp [depth] at deep; omega⟩
      rw [explicit, obstacle?]
      exact ih plain levels (by simp [depth] at deep; omega)
  | operation op left right ihLeft ihRight =>
      have operandFree (operand : Expr) (less : operand.depth < levels)
          (ih : ∀ levels, operand.depth ≤ levels →
            operand.explicit.obstacle? limit levels = none) :
          (grouped operand.isOperation operand.explicit).obstacle? limit levels = none := by
        cases operand.isOperation
        · exact ih levels (by omega)
        · obtain ⟨levels, rfl⟩ : ∃ n, levels = n + 1 := ⟨levels - 1, by omega⟩
          exact ih levels (by omega)
      rw [depth] at deep
      rw [explicit, obstacle?, operandFree left (by omega) (ihLeft plain.left),
        operandFree right (by omega) (ihRight plain.right), Option.none_or]

theorem canonicalChars_enclosed (needed : Bool) (text : List Char) :
    canonicalChars (enclosed needed text) = enclosed needed (canonicalChars text) := by
  cases needed
  · rfl
  · rw [enclosed, enclosed, if_pos rfl, if_pos rfl, List.cons_append, List.cons_append,
      canonicalChars_opening, canonicalChars_append, canonicalChars_closing]
    rfl

theorem Spells.grouped {e : Expr} {text : List Char} (h : e.Spells text) (needed : Bool) :
    (grouped needed e).Spells (enclosed needed text) := by
  cases needed
  · exact h
  · exact .bracketed h

theorem spells_explicit {e : Expr} (plain : e.Plain) :
    e.explicit.Spells (canonicalChars e.infixForm) := by
  induction e with
  | number value =>
      obtain ⟨finite, nonneg⟩ := plain value List.mem_cons_self
      have read := numeralValue?_format finite nonneg
      rw [infixForm, canonicalChars_run (numeral_format finite nonneg).numeric,
        map_canonicalChar_of_numeralValue? read]
      exact .number read
  | absent => exact .absent
  | bracketed inner ih =>
      rw [infixForm, canonicalChars_enclosed]
      exact (ih plain).grouped true
  | operation op left right ihLeft ihRight =>
      have second := (ihRight plain.right).grouped right.isOperation
      rw [← canonicalChars_enclosed] at second
      rw [infixForm, explicit]
      by_cases missing : left = absent
      · subst missing
        rw [if_pos rfl, List.singleton_append, canonicalChars_operator (isOperator_symbol op)]
        exact .operation .absent second
      · have first := (ihLeft plain.left).grouped left.isOperation
        rw [← canonicalChars_enclosed] at first
        have separated : canonicalChars
            (enclosed left.isOperation left.infixForm ++ [' ', op.symbol, ' '] ++
              enclosed right.isOperation right.infixForm) =
            canonicalChars (enclosed left.isOperation left.infixForm) ++
              op.symbol :: canonicalChars (enclosed right.isOperation right.infixForm) := by
          rw [List.append_assoc, canonicalChars_append, List.cons_append, List.cons_append,
            List.cons_append, List.nil_append, canonicalChars_blank (by decide),
            canonicalChars_operator (isOperator_symbol op), canonicalChars_blank (by decide)]
        rw [if_neg missing, separated]
        exact .operation first second

end Expr

theorem Spaces.append {a b : List Char} (first : Spaces a) (second : Spaces b) : Spaces (a ++ b) :=
  fun c member => (List.mem_append.mp member).elim (first c) (second c)

theorem Derives.bracket_spaces {before text after : List Char} (h : Derives .bracket text)
    (spacesBefore : Spaces before) (spacesAfter : Spaces after) :
    Derives .bracket (before ++ (text ++ after)) := by
  cases h with
  | @bracket front inner back isFront isInner isBack =>
      have whole : before ++ (front ++ '(' :: (inner ++ ')' :: back) ++ after) =
          (before ++ front) ++ '(' :: (inner ++ ')' :: (back ++ after)) := by simp
      rw [whole]
      exact .bracket (spacesBefore.append isFront) isInner (isBack.append spacesAfter)

theorem Derives.operand_spaces {before text after : List Char} (h : Derives .operand text)
    (spacesBefore : Spaces before) (spacesAfter : Spaces after) :
    Derives .operand (before ++ (text ++ after)) := by
  cases h with
  | @number front numeral back isFront isNumeral isBack =>
      have whole : before ++ (front ++ (numeral ++ back) ++ after) =
          (before ++ front) ++ (numeral ++ (back ++ after)) := by simp
      rw [whole]
      exact .number (spacesBefore.append isFront) isNumeral (isBack.append spacesAfter)
  | bracketed isBracket => exact .bracketed (isBracket.bracket_spaces spacesBefore spacesAfter)

theorem Derives.expression_of_operand {text : List Char} (h : Derives .operand text) :
    Derives .expression text := by
  simpa using Derives.plain h .done

theorem Derives.enclosed {text : List Char} (h : Derives .expression text) :
    Derives .bracket (Expr.enclosed true text) :=
  .bracket spaces_nil h spaces_nil

namespace Expr

def operandForm (e : Expr) : List Char := enclosed e.isOperation e.infixForm

theorem derives_infixForm {e : Expr} (plain : e.Plain) (regular : e.Regular)
    (present : e ≠ absent) :
    Derives .expression e.infixForm ∧ Derives .operand e.operandForm ∧
      (e.isBracketed → Derives .bracket e.operandForm) := by
  induction e with
  | number value =>
      obtain ⟨finite, nonneg⟩ := plain value List.mem_cons_self
      have operand : Derives .operand (NumberStyle.plain.format value) := by
        simpa using Derives.number spaces_nil (numeral_format finite nonneg) spaces_nil
      exact ⟨operand.expression_of_operand, operand, by simp [isBracketed]⟩
  | absent => contradiction
  | bracketed inner ih =>
      obtain ⟨inside, _⟩ := ih plain regular.2 regular.1
      have operand := Derives.bracketed inside.enclosed
      exact ⟨operand.expression_of_operand, operand, fun _ => inside.enclosed⟩
  | operation op left right ihLeft ihRight =>
      obtain ⟨rightPresent, leads, leftRegular, rightRegular⟩ := regular
      obtain ⟨_, rightOperand, rightBracket⟩ := ihRight plain.right rightRegular rightPresent
      have whole : Derives .expression (operation op left right).infixForm := by
        rw [infixForm]
        by_cases missing : left = absent
        · rw [if_pos missing]
          cases kind : op.precedence with
          | additive =>
              have signed := Derives.signed spaces_nil (isAdditive_iff.mp (isAdditive_symbol kind))
                rightOperand .done
              simpa [operandForm] using signed
          | multiplicative =>
              have isBracket := rightBracket ((leads missing).resolve_left (by simp [kind]))
              have scaled :=
                Derives.scaled spaces_nil (isMultiplicative_iff.mp (isMultiplicative_symbol kind))
                  isBracket .done
              simpa [operandForm] using scaled
        · obtain ⟨_, leftOperand, _⟩ := ihLeft plain.left leftRegular missing
          have space : Spaces [' '] := by simp [Spaces]
          have first := leftOperand.operand_spaces spaces_nil space
          have second := rightOperand.operand_spaces space spaces_nil
          have tail := Derives.next (isOperator_iff.mp (isOperator_symbol op)) second .done
          rw [if_neg missing]
          simpa [operandForm] using Derives.plain first tail
      exact ⟨whole, .bracketed whole.enclosed, by simp [isBracketed]⟩

end Expr

theorem read_infixText {e : Expr} (plain : e.Plain) :
    Expr.read e.depth (canonical e.infixText) = .ok e.explicit := by
  have spells := Expr.spells_explicit plain
  rw [show e.infixForm = e.infixText.toList from String.toList_ofList.symm,
    ← toList_canonical] at spells
  rw [read_of_lexemes spells.lexemes e.wellGrouped_explicit,
    Expr.obstacle?_explicit plain e.depth e.depth (Nat.le_refl _)]

theorem isValid_infixText {e : Expr} (plain : e.Plain) (regular : e.Regular) :
    isValid e.infixText := by
  have form : e.infixText.toList = e.infixForm := String.toList_ofList
  by_cases present : e = .absent
  · subst present
    exact isValid_of_spaces (form ▸ spaces_nil)
  · exact isValid_of_derives (form ▸ (Expr.derives_infixForm plain regular present).1)

/-- The infix form of a tree is read back as the same tree, but for brackets, which do not change
its value. The form of a tree that was read from an accepted text is accepted. -/
theorem infixText_roundTrip {e : Expr}
    (plain : ∀ v ∈ e.literals, v.isFinite ∧ isNegative v = false) :
    (∃ again, Expr.read e.depth (canonical e.infixText) = .ok again ∧
        again.stripped = e.stripped ∧ again.evaluate = e.evaluate ∧
        again.infixText = e.infixText) ∧
      ∀ limit text, isValid text → Expr.read limit (canonical text) = .ok e →
        isValid e.infixText := by
  constructor
  · refine ⟨e.explicit, read_infixText plain, e.stripped_explicit, ?_, ?_⟩
    · rw [← e.explicit.evaluate_stripped, e.stripped_explicit, e.evaluate_stripped]
    · rw [Expr.infixText, e.infixForm_explicit, Expr.infixText]
  · exact fun _ _ valid read => isValid_infixText plain (regular_of_read_canonical valid read)

theorem infixText_roundTrip_of_sign :
    let e : Expr := .operation .subtract .absent
      (.operation .multiply (.number 2) (.bracketed (.number 0.5)))
    (∀ v ∈ e.literals, v.isFinite ∧ isNegative v = false) ∧
      (∃ again, Expr.read e.depth (canonical e.infixText) = .ok again ∧
        again.stripped = e.stripped ∧ again.evaluate = e.evaluate ∧
        again.infixText = e.infixText) ∧
      isValid e.infixText := by
  intro e
  have plain : ∀ v ∈ e.literals, v.isFinite ∧ isNegative v = false := by decide +kernel
  have valid : isValid "-2 * (0,5)" := by decide +kernel
  have read : Expr.read 1 (canonical "-2 * (0,5)") = .ok e := by decide +kernel
  exact ⟨plain, (infixText_roundTrip plain).1, (infixText_roundTrip plain).2 1 _ valid read⟩

end Calculator
