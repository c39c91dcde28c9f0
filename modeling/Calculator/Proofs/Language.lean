import Calculator.Proofs.Passing

set_option autoImplicit false

namespace Calculator

open SymbolClass (next)

theorem next_spaces {spaces : List Char} (h : Spaces spaces) (rest : List Char) :
    next (spaces ++ rest) = next rest := by
  induction spaces with
  | nil => rfl
  | cons c spaces ih =>
      obtain ⟨rfl, others⟩ := h.of_cons
      rw [List.cons_append, SymbolClass.next_space, ih others]

theorem Spaces.detached {spaces rest : List Char} (h : Spaces spaces) (detached : Detached rest) :
    Detached (spaces ++ rest) := by
  cases spaces with
  | nil => exact detached
  | cons c spaces =>
      obtain ⟨rfl, _⟩ := h.of_cons
      exact detached_cons (by decide)

theorem next_numeral {numeral : List Char} (h : Numeral numeral) (rest : List Char) :
    next (numeral ++ rest) = .number := by
  obtain ⟨c, others, rfl, digit⟩ := h.head_isDigit
  exact SymbolClass.next_cons_of_isDigit digit _

theorem next_bracket {text : List Char} (h : Derives .bracket text) (rest : List Char) :
    next (text ++ rest) = .opening := by
  cases h with
  | bracket before _ _ =>
      rw [List.append_assoc, next_spaces before]
      exact SymbolClass.next_opening _

theorem next_operand {text : List Char} (h : Derives .operand text) (rest : List Char) :
    next (text ++ rest) = .number ∨ next (text ++ rest) = .opening := by
  cases h with
  | number before numeral after =>
      rw [List.append_assoc, next_spaces before, List.append_assoc]
      exact .inl (next_numeral numeral _)
  | bracketed bracket => exact .inr (next_bracket bracket rest)

theorem detached_tail {text rest : List Char} (h : Derives .tail text) (detached : Detached rest) :
    Detached (text ++ rest) := by
  cases h with
  | done => exact detached
  | next operator _ _ =>
      exact detached_cons (not_isNumeric_of_isOperator (isOperator_iff.mpr operator))

def Through (previous last : SymbolClass) (text : List Char) : Prop :=
  ∀ opened position rest, Detached rest →
    (Passes previous opened position (text ++ rest) ↔
      Passes last opened (position + text.length) rest)

theorem Through.append {first middle last : SymbolClass} {a b : List Char}
    (before : Through first middle a) (after : Through middle last b)
    (keeps : ∀ rest, Detached rest → Detached (b ++ rest)) : Through first last (a ++ b) := by
  intro opened position rest detached
  rw [List.append_assoc, before _ _ _ (keeps rest detached), after _ _ _ detached,
    List.length_append, Nat.add_assoc]

theorem Through.after_spaces {spaces text : List Char} {previous last : SymbolClass}
    (h : Through previous last text) (before : Spaces spaces) :
    Through previous last (spaces ++ text) := by
  intro opened position rest detached
  rw [List.append_assoc, passes_spaces before, h _ _ _ detached, List.length_append, Nat.add_assoc]

theorem Through.before_spaces {spaces text : List Char} {previous last : SymbolClass}
    (h : Through previous last text) (after : Spaces spaces) :
    Through previous last (text ++ spaces) :=
  h.append (fun _ _ _ _ => passes_spaces after) fun _ => after.detached

theorem through_numeral {numeral : List Char} (h : Numeral numeral) {previous : SymbolClass}
    (fits : ¬(previous = .closing ∨ previous = .number)) : Through previous .number numeral := by
  intro opened position rest detached
  obtain ⟨c, others, rfl, digit⟩ := h.head_isDigit
  rw [passes_run digit h.numeric detached]
  simp only [fits, h, not_false_iff, true_and]

theorem through_operator {c : Char} (operator : isOperator c) {previous last : SymbolClass}
    {text : List Char} (fits : ∀ rest, operatorFits c previous (next (text ++ rest)))
    (through : Through .operator last text) : Through previous last (c :: text) := by
  intro opened position rest detached
  rw [List.cons_append, passes_operator operator, through _ _ _ detached]
  simp only [fits rest, true_and, List.length_cons, Nat.add_assoc, Nat.add_comm 1]

theorem through_bracket {inner : List Char} {previous last : SymbolClass}
    (fits : ¬(previous = .closing ∨ previous = .number))
    (ends : ¬(last = .operator ∨ last = .opening)) (through : Through .opening last inner) :
    Through previous .closing ('(' :: inner ++ [')']) := by
  intro opened position rest detached
  rw [List.cons_append, List.cons_append, List.append_assoc, List.singleton_append, passes_opening,
    through _ _ _ (detached_cons (by decide)), passes_closing]
  have places : position + ('(' :: (inner ++ [')'])).length = position + 1 + inner.length + 1 := by
    simp only [List.length_append, List.length_cons, List.length_nil]
    omega
  simp only [fits, ends, not_false_iff, true_and, places]
  constructor
  · rintro ⟨_, _, same, later⟩
    obtain ⟨rfl, rfl⟩ := List.cons.inj same
    exact later
  · exact fun later => ⟨_, _, rfl, later⟩

def Completes (last : SymbolClass) : Prop := last = .number ∨ last = .closing

def Phrase.Follows : Phrase → SymbolClass → Prop
  | expression, previous => previous = .opening
  | tail, previous => Completes previous
  | operand, previous | bracket, previous => previous = .opening ∨ previous = .operator

theorem Phrase.Follows.fits {previous : SymbolClass} (h : Phrase.operand.Follows previous) :
    ¬(previous = .closing ∨ previous = .number) := by
  rcases h with rfl | rfl <;> simp

theorem Completes.ends {last : SymbolClass} (h : Completes last) :
    ¬(last = .operator ∨ last = .opening) := by
  rcases h with rfl | rfl <;> simp

theorem operatorFits_next {c : Char} {previous : SymbolClass} {operand : List Char}
    (completes : Completes previous) (h : Derives .operand operand) (rest : List Char) :
    operatorFits c previous (next (operand ++ rest)) := by
  rcases completes with rfl | rfl <;> rcases next_operand h rest with ahead | ahead <;>
    simp [operatorFits, ahead]

theorem operatorFits_signed {c : Char} (additive : isAdditive c) {operand : List Char}
    (h : Derives .operand operand) (rest : List Char) :
    operatorFits c .opening (next (operand ++ rest)) := by
  have notMultiplicative : isMultiplicative c = false := by
    simp only [isAdditive, Bool.or_eq_true, beq_iff_eq] at additive
    rcases additive with rfl | rfl <;> decide
  rcases next_operand h rest with ahead | ahead <;> simp [operatorFits, ahead, notMultiplicative]

theorem operatorFits_scaled {c : Char} {bracket : List Char} (h : Derives .bracket bracket)
    (rest : List Char) : operatorFits c .opening (next (bracket ++ rest)) := by
  simp [operatorFits, next_bracket h]

theorem Derives.through {phrase : Phrase} {text : List Char} (h : Derives phrase text)
    {previous : SymbolClass} (follows : phrase.Follows previous) :
    ∃ last, Completes last ∧ Through previous last text := by
  induction h generalizing previous with
  | number before numeral after =>
      exact ⟨.number, .inl rfl,
        ((through_numeral numeral follows.fits).before_spaces after).after_spaces before⟩
  | @bracket before inner after spacesBefore _ spacesAfter ih =>
      obtain ⟨last, completes, through⟩ := ih rfl
      have closed := through_bracket (Phrase.Follows.fits follows) completes.ends through
      have whole : before ++ '(' :: (inner ++ ')' :: after) =
          before ++ ('(' :: inner ++ [')'] ++ after) := by simp
      rw [whole]
      exact ⟨.closing, .inr rfl, (closed.before_spaces spacesAfter).after_spaces spacesBefore⟩
  | bracketed _ ih => exact ih follows
  | done => exact ⟨previous, follows, fun _ _ _ _ => Iff.rfl⟩
  | next operator isOperand isTail operandStep tailStep =>
      obtain ⟨middle, completes, first⟩ := operandStep (.inr rfl)
      obtain ⟨last, completes', others⟩ := tailStep completes
      refine ⟨last, completes', through_operator (isOperator_iff.mpr operator) (fun rest => ?_)
        (first.append others fun _ => detached_tail isTail)⟩
      rw [List.append_assoc]
      exact operatorFits_next follows isOperand _
  | plain _ isTail operandStep tailStep =>
      obtain rfl := follows
      obtain ⟨middle, completes, first⟩ := operandStep (.inl rfl)
      obtain ⟨last, completes', others⟩ := tailStep completes
      exact ⟨last, completes', first.append others fun _ => detached_tail isTail⟩
  | signed before additive isOperand isTail operandStep tailStep =>
      obtain rfl := follows
      have sign := isAdditive_iff.mpr additive
      obtain ⟨middle, completes, first⟩ := operandStep (.inr rfl)
      obtain ⟨last, completes', others⟩ := tailStep completes
      refine ⟨last, completes', (through_operator (isOperator_of_isAdditive sign)
        (fun rest => ?_) (first.append others fun _ => detached_tail isTail)).after_spaces before⟩
      rw [List.append_assoc]
      exact operatorFits_signed sign isOperand _
  | scaled before multiplicative isBracket isTail bracketStep tailStep =>
      obtain rfl := follows
      have isOperator := isOperator_of_isMultiplicative (isMultiplicative_iff.mpr multiplicative)
      obtain ⟨middle, completes, first⟩ := bracketStep (.inr rfl)
      obtain ⟨last, completes', others⟩ := tailStep completes
      refine ⟨last, completes', (through_operator isOperator
        (fun rest => ?_) (first.append others fun _ => detached_tail isTail)).after_spaces before⟩
      rw [List.append_assoc]
      exact operatorFits_scaled isBracket _

end Calculator
