import Mathlib.Data.List.Chain
import Calculator.Proofs.Reading

set_option autoImplicit false

namespace Calculator

namespace Item

def isOperand : Item → Bool
  | operand _ => true
  | operator _ => false

def Alternate (items : List Item) : Prop :=
  items.IsChain fun a b => ¬(a.isOperand ∧ b.isOperand)

def StartsOperand (items : List Item) : Prop := ∃ item ∈ items.head?, item.isOperand

section Alternation

variable {e : Expr} {op : Operator} {items front back : List Item}

theorem alternate_nil : Alternate [] := List.isChain_nil

theorem alternate_operand :
    Alternate (operand e :: items) ↔ Alternate items ∧ ¬StartsOperand items := by
  rw [Alternate, List.isChain_cons, and_comm]
  simp [Alternate, StartsOperand, isOperand]

theorem alternate_operator : Alternate (operator op :: items) ↔ Alternate items := by
  rw [Alternate, List.isChain_cons]
  simp [Alternate, isOperand]

theorem alternate_append_operator :
    Alternate (front ++ operator op :: back) ↔ Alternate front ∧ Alternate back := by
  rw [Alternate, List.isChain_append]
  change Alternate front ∧ Alternate (operator op :: back) ∧ _ ↔ _
  rw [alternate_operator]
  simp [isOperand]

end Alternation

theorem groupOperand_ok_iff {items : List Item} (operands : ∀ op, .operator op ∉ items) :
    (∃ e, groupOperand items = .ok e) ↔ Alternate items := by
  match items with
  | [] => simp [groupOperand, alternate_nil]
  | [.operand e] => simp [groupOperand, alternate_operand, alternate_nil, StartsOperand]
  | .operator op :: rest => exact absurd List.mem_cons_self (operands op)
  | .operand a :: .operand b :: rest =>
      simp [groupOperand, alternate_operand, StartsOperand, isOperand]
  | .operand a :: .operator op :: rest => exact absurd (by simp) (operands op)

section Chain

variable {precedence : Precedence} {groupPiece : List Item → Except Failure Expr}

theorem chain_ok_iff {items : List Item}
    (piece : ∀ part, part <:+: items → Free precedence part →
      ((∃ e, groupPiece part = .ok e) ↔ Alternate part)) :
    (∃ e, chain precedence groupPiece items = .ok e) ↔ Alternate items := by
  induction items using chain_induction precedence with
  | piece items free =>
      rw [chain_free free]
      exact piece items List.infix_rfl free
  | join front op back same free ih =>
      have first := ih fun part inside =>
        piece part (inside.trans (List.prefix_append front _).isInfix)
      have last := piece back ⟨front ++ [operator op], [], by simp⟩ free
      rw [alternate_append_operator, ← first, ← last, chain_append same front free]
      simp only [bind_ok_iff, pure_ok_iff]
      constructor
      · rintro ⟨_, left, leftRead, right, rightRead, _⟩
        exact ⟨⟨left, leftRead⟩, ⟨right, rightRead⟩⟩
      · rintro ⟨⟨left, leftRead⟩, ⟨right, rightRead⟩⟩
        exact ⟨_, left, leftRead, right, rightRead, rfl⟩

theorem chain_error {items : List Item} {failure : Failure}
    (piece : ∀ part, groupPiece part = .error failure → failure = .missingOperator)
    (h : chain precedence groupPiece items = .error failure) : failure = .missingOperator := by
  induction items using chain_induction precedence with
  | piece items free =>
      rw [chain_free free] at h
      exact piece items h
  | join front op back same free ih =>
      rw [chain_append same front free] at h
      rcases bind_error_iff.mp h with failed | ⟨left, _, h⟩
      · exact ih failed
      · rcases bind_error_iff.mp h with failed | ⟨right, _, h⟩
        · exact piece back failed
        · contradiction

end Chain

theorem group_ok_iff (items : List Item) : (∃ e, group items = .ok e) ↔ Alternate items := by
  apply chain_ok_iff
  intro sum _ noSum
  apply chain_ok_iff
  intro product inside noProduct
  apply groupOperand_ok_iff
  intro op member
  cases kind : op.precedence with
  | additive => exact noSum op (inside.mem member) kind
  | multiplicative => exact noProduct op member kind

theorem group_error {items : List Item} {failure : Failure} (h : group items = .error failure) :
    failure = .missingOperator := by
  have operand (part : List Item) (h : groupOperand part = .error failure) :
      failure = .missingOperator := by
    unfold groupOperand at h
    split at h
    · contradiction
    · contradiction
    · exact (Except.error.inj h).symm
  exact chain_error (fun part => chain_error operand) h

end Item

-- Nothing but an operator or a closing bracket follows an operand.
def MayFollow (a b : Char) : Prop :=
  ¬(isNumeric a ∧ b = '(') ∧ ¬(a = ')' ∧ (isNumeric b ∨ b = '('))

def Separated (text : List Char) : Prop := text.IsChain MayFollow

def StartsOperand (text : List Char) : Prop := ∃ c ∈ text.head?, isNumeric c ∨ c = '('

section Text

variable {c : Char} {run inside after rest : List Char}

theorem mayFollow_of_plain {a b : Char} (notNumeric : isNumeric a = false) (notClosing : a ≠ ')') :
    MayFollow a b := by
  simp [MayFollow, notNumeric, notClosing]

theorem mayFollow_closing (a : Char) : MayFollow a ')' := by
  simp [MayFollow, show isNumeric ')' = false by decide]

theorem mayFollow_of_isNumeric {a b : Char} (first : isNumeric a) (second : isNumeric b) :
    MayFollow a b := by
  obtain ⟨notOpening, _⟩ := ne_brackets_of_isNumeric second
  obtain ⟨_, notClosing⟩ := ne_brackets_of_isNumeric first
  simp [MayFollow, notOpening, notClosing]

theorem separated_cons (notNumeric : isNumeric c = false) (notClosing : c ≠ ')') :
    Separated (c :: rest) ↔ Separated rest := by
  rw [Separated, List.isChain_cons]
  exact and_iff_right fun _ _ => mayFollow_of_plain notNumeric notClosing

theorem separated_closing : Separated (')' :: rest) ↔ Separated rest ∧ ¬StartsOperand rest := by
  rw [Separated, List.isChain_cons, and_comm]
  simp [Separated, MayFollow, StartsOperand, show isNumeric ')' = false by decide]

theorem separated_bracket (separated : Separated inside) :
    Separated ('(' :: (inside ++ ')' :: after)) ↔ Separated after ∧ ¬StartsOperand after := by
  rw [separated_cons (by decide) (by decide), Separated, List.isChain_append, ← separated_closing]
  constructor
  next => exact fun h => h.2.1
  next =>
    intro h
    refine ⟨separated, h, fun a _ b isHead => ?_⟩
    obtain rfl := Option.some.inj isHead
    exact mayFollow_closing a

theorem separated_of_isNumeric (numeric : ∀ c ∈ run, isNumeric c) : Separated run :=
  (List.pairwise_of_forall_mem_list fun a isFirst b isSecond =>
    mayFollow_of_isNumeric (numeric a isFirst) (numeric b isSecond)).isChain

theorem separated_run (nonempty : run ≠ []) (numeric : ∀ c ∈ run, isNumeric c)
    (detached : Detached after) :
    Separated (run ++ after) ↔ Separated after ∧ ¬StartsOperand after := by
  have last := numeric _ (List.getLast_mem nonempty)
  rw [Separated, List.isChain_append, List.getLast?_eq_some_getLast nonempty]
  constructor
  next =>
    rintro ⟨_, separated, boundary⟩
    refine ⟨separated, ?_⟩
    rintro ⟨c, isHead, numericHead | rfl⟩
    · rw [detached c isHead] at numericHead
      contradiction
    · exact (boundary _ rfl _ isHead).1 ⟨last, rfl⟩
  next =>
    rintro ⟨separated, noOperand⟩
    refine ⟨separated_of_isNumeric numeric, separated, ?_⟩
    rintro _ ⟨⟩ c isHead
    have notOpening : c ≠ '(' := fun opening => noOperand ⟨c, isHead, .inr opening⟩
    have notClosing := (ne_brackets_of_isNumeric last).2
    simp [MayFollow, notOpening, notClosing]

end Text

theorem Reads.separation {levels : Nat} {text : List Char} {items : List Item}
    (h : Reads levels text items) :
    (Item.StartsOperand items ↔ StartsOperand text) ∧ (Item.Alternate items ↔ Separated text) := by
  induction h with
  | nil => simp [Item.StartsOperand, StartsOperand, Item.alternate_nil, Separated]
  | @bracket _ _ _ inner _ e _ _ grouped _ insideStep afterStep =>
      obtain ⟨starts, alternate⟩ := afterStep
      have separated := insideStep.2.mp ((Item.group_ok_iff inner).mp ⟨e, grouped⟩)
      refine ⟨by simp [Item.StartsOperand, StartsOperand, Item.isOperand], ?_⟩
      rw [Item.alternate_operand, separated_bracket separated, starts, alternate]
  | numeral read _ detached _ step =>
      obtain ⟨starts, alternate⟩ := step
      obtain ⟨nonempty, numeric⟩ := numeralValue?_run read
      obtain ⟨c, run, rfl⟩ := List.exists_cons_of_ne_nil nonempty
      have first := numeric c List.mem_cons_self
      refine ⟨by simp [Item.StartsOperand, StartsOperand, Item.isOperand, first], ?_⟩
      rw [Item.alternate_operand, separated_run nonempty numeric detached, starts, alternate]
  | @operator _ op _ _ _ step =>
      have notNumeric := not_isNumeric_symbol op
      obtain ⟨notOpening, notClosing⟩ := ne_brackets_of_isOperator (isOperator_symbol op)
      constructor
      next => simp [Item.StartsOperand, StartsOperand, Item.isOperand, notNumeric, notOpening]
      next =>
        rw [Item.alternate_operator, separated_cons notNumeric notClosing]
        exact step.2

theorem Reads.group_ok_iff {levels : Nat} {text : List Char} {items : List Item}
    (h : Reads levels text items) : (∃ e, Item.group items = .ok e) ↔ Separated text :=
  (Item.group_ok_iff items).trans h.separation.2

end Calculator
