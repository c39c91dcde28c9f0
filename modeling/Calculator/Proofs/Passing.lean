import Calculator.Proofs.OrderSteps

set_option autoImplicit false

namespace Calculator

/-- What the three checks demand of the rest of a text. `opened` holds the brackets that the part
before it left open, and `previous` the last symbol that counts. -/
structure Passes (previous : SymbolClass) (opened : List Nat) (position : Nat)
    (text : List Char) : Prop where
  symbols : ∀ c ∈ text, isAcceptable c
  balance : balanceFrom opened position text = none
  order : orderFrom previous position text = none

theorem isValid_iff_passes (text : String) :
    isValid text ↔ Passes .opening [] 0 text.toList := by
  have symbols : symbolProblem? text = none ↔ ∀ c ∈ text.toList, isAcceptable c := by
    simp only [symbolProblem?, Option.map_eq_none_iff, List.find?_eq_none, Bool.not_eq_true,
      Bool.not_eq_false']
    constructor
    · intro all c member
      obtain ⟨i, found⟩ := List.mem_iff_getElem?.mp member
      exact all (c, i) (List.mem_zipIdx_iff_getElem?.mpr found)
    · intro all entry member
      exact all entry.1 (List.fst_mem_of_mem_zipIdx member)
  have passed : isValid text ↔
      symbolProblem? text = none ∧ balanceProblem? text = none ∧ orderProblem? text = none := by
    unfold isValid firstProblem?
    cases symbolProblem? text <;> cases balanceProblem? text <;> cases orderProblem? text <;> simp
  rw [passed, symbols]
  exact ⟨fun h => ⟨h.1, h.2.1, h.2.2⟩, fun h => ⟨h.symbols, h.balance, h.order⟩⟩

section Steps

variable {previous : SymbolClass} {opened : List Nat} {position : Nat} {c : Char}
  {rest : List Char}

theorem passes_nil : Passes previous opened position [] ↔ opened = [] := by
  constructor
  · intro h
    simpa [balanceFrom] using h.balance
  · rintro rfl
    exact ⟨by simp, rfl, orderFrom_nil⟩

theorem balanceFrom_cons (h : c ≠ '(' ∧ c ≠ ')') :
    balanceFrom opened position (c :: rest) = balanceFrom opened (position + 1) rest := by
  rw [balanceFrom.eq_def]
  simp only [if_neg h.1, if_neg h.2]

theorem balanceFrom_opening :
    balanceFrom opened position ('(' :: rest) =
      balanceFrom (position :: opened) (position + 1) rest := by
  rw [balanceFrom.eq_def]
  rfl

theorem balanceFrom_closing {innermost : Nat} :
    balanceFrom (innermost :: opened) position (')' :: rest) =
      balanceFrom opened (position + 1) rest := by
  rw [balanceFrom.eq_def]
  rfl

theorem balanceFrom_append {run : List Char} (plain : ∀ c ∈ run, c ≠ '(' ∧ c ≠ ')') :
    balanceFrom opened position (run ++ rest) =
      balanceFrom opened (position + run.length) rest := by
  induction run generalizing position with
  | nil => rfl
  | cons c run ih =>
      rw [List.cons_append, balanceFrom_cons (plain c List.mem_cons_self),
        ih fun d member => plain d (List.mem_cons_of_mem c member), List.length_cons]
      congr 1
      omega

theorem passes_space :
    Passes previous opened position (' ' :: rest) ↔ Passes previous opened (position + 1) rest := by
  have symbols : (∀ d ∈ ' ' :: rest, isAcceptable d) ↔ ∀ d ∈ rest, isAcceptable d := by
    simp [show isAcceptable ' ' = true by decide]
  have balance : balanceFrom opened position (' ' :: rest) =
      balanceFrom opened (position + 1) rest := balanceFrom_cons (by decide)
  have order : orderFrom previous position (' ' :: rest) =
      orderFrom previous (position + 1) rest := orderFrom_meaningless SymbolClass.of_space
  exact ⟨fun h => ⟨symbols.mp h.symbols, balance ▸ h.balance, order ▸ h.order⟩,
    fun h => ⟨symbols.mpr h.symbols, balance ▸ h.balance, order ▸ h.order⟩⟩

theorem passes_spaces {spaces : List Char} (h : Spaces spaces) :
    Passes previous opened position (spaces ++ rest) ↔
      Passes previous opened (position + spaces.length) rest := by
  induction spaces generalizing position with
  | nil => rfl
  | cons c spaces ih =>
      obtain ⟨rfl, others⟩ := h.of_cons
      rw [List.cons_append, passes_space, ih others, List.length_cons, Nat.add_assoc,
        Nat.add_comm 1]

theorem passes_operator (operator : isOperator c) :
    Passes previous opened position (c :: rest) ↔
      operatorFits c previous (.next rest) ∧ Passes .operator opened (position + 1) rest := by
  have acceptable : isAcceptable c := by simp [isAcceptable, operator]
  have balance : balanceFrom opened position (c :: rest) =
      balanceFrom opened (position + 1) rest :=
    balanceFrom_cons (ne_brackets_of_isOperator operator)
  have order : orderFrom previous position (c :: rest) = none ↔
      operatorFits c previous (.next rest) ∧ orderFrom .operator (position + 1) rest = none := by
    rw [orderFrom_operator operator]
    split <;> simp_all
  constructor
  · intro h
    obtain ⟨fits, later⟩ := order.mp h.order
    exact ⟨fits, (List.forall_mem_cons.mp h.symbols).2, balance ▸ h.balance, later⟩
  · rintro ⟨fits, h⟩
    exact ⟨List.forall_mem_cons.mpr ⟨acceptable, h.symbols⟩, balance ▸ h.balance,
      order.mpr ⟨fits, h.order⟩⟩

theorem passes_opening :
    Passes previous opened position ('(' :: rest) ↔
      ¬(previous = .closing ∨ previous = .number) ∧
        Passes .opening (position :: opened) (position + 1) rest := by
  have balance : balanceFrom opened position ('(' :: rest) =
      balanceFrom (position :: opened) (position + 1) rest := balanceFrom_opening
  have order : orderFrom previous position ('(' :: rest) = none ↔
      ¬(previous = .closing ∨ previous = .number) ∧
        orderFrom .opening (position + 1) rest = none := by
    rw [orderFrom_opening]
    split <;> simp [*]
  constructor
  · intro h
    obtain ⟨fits, later⟩ := order.mp h.order
    exact ⟨fits, (List.forall_mem_cons.mp h.symbols).2, balance ▸ h.balance, later⟩
  · rintro ⟨fits, h⟩
    exact ⟨List.forall_mem_cons.mpr ⟨by decide, h.symbols⟩, balance ▸ h.balance,
      order.mpr ⟨fits, h.order⟩⟩

theorem passes_closing :
    Passes previous opened position (')' :: rest) ↔
      ¬(previous = .operator ∨ previous = .opening) ∧
        ∃ innermost outer, opened = innermost :: outer ∧
          Passes .closing outer (position + 1) rest := by
  have order : orderFrom previous position (')' :: rest) = none ↔
      ¬(previous = .operator ∨ previous = .opening) ∧
        orderFrom .closing (position + 1) rest = none := by
    rw [orderFrom_closing]
    split <;> simp [*]
  cases opened with
  | nil =>
      constructor
      · intro h
        simpa [balanceFrom] using h.balance
      · rintro ⟨-, innermost, outer, impossible, -⟩
        contradiction
  | cons innermost outer =>
      have balance : balanceFrom (innermost :: outer) position (')' :: rest) =
          balanceFrom outer (position + 1) rest := balanceFrom_closing
      constructor
      · intro h
        obtain ⟨fits, later⟩ := order.mp h.order
        exact ⟨fits, innermost, outer, rfl, (List.forall_mem_cons.mp h.symbols).2,
          balance ▸ h.balance, later⟩
      · rintro ⟨fits, _, _, same, h⟩
        obtain ⟨rfl, rfl⟩ := List.cons.inj same
        exact ⟨List.forall_mem_cons.mpr ⟨by decide, h.symbols⟩, balance ▸ h.balance,
          order.mpr ⟨fits, h.order⟩⟩

theorem not_passes_separator (separator : isSeparator c) :
    ¬Passes previous opened position (c :: rest) := by
  intro h
  have order := h.order
  rw [orderFrom_separator separator] at order
  contradiction

theorem passes_run (digit : c.isDigit) {run : List Char} (numeric : ∀ d ∈ c :: run, isNumeric d)
    (detached : Detached rest) :
    Passes previous opened position (c :: run ++ rest) ↔
      ¬(previous = .closing ∨ previous = .number) ∧ Numeral (c :: run) ∧
        Passes .number opened (position + (c :: run).length) rest := by
  have others := (List.forall_mem_cons.mp numeric).2
  have symbols : (∀ d ∈ c :: run ++ rest, isAcceptable d) ↔ ∀ d ∈ rest, isAcceptable d := by
    have accepted : ∀ d ∈ c :: run, isAcceptable d := fun d member => by
      simp [isAcceptable, numeric d member]
    exact ⟨fun h d member => h d (List.mem_append_right _ member),
      fun h d member => (List.mem_append.mp member).elim (accepted d) (h d)⟩
  have balance : balanceFrom opened position (c :: run ++ rest) =
      balanceFrom opened (position + (c :: run).length) rest :=
    balanceFrom_append fun d member => ne_brackets_of_isNumeric (numeric d member)
  have order : orderFrom previous position (c :: run ++ rest) = none ↔
      ¬(previous = .closing ∨ previous = .number) ∧ (c :: run).countP isSeparator ≤ 1 ∧
        orderFrom .number (position + (c :: run).length) rest = none := by
    rw [List.cons_append, orderFrom_digit digit, takeWhile_run others detached,
      dropWhile_run others detached]
    by_cases fits : previous = .closing ∨ previous = .number
    · simp only [fits, if_true, reduceCtorEq, not_true_eq_false, false_and]
    by_cases many : 1 < (c :: run).countP isSeparator
    · rw [if_neg fits, if_pos many]
      exact ⟨fun h => by contradiction, fun h => absurd h.2.1 (Nat.not_le.mpr many)⟩
    · rw [if_neg fits, if_neg many]
      exact ⟨fun h => ⟨fits, Nat.not_lt.mp many, h⟩, fun h => h.2.2⟩
  rw [numeral_iff numeric digit]
  constructor
  · intro h
    obtain ⟨fits, few, later⟩ := order.mp h.order
    exact ⟨fits, few, symbols.mp h.symbols, balance ▸ h.balance, later⟩
  · rintro ⟨fits, few, h⟩
    exact ⟨symbols.mpr h.symbols, balance ▸ h.balance, order.mpr ⟨fits, few, h.order⟩⟩

end Steps

end Calculator
