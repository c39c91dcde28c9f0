import Mathlib.Order.Bounds.Basic
import Calculator.Proofs.BracketValue
import Calculator.Proofs.ReadFailure

set_option autoImplicit false

namespace Calculator

section Outcomes

variable {α β : Type} {failure : Failure}

def AgreesUnless (failure : Failure) (first second : Except Failure α) : Prop :=
  first = .error failure ∨ second = first

theorem agreesUnless_self (outcome : Except Failure α) : AgreesUnless failure outcome outcome :=
  .inr rfl

theorem AgreesUnless.bind {first second : Except Failure α} {next next' : α → Except Failure β}
    (h : AgreesUnless failure first second) (later : ∀ a, AgreesUnless failure (next a) (next' a)) :
    AgreesUnless failure (first >>= next) (second >>= next') := by
  rcases h with rfl | rfl
  · exact .inl rfl
  · cases second with
    | error other => exact agreesUnless_self _
    | ok a => exact later a

end Outcomes

-- Both runs take the same steps, up to the first bracket that the fewer levels do not allow.
theorem readItems_of_le (limit limit' : Nat) {levels levels' : Nat} (offset : Nat)
    (text : List Char) (le : levels ≤ levels') :
    AgreesUnless (.nestedTooDeep limit) (readItems limit levels offset text)
      (readItems limit' levels' offset text) := by
  induction levels, offset, text using reading_induction generalizing levels' with
  | nil =>
      rw [readItems_nil, readItems_nil]
      exact agreesUnless_self _
  | unclosed _ _ _ missing =>
      rw [readItems_unclosed missing, readItems_unclosed missing]
      exact agreesUnless_self _
  | tooDeep _ _ _ found => exact .inl (readItems_tooDeep found)
  | bracket levels _ _ _ found insideStep afterStep =>
      cases levels' with
      | zero => exact absurd le (Nat.not_succ_le_zero levels)
      | succ more =>
          rw [readItems_bracket found, readItems_bracket found]
          apply (insideStep (Nat.le_of_succ_le_succ le)).bind
          intro inner
          apply (agreesUnless_self (Item.group inner)).bind
          intro e
          exact (afterStep le).bind fun _ => agreesUnless_self _
  | closing =>
      rw [readItems_closing, readItems_closing]
      exact agreesUnless_self _
  | numeral _ _ _ _ nonempty numeric detached step =>
      rw [readItems_run nonempty numeric detached, readItems_run nonempty numeric detached]
      exact (agreesUnless_self _).bind fun _ => (step le).bind fun _ => agreesUnless_self _
  | operator _ _ _ _ step =>
      rw [readItems_operator, readItems_operator]
      exact (step le).bind fun _ => agreesUnless_self _
  | stray _ _ _ _ notBracket notNumeric unknown =>
      rw [readItems_stray notBracket notNumeric unknown,
        readItems_stray notBracket notNumeric unknown]
      exact agreesUnless_self _

def openBrackets (text : List Char) : Set Nat :=
  {n | ∃ front, front <+: text ∧ front.count '(' = front.count ')' + n}

namespace Expr

def nesting : Expr → Nat
  | number _ | absent => 0
  | bracketed inner => inner.nesting + 1
  | operation _ left right => max left.nesting right.nesting

theorem read_agreesUnless {limit more : Nat} (le : limit ≤ more) (text : String) :
    AgreesUnless (.nestedTooDeep limit) (read limit text) (read more text) :=
  (readItems_of_le limit more 0 text.toList le).bind fun _ => agreesUnless_self _

theorem Spells.excessAtMost_iff {e : Expr} {text : List Char} (h : e.Spells text) {levels : Nat} :
    ExcessAtMost '(' ')' levels text ↔ e.nesting ≤ levels := by
  induction h generalizing levels with
  | @number run value read =>
      have noOpening : '(' ∉ run := fun member =>
        (ne_brackets_of_isNumeric ((numeralValue?_run read).2 _ member)).1 rfl
      exact iff_of_true (excessAtMost_of_notMem noOpening) (Nat.zero_le levels)
  | absent => exact iff_of_true excessAtMost_nil (Nat.zero_le levels)
  | bracketed spells ih =>
      cases levels with
      | zero => exact iff_of_false (not_excessAtMost_up (by decide)) (Nat.not_succ_le_zero _)
      | succ levels =>
          rw [excessAtMost_enclosed spells.balanced.even, ih, nesting, Nat.succ_le_succ_iff]
  | @operation op _ _ _ _ spellsLeft _ ihLeft ihRight =>
      obtain ⟨notOpening, notClosing⟩ := ne_brackets_of_isOperator (isOperator_symbol op)
      rw [excessAtMost_append spellsLeft.balanced.even, excessAtMost_other notOpening notClosing,
        ihLeft, ihRight, nesting, Nat.max_le]

theorem Spells.isGreatest_nesting {e : Expr} {text : List Char} (h : e.Spells text) :
    IsGreatest (openBrackets text) e.nesting := by
  have atMost : ExcessAtMost '(' ')' e.nesting text := h.excessAtMost_iff.mpr (Nat.le_refl _)
  constructor
  next =>
    cases nested : e.nesting with
    | zero => exact ⟨[], List.nil_prefix, rfl⟩
    | succ fewer =>
        have more : ¬ExcessAtMost '(' ')' fewer text := fun fits =>
          absurd (h.excessAtMost_iff.mp fits) (by omega)
        simp only [ExcessAtMost, not_forall, Nat.not_le] at more
        obtain ⟨front, isFront, many⟩ := more
        have few := atMost front isFront
        exact ⟨front, isFront, by omega⟩
  next =>
    rintro n ⟨front, isFront, count⟩
    have few := atMost front isFront
    omega

theorem nesting_of_read {limit : Nat} {text : String} {tree : Expr}
    (h : read limit text = .ok tree) :
    IsGreatest (openBrackets text.toList) tree.nesting ∧ tree.nesting ≤ limit := by
  have spells : tree.Spells text.toList := spells_iff.mpr (treeOf_of_read h).lexemes
  obtain ⟨items, itemsRead, _⟩ := bind_ok_iff.mp h
  have shallow := (reads_of_readItems itemsRead).cleared.2
  exact ⟨spells.isGreatest_nesting, spells.excessAtMost_iff.mp shallow⟩

theorem not_tooDeep_of_excessAtMost {limit : Nat} {text : String}
    (shallow : ExcessAtMost '(' ')' limit text.toList) (other : Nat) :
    read limit text ≠ .error (.nestedTooDeep other) := by
  intro failed
  cases fails_of_read failed with
  | @tooDeep front isFront many =>
      have few := shallow front isFront
      omega

theorem read_of_le (text : String) {limit more : Nat} (le : limit ≤ more) :
    (read limit text = .error (.nestedTooDeep limit) ∨ read more text = read limit text) ∧
      (ExcessAtMost '(' ')' limit text.toList →
        ∀ other, read limit text ≠ .error (.nestedTooDeep other)) ∧
      ∀ tree, read limit text = .ok tree →
        IsGreatest (openBrackets text.toList) tree.nesting ∧ tree.nesting ≤ limit :=
  ⟨read_agreesUnless le text, not_tooDeep_of_excessAtMost, fun _ => nesting_of_read⟩

theorem read_of_le_nested :
    2 ≤ 7 ∧ read 7 "((1)-2)*(3)" = read 2 "((1)-2)*(3)" ∧
      (ExcessAtMost '(' ')' 2 "((1)-2)*(3)".toList ∧
        ∀ other, read 2 "((1)-2)*(3)" ≠ .error (.nestedTooDeep other)) ∧
      IsGreatest (openBrackets "((1)-2)*(3)".toList) 2 := by
  let difference : Expr := .operation .subtract (.bracketed (.number 1)) (.number 2)
  let product : Expr := .operation .multiply (.bracketed difference) (.bracketed (.number 3))
  have read : read 2 "((1)-2)*(3)" = .ok product := by decide +kernel
  have more : 2 ≤ 7 := by decide
  obtain ⟨same, shallow, nesting⟩ := read_of_le "((1)-2)*(3)" more
  have notTooDeep := same.resolve_left (by rw [read]; simp)
  have spells : product.Spells "((1)-2)*(3)".toList := spells_iff.mpr (treeOf_of_read read).lexemes
  have fits : ExcessAtMost '(' ')' 2 "((1)-2)*(3)".toList :=
    spells.excessAtMost_iff.mpr (by decide)
  exact ⟨more, notTooDeep, ⟨fits, shallow fits⟩, (nesting product read).1⟩

end Expr

end Calculator
