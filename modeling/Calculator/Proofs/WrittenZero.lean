import Mathlib.Data.List.Chain
import Calculator.Proofs.BracketValue
import Calculator.Proofs.CanonicalText
import Calculator.Proofs.LeadingZero

set_option autoImplicit false

namespace Calculator

def Unsigned (text : List Char) : Prop := ∀ c ∈ text.head?, isOperator c = false

def OperatorsApart (text : List Char) : Prop :=
  text.IsChain fun a b => isOperator a → isOperator b = false

section Characters

variable {c : Char} {rest : List Char}

theorem unsigned_cons (plain : isOperator c = false) : Unsigned (c :: rest) := by
  simpa [Unsigned] using plain

theorem Unsigned.of_append {a b : List Char} (h : Unsigned (a ++ b)) : Unsigned a :=
  fun c first => h c (List.mem_head?_append_of_mem_head? first)

theorem operatorsApart_operator (unsigned : Unsigned rest) (apart : OperatorsApart rest) :
    OperatorsApart (c :: rest) :=
  List.isChain_cons.mpr ⟨fun d first _ => unsigned d first, apart⟩

theorem operatorsApart_plain (plain : isOperator c = false) (apart : OperatorsApart rest) :
    OperatorsApart (c :: rest) := by
  refine List.isChain_cons.mpr ⟨fun d _ operator => ?_, apart⟩
  rw [plain] at operator
  contradiction

theorem operatorsApart_run {run : List Char} (plain : ∀ c ∈ run, isOperator c = false)
    (apart : OperatorsApart rest) : OperatorsApart (run ++ rest) := by
  induction run with
  | nil => exact apart
  | cons c run ih =>
      obtain ⟨first, others⟩ := List.forall_mem_cons.mp plain
      exact operatorsApart_plain first (ih others)

theorem not_isOperator_of_class (h : SymbolClass.of c ≠ .operator) : isOperator c = false :=
  Bool.eq_false_iff.mpr fun operator => h (SymbolClass.of_isOperator operator)

theorem operatorsApart_of_orderFrom {previous : SymbolClass} {position : Nat} {text : List Char}
    (h : orderFrom previous position text = none) :
    (previous = .operator → Unsigned text) ∧ OperatorsApart text := by
  have plain {c : Char} {rest : List Char} {previous : SymbolClass}
      (other : SymbolClass.of c ≠ .operator) (apart : OperatorsApart rest) :
      (previous = .operator → Unsigned (c :: rest)) ∧ OperatorsApart (c :: rest) := by
    have notOperator := not_isOperator_of_class other
    exact ⟨fun _ => unsigned_cons notOperator, operatorsApart_plain notOperator apart⟩
  fun_induction orderFrom previous position text with
  | case1 => exact ⟨fun _ => by simp [Unsigned], .nil⟩
  | case2 previous position c rest other ih => exact plain (by simp [other]) (ih h).2
  | case3 previous position c rest operator fits ih =>
      obtain ⟨unsigned, apart⟩ := ih h
      refine ⟨?_, operatorsApart_operator (unsigned rfl) apart⟩
      rintro rfl
      simp [operatorFits] at fits
  | case6 previous position c rest opening _ ih => exact plain (by simp [opening]) (ih h).2
  | case8 previous position c rest closing _ ih => exact plain (by simp [closing]) (ih h).2
  | case11 previous position c rest number _ numeral _ ih =>
      have digits : ∀ d ∈ rest.takeWhile isNumeric, isOperator d = false := fun d member =>
        not_isOperator_of_isNumeric (List.all_eq_true.mp List.all_takeWhile d member)
      have apart := operatorsApart_run digits (ih h).2
      rw [List.takeWhile_append_dropWhile] at apart
      exact plain (by simp [number]) apart
  | case4 | case5 | case7 | case9 | case10 => contradiction

end Characters

namespace Expr

def zeroed : Expr → Expr
  | number value => number value
  | absent => number 0
  | bracketed inner => bracketed inner.zeroed
  | operation op left right => operation op left.zeroed right.zeroed

theorem isOperation_zeroed (e : Expr) : e.zeroed.isOperation = e.isOperation := by
  cases e <;> rfl

theorem isSum_zeroed (e : Expr) : e.zeroed.isSum = e.isSum := by
  cases e with
  | number | absent | bracketed => rfl
  | operation => simp only [zeroed, isSum_operation]

theorem WellGrouped.zeroed {e : Expr} (h : e.WellGrouped) : e.zeroed.WellGrouped := by
  induction e with
  | number | absent => trivial
  | bracketed inner ih => exact ih h
  | operation op left right ihLeft ihRight =>
      obtain ⟨leftGrouped, rightGrouped, shape⟩ := h
      refine ⟨ihLeft leftGrouped, ihRight rightGrouped, ?_⟩
      rwa [isSum_zeroed, isSum_zeroed, isOperation_zeroed]

theorem evaluate_zeroed (e : Expr) : e.zeroed.evaluate = e.evaluate := by
  induction e with
  | number | absent => rfl
  | bracketed inner ih => exact ih
  | operation op left right ihLeft ihRight => simp only [zeroed, evaluate, ihLeft, ihRight]

theorem obstacle?_zeroed (e : Expr) (limit levels : Nat) :
    e.zeroed.obstacle? limit levels = e.obstacle? limit levels := by
  induction e generalizing levels with
  | number => rfl
  | absent =>
      have finite : (0 : Float).isFinite := by decide +kernel
      simp only [zeroed, obstacle?, finite, if_true]
  | bracketed inner ih =>
      cases levels with
      | zero => rfl
      | succ levels => exact ih levels
  | operation op left right ihLeft ihRight => simp only [zeroed, obstacle?, ihLeft, ihRight]

theorem numeralValue?_zero : numeralValue? ['0'] = some 0 := by decide +kernel

-- Only an operation that starts with its operator misses an operand. A right operand never does so,
-- as it stands behind another operator.
theorem Spells.zeroed {e : Expr} {text : List Char} (h : e.Spells text) (regular : e.Regular)
    (present : e ≠ .absent) (apart : OperatorsApart text) {due : Bool}
    (starts : due = true ∨ Unsigned text) :
    ∃ text', e.zeroed.Spells text' ∧ ZerosTo due text text' := by
  induction h generalizing due with
  | number read =>
      obtain ⟨nonempty, numeric⟩ := numeralValue?_run read
      exact ⟨_, .number read, zerosTo_run nonempty numeric⟩
  | absent => contradiction
  | bracketed _ ih =>
      obtain ⟨text', spells, zeros⟩ := ih regular.2 regular.1 apart.tail.left_of_append (.inl rfl)
      exact ⟨_, .bracketed spells, .opening (zeros.append (.closing zerosTo_nil))⟩
  | @operation op left right a b spellsLeft _ ihLeft ihRight =>
      obtain ⟨rightPresent, _, leftRegular, rightRegular⟩ := regular
      have operator := isOperator_symbol op
      obtain ⟨follows, apartRight⟩ := List.isChain_cons.mp apart.right_of_append
      have unsigned : Unsigned b := fun d first => follows d first operator
      obtain ⟨right', rightSpells, rightZeros⟩ :=
        ihRight rightRegular rightPresent apartRight (.inr unsigned)
      by_cases missing : left = .absent
      next =>
        obtain rfl := missing
        obtain ⟨⟩ := spellsLeft
        obtain rfl : due = true := starts.resolve_right fun unsigned => by
          simpa [operator] using unsigned op.symbol rfl
        exact ⟨_, .operation (.number numeralValue?_zero) rightSpells, .leading operator rightZeros⟩
      next =>
        obtain ⟨left', leftSpells, leftZeros⟩ := ihLeft leftRegular missing apart.left_of_append
          (starts.imp_right Unsigned.of_append)
        exact ⟨_, .operation leftSpells rightSpells,
          leftZeros.append (.operator operator rightZeros)⟩

end Expr

theorem evaluate_of_spells {e : Expr} {text : String} (spells : e.Spells text.toList)
    (wellGrouped : e.WellGrouped) (limit : Nat) :
    evaluate limit text =
      match e.obstacle? limit limit with
      | some failure => .error failure
      | none => e.evaluate := by
  rw [evaluate, read_of_lexemes spells.lexemes wellGrouped]
  cases e.obstacle? limit limit <;> rfl

theorem evaluate_canonical_withZeros {text : String} (valid : isValid text) (limit : Nat) :
    evaluate limit (canonical (withZeros text)) = evaluate limit (canonical text) := by
  obtain ⟨e, spells, wellGrouped, regular⟩ := exists_tree_of_isValid valid
  by_cases present : e = .absent
  next =>
    obtain rfl := present
    have same : canonical (withZeros text) = canonical text := by
      apply String.toList_injective
      rw [toList_canonical_withZeros valid]
      generalize (canonical text).toList = chars at spells
      cases spells
      rfl
    rw [same]
  next =>
    have passes := (isValid_iff_passes _).mp (isValid_canonical valid)
    obtain ⟨_, apart⟩ := operatorsApart_of_orderFrom passes.order
    obtain ⟨text', spells', zeros⟩ := spells.zeroed regular present apart (.inl rfl)
    rw [← zeros.insertZeros_eq, ← toList_canonical_withZeros valid] at spells'
    rw [evaluate_of_spells spells wellGrouped, evaluate_of_spells spells' wellGrouped.zeroed,
      Expr.obstacle?_zeroed, Expr.evaluate_zeroed]

/-- A missing operand is worth a written zero. A valid text stays valid with a zero before every
operator that comes first, or first in a bracket, and has the same value then, or fails for the same
cause. -/
theorem calculate_withZeros {text : String} (valid : isValid text) :
    isValid (withZeros text) ∧ ∀ limit,
      (∃ value, calculate limit (withZeros text) = .ok value ∧ calculate limit text = .ok value) ∨
        ∃ cause,
          calculate limit (withZeros text) = .error (.failed (canonical (withZeros text)) cause) ∧
            calculate limit text = .error (.failed (canonical text) cause) := by
  have valid' := isValid_withZeros valid
  refine ⟨valid', fun limit => ?_⟩
  rw [calculate_of_isValid valid, calculate_of_isValid valid', evaluate_canonical_withZeros valid]
  cases evaluate limit (canonical text) with
  | ok value => exact .inl ⟨value, rfl, rfl⟩
  | error cause => exact .inr ⟨cause, rfl, rfl⟩

theorem calculate_withZeros_nested :
    isValid "-(* (2)) + 1" ∧ withZeros "-(* (2)) + 1" = "0-(0* (2)) + 1" ∧
      isValid "0-(0* (2)) + 1" ∧ calculate 2 "0-(0* (2)) + 1" = .ok 1 ∧
      calculate 2 "-(* (2)) + 1" = .ok 1 := by
  have valid : isValid "-(* (2)) + 1" := by decide +kernel
  have zeros : withZeros "-(* (2)) + 1" = "0-(0* (2)) + 1" := by decide +kernel
  have one : calculate 2 "-(* (2)) + 1" = .ok 1 := by decide +kernel
  obtain ⟨valid', same⟩ := calculate_withZeros valid
  rw [zeros] at valid' same
  refine ⟨valid, zeros, valid', ?_, one⟩
  rcases same 2 with ⟨value, written, missing⟩ | ⟨_, _, failed⟩
  next =>
    rw [one] at missing
    rwa [← Except.ok.inj missing] at written
  next =>
    rw [one] at failed
    contradiction

end Calculator
