import Calculator.Proofs.BracketValue

set_option autoImplicit false

namespace Calculator

structure Step where
  op : Operator
  left : Float
  right : Float

namespace Step

def result (step : Step) : Float := step.op.result step.left step.right

def DividesByZero (step : Step) : Prop := step.op = .divide ∧ step.right == 0

instance (step : Step) : Decidable step.DividesByZero :=
  inferInstanceAs (Decidable (_ ∧ _))

def Succeeds (step : Step) : Prop := step.result.isFinite ∧ ¬step.DividesByZero

-- Division by zero comes before what its result would be.
inductive Fails (step : Step) : Failure → Prop where
  | byZero : step.DividesByZero → Fails step .divisionByZero
  | notFinite : ¬step.DividesByZero → step.result.isFinite = false → Fails step .nonFinite

def failure? (step : Step) : Option Failure :=
  if step.DividesByZero then some .divisionByZero
  else if step.result.isFinite then none
  else some .nonFinite

theorem failure?_eq_none_iff {step : Step} : step.failure? = none ↔ step.Succeeds := by
  unfold failure? Succeeds
  by_cases zero : step.DividesByZero <;> simp [zero]

theorem failure?_eq_some_iff {step : Step} {failure : Failure} :
    step.failure? = some failure ↔ step.Fails failure := by
  constructor
  next =>
    intro h
    unfold failure? at h
    split at h
    next zero => exact Option.some.inj h ▸ .byZero zero
    next nonzero =>
      split at h
      next => contradiction
      next large => exact Option.some.inj h ▸ .notFinite nonzero (by simpa using large)
  next =>
    intro h
    cases h with
    | byZero zero => simp [failure?, zero]
    | notFinite nonzero large => simp [failure?, nonzero, large]

theorem apply_eq (step : Step) : step.op.apply step.left step.right =
    match step.failure? with
    | some failure => .error failure
    | none => .ok step.result := by
  by_cases zero : step.DividesByZero
  next =>
    have refused : step.op.apply step.left step.right = .error .divisionByZero := if_pos zero
    rw [refused, failure?, if_pos zero]
  next =>
    have checked : step.op.apply step.left step.right =
        if step.result.isFinite then .ok step.result else .error .nonFinite := if_neg zero
    rw [checked, failure?, if_neg zero]
    by_cases finite : step.result.isFinite
    next => rw [if_pos finite, if_pos finite]
    next => rw [if_neg finite, if_neg finite]

end Step

def FirstFailure (steps : List Step) (failure : Failure) : Prop :=
  ∃ before step after, steps = before ++ step :: after ∧ (∀ earlier ∈ before, earlier.Succeeds) ∧
    step.Fails failure

theorem findSome?_failure?_eq_none {steps : List Step} :
    steps.findSome? Step.failure? = none ↔ ∀ step ∈ steps, step.Succeeds := by
  simp only [List.findSome?_eq_none_iff, Step.failure?_eq_none_iff]

theorem findSome?_failure?_eq_some {steps : List Step} {failure : Failure} :
    steps.findSome? Step.failure? = some failure ↔ FirstFailure steps failure := by
  simp only [List.findSome?_eq_some_iff, Step.failure?_eq_none_iff, Step.failure?_eq_some_iff,
    FirstFailure]
  constructor
  next => exact fun ⟨before, step, after, whole, fails, succeed⟩ =>
    ⟨before, step, after, whole, succeed, fails⟩
  next => exact fun ⟨before, step, after, whole, succeed, fails⟩ =>
    ⟨before, step, after, whole, fails, succeed⟩

namespace Expr

/-- The value in plain arithmetic, where nothing is refused. -/
def value : Expr → Float
  | number value => value
  | absent => 0
  | bracketed inner => inner.value
  | operation op left right => op.result left.value right.value

def steps : Expr → List Step
  | number _ | absent => []
  | bracketed inner => inner.steps
  | operation op left right => left.steps ++ right.steps ++ [⟨op, left.value, right.value⟩]

def isNumber : Expr → Bool
  | number _ => true
  | bracketed inner => inner.isNumber
  | _ => false

theorem evaluate_eq (e : Expr) : e.evaluate =
    match e.steps.findSome? Step.failure? with
    | some failure => .error failure
    | none => .ok e.value := by
  induction e with
  | number | absent => rfl
  | bracketed inner ih => exact ih
  | operation op left right ihLeft ihRight =>
      rw [evaluate, steps, List.findSome?_append, List.findSome?_append, ihLeft, ihRight]
      cases left.steps.findSome? Step.failure? with
      | some failure => rfl
      | none =>
          cases right.steps.findSome? Step.failure? with
          | some failure => rfl
          | none =>
              simp only [ok_bind, Option.none_or, List.findSome?_singleton]
              exact Step.apply_eq ⟨op, left.value, right.value⟩

theorem evaluate_ok_iff {e : Expr} {v : Float} :
    e.evaluate = .ok v ↔ (∀ step ∈ e.steps, step.Succeeds) ∧ e.value = v := by
  rw [evaluate_eq, ← findSome?_failure?_eq_none]
  cases e.steps.findSome? Step.failure? <;> simp

theorem evaluate_error_iff {e : Expr} {failure : Failure} :
    e.evaluate = .error failure ↔ FirstFailure e.steps failure := by
  rw [evaluate_eq, ← findSome?_failure?_eq_some]
  cases e.steps.findSome? Step.failure? <;> simp

theorem isFinite_or_isNumber {e : Expr} (h : ∀ step ∈ e.steps, step.Succeeds) :
    e.value.isFinite ∨ e.isNumber := by
  induction e with
  | number value => exact .inr rfl
  | absent => exact .inl (by decide)
  | bracketed inner ih => exact ih h
  | operation op left right =>
      have last : Step.Succeeds ⟨op, left.value, right.value⟩ := h _ (by simp [steps])
      exact .inl last.1

theorem isFinite_of_isNumber {e : Expr} {limit levels : Nat} (isNumber : e.isNumber)
    (h : e.obstacle? limit levels = none) : e.value.isFinite := by
  induction e generalizing levels with
  | number value =>
      rw [obstacle?] at h
      split at h
      next finite => exact finite
      next => contradiction
  | absent | operation => contradiction
  | bracketed inner ih =>
      cases levels with
      | zero => contradiction
      | succ levels => exact ih isNumber h

end Expr

theorem isFinite_of_evaluate {limit : Nat} {text : String} {v : Float}
    (h : evaluate limit text = .ok v) : v.isFinite := by
  obtain ⟨tree, read, value⟩ := bind_ok_iff.mp h
  obtain ⟨succeed, rfl⟩ := Expr.evaluate_ok_iff.mp value
  rcases Expr.isFinite_or_isNumber succeed with finite | isNumber
  next => exact finite
  next =>
    have noObstacle := ((Expr.treeOf_of_read read).read_ok_iff limit).mp read
    exact Expr.isFinite_of_isNumber isNumber noObstacle.2

/-- A tree has a value exactly if every operation in it succeeds, and else the failure of the first
one in post-order that does not. Only a number on its own can have a value that is not finite, and
none that was read off a text is. -/
theorem evaluate_in_postOrder :
    (∀ e : Expr,
      ((∃ v, e.evaluate = .ok v) ↔ ∀ step ∈ e.steps, step.Succeeds) ∧
      (∀ failure, e.evaluate = .error failure ↔ FirstFailure e.steps failure) ∧
      ∀ v, e.evaluate = .ok v → v = e.value ∧ (v.isFinite ∨ e.isNumber)) ∧
    ∀ limit text v, evaluate limit text = .ok v → v.isFinite := by
  constructor
  next =>
    intro e
    refine ⟨?_, fun _ => Expr.evaluate_error_iff, ?_⟩
    next => simp only [Expr.evaluate_ok_iff, exists_and_left, exists_eq', and_true]
    next =>
      intro v h
      obtain ⟨succeed, rfl⟩ := Expr.evaluate_ok_iff.mp h
      exact ⟨rfl, Expr.isFinite_or_isNumber succeed⟩
  next => exact fun _ _ _ => isFinite_of_evaluate

theorem evaluate_in_postOrder_negativeZero :
    let quotient : Expr := .operation .divide (.number 1)
      (.bracketed (.operation .multiply (.number 0) (.operation .subtract .absent (.number 2))))
    let sum : Expr := .operation .add quotient (.operation .multiply (.number 1e308) (.number 10))
    FirstFailure sum.steps .divisionByZero ∧
      ((0.25 : Float) = (Expr.operation .divide (.number 1) (.number 4)).value ∧
        ((0.25 : Float).isFinite ∨ (Expr.operation .divide (.number 1) (.number 4)).isNumber)) ∧
      evaluate 1 "(.5)" = .ok 0.5 ∧ (0.5 : Float).isFinite := by
  intro quotient sum
  have failed : sum.evaluate = .error .divisionByZero := by decide +kernel
  have quarter : (Expr.operation .divide (.number 1) (.number 4)).evaluate = .ok 0.25 := by
    decide +kernel
  have half : evaluate 1 "(.5)" = .ok 0.5 := by decide +kernel
  obtain ⟨trees, texts⟩ := evaluate_in_postOrder
  exact ⟨((trees sum).2.1 _).mp failed, (trees _).2.2 _ quarter, half, texts 1 "(.5)" _ half⟩

end Calculator
