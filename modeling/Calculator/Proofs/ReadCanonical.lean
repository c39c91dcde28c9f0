import Mathlib.Control.Monad.Basic
import Calculator.Calculation
import Calculator.Proofs.Building
import Calculator.Proofs.Obstacle

set_option autoImplicit false

namespace Calculator

theorem read_canonical {text : String} (valid : isValid text) (limit : Nat) :
    ∃ e : Expr, e.Regular ∧
      Expr.read limit (canonical text) =
        match firstObstacle? limit limit (tokens text.toList) with
        | some failure => .error failure
        | none => .ok e := by
  obtain ⟨e, spells, wellGrouped, regular⟩ := exists_tree_of_isValid valid
  refine ⟨e, regular, ?_⟩
  have obstacle := spells.firstObstacle? limit limit []
  rw [List.append_nil, toList_canonical, tokensKept_of_isValid valid,
    firstObstacle?_canonical] at obstacle
  rw [obstacle, read_of_lexemes spells.lexemes wellGrouped]
  cases e.obstacle? limit limit <;> rfl

theorem regular_of_read_canonical {text : String} (valid : isValid text) {limit : Nat} {tree : Expr}
    (h : Expr.read limit (canonical text) = .ok tree) : tree.Regular := by
  obtain ⟨e, regular, read⟩ := read_canonical valid limit
  rw [read] at h
  cases found : firstObstacle? limit limit (tokens text.toList) with
  | none =>
      rw [found] at h
      exact Except.ok.inj h ▸ regular
  | some failure =>
      rw [found] at h
      contradiction

end Calculator
