import Calculator.Expr.Basic

set_option autoImplicit false

namespace Calculator

inductive Item where
  | operand (e : Expr)
  | operator (op : Operator)
deriving DecidableEq

namespace Item

/-- The pieces that are complete, the operators behind them, and the piece under way. -/
structure Cutting where
  pieces : List (List Item)
  operators : List Operator
  piece : List Item

namespace Cutting

def start : Cutting := ⟨[], [], []⟩

def push (cutting : Cutting) (item : Item) : Cutting :=
  { cutting with piece := cutting.piece ++ [item] }

def take (precedence : Precedence) (cutting : Cutting) : Item → Cutting
  | operator op =>
      if op.precedence = precedence then
        ⟨cutting.pieces ++ [cutting.piece], cutting.operators ++ [op], []⟩
      else cutting.push (operator op)
  | operand e => cutting.push (operand e)

def of (precedence : Precedence) (items : List Item) : Cutting :=
  items.foldl (take precedence) start

end Cutting

def chain (precedence : Precedence) (groupPiece : List Item → Except Failure Expr)
    (items : List Item) : Except Failure Expr := do
  let cutting := Cutting.of precedence items
  let pieces := cutting.pieces ++ [cutting.piece]
  let first ← groupPiece (pieces.headD [])
  (cutting.operators.zip pieces.tail).foldlM
    (fun left (op, piece) => return .operation op left (← groupPiece piece)) first

def groupOperand : List Item → Except Failure Expr
  | [] => .ok .absent
  | [operand e] => .ok e
  | _ => .error .missingOperator

def groupProduct : List Item → Except Failure Expr := chain .multiplicative groupOperand

def group : List Item → Except Failure Expr := chain .additive groupProduct

end Item

end Calculator
