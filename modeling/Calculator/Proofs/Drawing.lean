import Calculator.Expr.Functional

set_option autoImplicit false

namespace Calculator.Expr

def label : Expr → String
  | number value => numberText value
  | absent => "(empty) = 0"
  | bracketed _ => "( )"
  | operation op _ _ => op.symbol.toString

def operands : Expr → Forest
  | number _ | absent => .nothing
  | bracketed inner => .tree inner.label inner.operands .nothing
  | operation _ left right =>
      .tree left.label left.operands (.tree right.label right.operands .nothing)

-- Every node that is entered is left again: the drawing has one tree more in its innermost node.
theorem draw_eq (e : Expr) (outer : String) (before : Forest) (rest : Drawing) :
    e.draw ((outer, before) :: rest) =
      (outer, before.append (.tree e.label e.operands .nothing)) :: rest := by
  induction e generalizing outer before rest with
  | number | absent => rfl
  | bracketed inner ih =>
      rw [draw, Drawing.enter, ih]
      rfl
  | operation op left right ihLeft ihRight =>
      rw [draw, Drawing.enter, ihLeft, ihRight]
      rfl

theorem outlineLines_eq (e : Expr) : e.outlineLines = e.label :: e.operands.lines := by
  induction e with
  | number | absent => rfl
  | bracketed inner ih =>
      rw [outlineLines, operands, Forest.lines, Forest.lines, List.append_nil, ← ih]
      rfl
  | operation op left right ihLeft ihRight =>
      rw [outlineLines, operands, Forest.lines, Forest.lines, Forest.lines, List.append_nil,
        ← ihLeft, ← ihRight]
      rfl

theorem lines_draw (e : Expr) : (e.draw (.start "expression")).lines = e.outline := by
  rw [Drawing.start, draw_eq, Drawing.lines, outline, outlineLines_eq]
  simp [Forest.append, Forest.lines, Forest.isNothing]

end Calculator.Expr
