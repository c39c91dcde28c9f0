import Calculator.Expr.Basic
import Calculator.Decimal.Style

set_option autoImplicit false

namespace Calculator

namespace Expr

def functionalText : Expr → String
  | number value => markedNumberText value
  | absent => "Elided"
  | bracketed inner => s!"Group({inner.functionalText})"
  | operation op left right => s!"{op.name}({left.functionalText}, {right.functionalText})"

def enclosed (needed : Bool) (text : List Char) : List Char :=
  if needed then '(' :: text ++ [')'] else text

def infixForm : Expr → List Char
  | number value => NumberStyle.plain.format value
  | absent => []
  | bracketed inner => enclosed true inner.infixForm
  | operation op left right =>
      (if left = absent then [op.symbol]
        else enclosed left.isOperation left.infixForm ++ [' ', op.symbol, ' ']) ++
      enclosed right.isOperation right.infixForm

def infixText (e : Expr) : String := String.ofList e.infixForm

def branch (last : Bool) : List String → List String
  | [] => []
  | own :: below =>
      ((if last then "└─ " else "├─ ") ++ own) ::
        below.map ((if last then "   " else "│  ") ++ ·)

def outlineLines : Expr → List String
  | number value => [numberText value]
  | absent => ["(empty) = 0"]
  | bracketed inner => "( )" :: branch true inner.outlineLines
  | operation op left right =>
      op.symbol.toString :: (branch false left.outlineLines ++ branch true right.outlineLines)

def outline (e : Expr) : List String :=
  "expression" :: branch true e.outlineLines

end Expr

/-- What is assumed of the library for drawing trees: how a drawing grows, and its layout without
settings. -/
inductive Forest where
  | nothing
  | tree (label : String) (below after : Forest)
deriving DecidableEq

namespace Forest

def isNothing : Forest → Bool
  | nothing => true
  | tree .. => false

def append : Forest → Forest → Forest
  | nothing, others => others
  | tree label below after, others => tree label below (after.append others)

def lines : Forest → List String
  | nothing => []
  | tree label below after => Expr.branch after.isNothing (label :: below.lines) ++ after.lines

end Forest

/-- The nodes that have been entered and not left, the innermost first, each with what has been
drawn below it. -/
abbrev Drawing := List (String × Forest)

namespace Drawing

def start (label : String) : Drawing := [(label, .nothing)]

def enter (label : String) (drawing : Drawing) : Drawing := (label, .nothing) :: drawing

def leave : Drawing → Drawing
  | (label, below) :: (outer, before) :: rest =>
      (outer, before.append (.tree label below .nothing)) :: rest
  | drawing => drawing

def leaf (label : String) (drawing : Drawing) : Drawing := (drawing.enter label).leave

-- Nodes that have not been left count as left.
def lines : Drawing → List String
  | [] => []
  | [(label, below)] => label :: below.lines
  | (label, below) :: (outer, before) :: rest =>
      lines ((outer, before.append (.tree label below .nothing)) :: rest)
termination_by drawing => drawing.length

end Drawing

def Expr.draw : Expr → Drawing → Drawing
  | number value, drawing => drawing.leaf (numberText value)
  | absent, drawing => drawing.leaf "(empty) = 0"
  | bracketed inner, drawing => (inner.draw (drawing.enter "( )")).leave
  | operation op left right, drawing =>
      (right.draw (left.draw (drawing.enter op.symbol.toString))).leave

end Calculator
