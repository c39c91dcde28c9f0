import Calculator.Arithmetic

set_option autoImplicit false

namespace Calculator

inductive Expr where
  | number (value : Float)
  -- Nothing where an operand is due, such as before a leading sign. It counts as zero.
  | absent
  | bracketed (inner : Expr)
  | operation (op : Operator) (left right : Expr)
deriving DecidableEq

namespace Expr

def isOperation : Expr → Bool
  | operation .. => true
  | _ => false

def operator? : Expr → Option Operator
  | operation op _ _ => some op
  | _ => none

def depth : Expr → Nat
  | number _ | absent => 1
  | bracketed inner => 1 + inner.depth
  | operation _ left right => 1 + max left.depth right.depth

def evaluate : Expr → Except Failure Float
  | number value => .ok value
  | absent => .ok 0
  | bracketed inner => inner.evaluate
  | operation op left right => do
      let a ← left.evaluate
      let b ← right.evaluate
      op.apply a b

/-- Numbers are compared as doubles: zeros are equal, and NaN differs from itself. -/
def agrees : Expr → Expr → Bool
  | number a, number b => a == b
  | absent, absent => true
  | bracketed a, bracketed b => a.agrees b
  | operation op a b, operation op' a' b' => op == op' && a.agrees a' && b.agrees b'
  | _, _ => false

end Expr

end Calculator
