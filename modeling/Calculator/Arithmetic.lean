import Calculator.Text

set_option autoImplicit false

namespace Calculator

/-- Offsets count the bytes of the UTF-8 form of the whole text. -/
inductive Failure where
  | divisionByZero
  | nonFinite
  | unreadableNumber (literal : String)
  | unexpectedSymbol (symbol : Char) (offset : Nat)
  | unbalancedBracket (offset : Nat)
  | missingOperator
  | nestedTooDeep (limit : Nat)
deriving DecidableEq, Repr

def Failure.message : Failure → String
  | divisionByZero => "Division by zero"
  | nonFinite => "Result is not a finite number"
  | unreadableNumber literal => s!"Could not read {Text.quotedString literal} as a number"
  | unexpectedSymbol symbol offset =>
      s!"Unexpected {Text.quotedChar symbol} at byte {offset}"
  | unbalancedBracket offset => s!"Unbalanced bracket at byte {offset}"
  | missingOperator => "Missing operator between two operands"
  | nestedTooDeep limit => s!"Expression nests deeper than {limit} levels"

inductive Precedence where
  | additive
  | multiplicative
deriving DecidableEq, Repr, Ord

inductive Operator where
  | add
  | subtract
  | multiply
  | divide
deriving DecidableEq, Repr

namespace Operator

def ofSymbol? : Char → Option Operator
  | '+' => some add
  | '-' => some subtract
  | '*' => some multiply
  | '/' => some divide
  | _ => none

def symbol : Operator → Char
  | add => '+'
  | subtract => '-'
  | multiply => '*'
  | divide => '/'

def name : Operator → String
  | add => "Add"
  | subtract => "Subtract"
  | multiply => "Multiply"
  | divide => "Divide"

def precedence : Operator → Precedence
  | add | subtract => .additive
  | multiply | divide => .multiplicative

def result : Operator → Float → Float → Float
  | add, a, b => a + b
  | subtract, a, b => a - b
  | multiply, a, b => a * b
  | divide, a, b => a / b

def apply (op : Operator) (a b : Float) : Except Failure Float :=
  if op = divide ∧ b == 0 then .error .divisionByZero
  else if (op.result a b).isFinite then .ok (op.result a b)
  else .error .nonFinite

theorem ofSymbol?_symbol (op : Operator) : ofSymbol? op.symbol = some op := by
  cases op <;> rfl

theorem symbol_of_ofSymbol? {c : Char} {op : Operator} (h : ofSymbol? c = some op) :
    op.symbol = c := by
  unfold ofSymbol? at h
  split at h <;> simp_all <;> subst h <;> rfl

end Operator

end Calculator
