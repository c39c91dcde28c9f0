import Calculator.Symbol
import Calculator.Check
import Calculator.Expr.Reading

set_option autoImplicit false

namespace Calculator

def defaultLimit : Nat := 512

def evaluate (limit : Nat) (text : String) : Except Failure Float := do
  (← Expr.read limit text).evaluate

inductive CalculationError where
  | incorrect (problem : Problem)
  | failed (canonicalText : String) (cause : Failure)
deriving DecidableEq, Repr

namespace CalculationError

def message : CalculationError → String
  | incorrect _ => "Incorrect expression"
  | failed canonicalText _ => s!"Failed to evaluate {canonicalText}"

def cause : CalculationError → String
  | incorrect problem => problem.message
  | failed _ failure => failure.message

end CalculationError

def calculate (limit : Nat) (text : String) : Except CalculationError Float :=
  match firstProblem? text with
  | some problem => .error (.incorrect problem)
  | none => (evaluate limit (canonical text)).mapError (.failed (canonical text))

end Calculator
