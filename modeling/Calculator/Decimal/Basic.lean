set_option autoImplicit false

namespace Calculator

def roundDiv (num den : Nat) : Nat :=
  let quotient := num / den
  match compare (2 * (num % den)) den with
  | .lt => quotient
  | .gt => quotient + 1
  | .eq => quotient + quotient % 2

/-- The binary place of the last bit that a double near `num / den` has. The leading bits of both
numbers tell the place of the first one, or one place above it. -/
def lastPlace (num den : Nat) : Int :=
  let high : Int := num.log2 - den.log2
  let lead := if den <<< high.toNat ≤ num <<< (-high).toNat then high else high - 1
  max (lead - 52) (-1074)

-- Ties go to even. A carry out of the mantissa counts the exponent up, as the fields of a double
-- lie side by side.
def nearestFloat (num den : Nat) : Float :=
  if num = 0 then 0
  else
    let place := lastPlace num den
    let mantissa := roundDiv (num <<< (-place).toNat) (den <<< place.toNat)
    .ofBits (.ofNat (min (((place + 1074).toNat <<< 52) + mantissa) (2047 <<< 52)))

structure Decimal where
  digits : Nat
  exponent : Int
deriving DecidableEq, Repr

def Decimal.toFloat (d : Decimal) : Float :=
  nearestFloat (d.digits * Nat.pow 10 d.exponent.toNat) (Nat.pow 10 (-d.exponent).toNat)

def isNegative (x : Float) : Bool := x.toBits.toNat.testBit 63

/-- The number `mantissa * 2 ^ exponent`, the distance of a finite double from zero. -/
structure Magnitude where
  mantissa : Nat
  exponent : Int
  -- The double below is only half as far away as the double above.
  narrowBelow : Bool
deriving DecidableEq, Repr

-- Infinities and NaN have no magnitude and must be told apart before.
def Magnitude.ofFloat (x : Float) : Magnitude :=
  let fraction : Nat := x.toBits.toNat % (1 <<< 52)
  let biased : Nat := (x.toBits.toNat >>> 52) % (1 <<< 11)
  if biased = 0 then ⟨fraction, -1074, false⟩
  else ⟨(1 <<< 52) + fraction, (biased : Int) - 1075, decide (fraction = 0 ∧ 1 < biased)⟩

def Decimal.ofNumeral? (numeral : List Char) : Option Decimal :=
  let whole := numeral.takeWhile Char.isDigit
  match numeral.dropWhile Char.isDigit with
  | [] => if whole.isEmpty then none else some ⟨Nat.ofDigitChars 10 whole 0, 0⟩
  | '.' :: fraction =>
      if fraction.all Char.isDigit && !(whole ++ fraction).isEmpty then
        some ⟨Nat.ofDigitChars 10 (whole ++ fraction) 0, -fraction.length⟩
      else none
  | _ => none

end Calculator
