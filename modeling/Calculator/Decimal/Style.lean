import Calculator.Decimal.Basic

set_option autoImplicit false

namespace Calculator

namespace Magnitude

-- A decimal and a magnitude are compared as whole numbers of a common unit:
-- `mantissa * step` against `digits * grid`.
def step (x : Magnitude) (k : Int) : Nat := Nat.pow 10 (-k).toNat <<< x.exponent.toNat
def grid (x : Magnitude) (k : Int) : Nat := Nat.pow 10 k.toNat <<< (-x.exponent).toNat

-- Halfway to a neighbour, the even mantissa is nearest.
def readsBack (x : Magnitude) (d : Decimal) : Bool :=
  let low := (4 * x.mantissa - if x.narrowBelow then 1 else 2) * x.step d.exponent
  let high := (4 * x.mantissa + 2) * x.step d.exponent
  let point := 4 * d.digits * x.grid d.exponent
  if x.mantissa % 2 = 0 then low ≤ point && point ≤ high else low < point && point < high

def onGrid? (x : Magnitude) (k : Int) : Option Decimal :=
  let num := x.mantissa * x.step k
  let below : Decimal := ⟨num / x.grid k, k⟩
  let above : Decimal := ⟨num / x.grid k + 1, k⟩
  match x.readsBack below, x.readsBack above with
  | true, true => if 2 * num < (2 * below.digits + 1) * x.grid k then some below else some above
  | true, false => some below
  | false, true => some above
  | false, false => none

def exact (x : Magnitude) : Decimal :=
  if 0 ≤ x.exponent then ⟨x.mantissa <<< x.exponent.toNat, 0⟩
  else ⟨x.mantissa * Nat.pow 5 (-x.exponent).toNat, x.exponent⟩

-- No multiple of a higher power of ten reads back: 10 ^ (coarsest + 1) exceeds the double above.
-- The factor is a little more than the decimal logarithm of two.
def coarsest (x : Magnitude) : Int :=
  ((x.mantissa.log2 : Int) + 1 + x.exponent) * 30103 / 100000 + 1

-- From coarse grids to fine ones the first hit has the fewest digits; seventeen always suffice.
def shortest (x : Magnitude) : Decimal :=
  if x.mantissa = 0 then ⟨0, 0⟩
  else ((List.range 20).findSome? fun (i : Nat) => x.onGrid? (x.coarsest - i)).getD x.exact

end Magnitude

namespace Decimal

def zeros (n : Nat) : List Char := List.replicate n '0'

def positional (wholeEnding : List Char) (d : Decimal) : List Char :=
  let digits := Nat.toDigits 10 d.digits
  if 0 ≤ d.exponent then
    digits ++ zeros d.exponent.toNat ++ wholeEnding
  else
    let places := d.exponent.natAbs
    if places < digits.length then
      digits.take (digits.length - places) ++ '.' :: digits.drop (digits.length - places)
    else
      '0' :: '.' :: zeros (places - digits.length) ++ digits

def leadingExponent (d : Decimal) : Int :=
  (Nat.toDigits 10 d.digits).length - 1 + d.exponent

def scientific (d : Decimal) : List Char :=
  let mantissa :=
    match Nat.toDigits 10 d.digits with
    | [] => []
    | [lead] => [lead]
    | lead :: rest => lead :: '.' :: rest
  mantissa ++ 'e' :: (toString d.leadingExponent).toList

end Decimal

structure NumberStyle where
  wholeEnding : List Char
  -- Leading exponents from the first bound up to, but not including, the second one are written
  -- out in full. Without bounds all are.
  writtenOut : Option (Int × Int)

namespace NumberStyle

def plain : NumberStyle := ⟨[], none⟩

def marked : NumberStyle := ⟨['.', '0'], some (-4, 16)⟩

def ofDecimal (style : NumberStyle) (d : Decimal) : List Char :=
  match style.writtenOut with
  | none => d.positional style.wholeEnding
  | some (low, high) =>
      if d.digits = 0 ∨ low ≤ d.leadingExponent ∧ d.leadingExponent < high then
        d.positional style.wholeEnding
      else d.scientific

def signed (x : Float) (magnitude : List Char) : List Char :=
  if isNegative x then '-' :: magnitude else magnitude

def format (style : NumberStyle) (x : Float) : List Char :=
  if x.isNaN then ['N', 'a', 'N']
  else if x.isInf then signed x ['i', 'n', 'f']
  else signed x (style.ofDecimal (Magnitude.ofFloat x).shortest)

end NumberStyle

def numberText (x : Float) : String := String.ofList (NumberStyle.plain.format x)

def markedNumberText (x : Float) : String := String.ofList (NumberStyle.marked.format x)

namespace Magnitude

def units (x : Magnitude) (places : Nat) : Nat :=
  roundDiv ((x.mantissa * Nat.pow 10 places) <<< x.exponent.toNat) (1 <<< (-x.exponent).toNat)

def padded (x : Magnitude) (places : Nat) : List Char :=
  let digits := Nat.toDigits 10 (x.units places)
  Decimal.zeros (places + 1 - digits.length) ++ digits

def fixed (x : Magnitude) (places : Nat) : List Char :=
  let digits := x.padded places
  if places = 0 then digits
  else digits.take (digits.length - places) ++ '.' :: digits.drop (digits.length - places)

end Magnitude

-- The sign stays even where only zeros are left.
def fixedText (places : Nat) (x : Float) : String :=
  String.ofList <|
    if x.isFinite then NumberStyle.signed x ((Magnitude.ofFloat x).fixed places)
    else NumberStyle.plain.format x

end Calculator
