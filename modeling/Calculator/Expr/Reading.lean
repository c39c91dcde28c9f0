import Calculator.Symbol
import Calculator.Decimal.Basic
import Calculator.Expr.Grouping

set_option autoImplicit false

namespace Calculator

def utf8Length : List Char → Nat
  | [] => 0
  | c :: rest => c.utf8Size + utf8Length rest

-- `depth` counts the inner brackets that are still open.
def splitClosing (depth : Nat) : List Char → Option (List Char × List Char)
  | [] => none
  | c :: rest =>
      if c = '(' then (splitClosing (depth + 1) rest).map (Prod.map (c :: ·) id)
      else if c = ')' then
        match depth with
        | 0 => some ([], rest)
        | depth + 1 => (splitClosing depth rest).map (Prod.map (c :: ·) id)
      else (splitClosing depth rest).map (Prod.map (c :: ·) id)

theorem splitClosing_eq_append {depth : Nat} {text inside after : List Char}
    (h : splitClosing depth text = some (inside, after)) : text = inside ++ ')' :: after := by
  induction text generalizing depth inside with
  | nil => simp [splitClosing] at h
  | cons c rest ih =>
      have step {k : Nat}
          (hk : (splitClosing k rest).map (Prod.map (c :: ·) id) = some (inside, after)) :
          c :: rest = inside ++ ')' :: after := by
        obtain ⟨⟨inside', after'⟩, found, same⟩ := Option.map_eq_some_iff.mp hk
        simp only [Prod.map, id, Prod.mk.injEq] at same
        obtain ⟨rfl, rfl⟩ := same
        rw [ih found]
        rfl
      simp only [splitClosing] at h
      split at h
      · exact step h
      · split at h
        · split at h
          · simp_all
          · exact step h
        · exact step h

def readNumber (numeral : List Char) : Except Failure Float :=
  match Decimal.ofNumeral? numeral with
  | none => .error (.unreadableNumber (String.ofList numeral))
  | some d => if d.toFloat.isFinite then .ok d.toFloat else .error .nonFinite

-- `levels` more levels of brackets may be entered. `offset` is the place of the text, in bytes.
def readItems (limit levels offset : Nat) : List Char → Except Failure (List Item)
  | [] => .ok []
  | c :: rest =>
      if c = '(' then
        match _found : splitClosing 0 rest with
        | none => .error (.unbalancedBracket offset)
        | some (inside, after) =>
            match levels with
            | 0 => .error (.nestedTooDeep limit)
            | inner + 1 => do
                let e ← Item.group (← readItems limit inner (offset + 1) inside)
                let items ← readItems limit levels (offset + utf8Length inside + 2) after
                return .operand (.bracketed e) :: items
      else if c = ')' then .error (.unbalancedBracket offset)
      else if isNumeric c then do
        let numeral := c :: rest.takeWhile isNumeric
        let value ← readNumber numeral
        let items ← readItems limit levels (offset + utf8Length numeral) (rest.dropWhile isNumeric)
        return .operand (.number value) :: items
      else
        match Operator.ofSymbol? c with
        | none => .error (.unexpectedSymbol c offset)
        | some op => do
            let items ← readItems limit levels (offset + 1) rest
            return .operator op :: items
termination_by text => text.length
decreasing_by
  all_goals simp only [List.length_cons]
  any_goals
    have shorter := congrArg List.length (splitClosing_eq_append _found)
    simp only [List.length_append, List.length_cons] at shorter
    omega
  · have := (List.dropWhile_sublist isNumeric (l := rest)).length_le
    omega
  · omega

def Expr.read (limit : Nat) (text : String) : Except Failure Expr := do
  Item.group (← readItems limit limit 0 text.toList)

end Calculator
