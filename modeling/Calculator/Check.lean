import Calculator.Symbol

set_option autoImplicit false

namespace Calculator

inductive Check where
  | symbols
  | balance
  | order
deriving DecidableEq, Repr

/-- Positions count characters from the start of the text. -/
inductive Problem where
  | unacceptable (symbol : Char) (position : Nat)
  | unopened (position : Nat)
  | unclosed (position : Nat)
  | misplaced (symbol : Char) (position : Nat)
  | malformedNumber (literal : String) (position : Nat)
deriving DecidableEq, Repr

namespace Problem

def check : Problem → Check
  | unacceptable .. => .symbols
  | unopened _ | unclosed _ => .balance
  | misplaced .. | malformedNumber .. => .order

def position : Problem → Nat
  | unacceptable _ position | unopened position | unclosed position
  | misplaced _ position | malformedNumber _ position => position

def message : Problem → String
  | unacceptable symbol position =>
      s!"Invalid symbol {Text.quotedChar symbol} at position {position}"
  | unopened position => s!"Closing bracket at position {position} has no opening bracket"
  | unclosed position => s!"Opening bracket at position {position} is never closed"
  | misplaced symbol position => s!"Unexpected {Text.quotedChar symbol} at position {position}"
  | malformedNumber literal position =>
      s!"Number {literal} at position {position} has more than one decimal separator"

end Problem

def symbolProblem? (text : String) : Option Problem :=
  (text.toList.zipIdx.find? fun (c, _) => !isAcceptable c).map fun (c, position) =>
    .unacceptable c position

-- `opened` holds the positions of the brackets still open, the innermost first.
def balanceFrom (opened : List Nat) (position : Nat) : List Char → Option Problem
  | [] => opened.getLast?.map .unclosed
  | c :: rest =>
      if c = '(' then balanceFrom (position :: opened) (position + 1) rest
      else if c = ')' then
        match opened with
        | [] => some (.unopened position)
        | _ :: outer => balanceFrom outer (position + 1) rest
      else balanceFrom opened (position + 1) rest

def balanceProblem? (text : String) : Option Problem :=
  balanceFrom [] 0 text.toList

-- A sign opens a bracket freely, a multiplicative operator only before another bracket.
def operatorFits (c : Char) (previous next : SymbolClass) : Bool :=
  previous != .operator && next != .closing &&
    !(isMultiplicative c && previous == .opening && next == .number)

-- `previous` is the class of the last symbol that counts. Characters of class `other` do not.
def orderFrom (previous : SymbolClass) (position : Nat) : List Char → Option Problem
  | [] => none
  | c :: rest =>
      match SymbolClass.of c with
      | .other => orderFrom previous (position + 1) rest
      | .operator =>
          if operatorFits c previous (.next rest) then orderFrom .operator (position + 1) rest
          else some (.misplaced c position)
      | .opening =>
          if previous = .closing ∨ previous = .number then some (.misplaced c position)
          else orderFrom .opening (position + 1) rest
      | .closing =>
          if previous = .operator ∨ previous = .opening then some (.misplaced c position)
          else orderFrom .closing (position + 1) rest
      | .number =>
          if isSeparator c ∨ previous = .closing ∨ previous = .number then
            some (.misplaced c position)
          else
            let numeral := c :: rest.takeWhile isNumeric
            if 1 < numeral.countP isSeparator then
              some (.malformedNumber (String.ofList numeral) position)
            else orderFrom .number (position + numeral.length) (rest.dropWhile isNumeric)
termination_by text => text.length
decreasing_by
  all_goals simp only [List.length_cons]
  any_goals omega
  have := (List.dropWhile_sublist isNumeric (l := rest)).length_le
  omega

-- The text is read as if a bracket were open before it.
def orderProblem? (text : String) : Option Problem :=
  orderFrom .opening 0 text.toList

def Check.problem? : Check → String → Option Problem
  | symbols => symbolProblem?
  | balance => balanceProblem?
  | order => orderProblem?

def firstProblem? (text : String) : Option Problem :=
  match symbolProblem? text with
  | some problem => some problem
  | none =>
      match balanceProblem? text with
      | some problem => some problem
      | none => orderProblem? text

def diagnose (text : String) : List Problem :=
  [symbolProblem? text, balanceProblem? text, orderProblem? text].filterMap id

def isValid (text : String) : Bool := (firstProblem? text).isNone

theorem firstProblem?_eq_head?_diagnose (text : String) :
    firstProblem? text = (diagnose text).head? := by
  unfold firstProblem? diagnose
  cases symbolProblem? text with
  | some problem => rfl
  | none =>
      cases balanceProblem? text with
      | some problem => rfl
      | none => cases orderProblem? text <;> rfl

theorem mem_diagnose {text : String} {problem : Problem} :
    problem ∈ diagnose text ↔ ∃ check : Check, check.problem? text = some problem := by
  simp only [diagnose, List.mem_filterMap, List.mem_cons, List.not_mem_nil, or_false, id]
  constructor
  next =>
    rintro ⟨found, rfl | rfl | rfl, isProblem⟩
    next => exact ⟨.symbols, isProblem⟩
    next => exact ⟨.balance, isProblem⟩
    next => exact ⟨.order, isProblem⟩
  next =>
    rintro ⟨check, isProblem⟩
    cases check with
    | symbols => exact ⟨_, .inl rfl, isProblem⟩
    | balance => exact ⟨_, .inr (.inl rfl), isProblem⟩
    | order => exact ⟨_, .inr (.inr rfl), isProblem⟩

-- Tabs are kept, so that the caret stays below the character it points at.
def Problem.padding (problem : Problem) (text : String) : List Char :=
  (text.toList.take problem.position).map fun c => if c = '\t' then '\t' else ' '

def Problem.describe (problem : Problem) (text : String) : String :=
  s!"{problem.message}\n    {text}\n    {String.ofList (problem.padding text)}^"

end Calculator
