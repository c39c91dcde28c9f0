import Calculator.Proofs.Grammar

set_option autoImplicit false

namespace Calculator

inductive Lexeme where
  | number (value : Float)
  | operator (op : Operator)
  | opening
  | closing
deriving DecidableEq

def numeralValue? (run : List Char) : Option Float := (Decimal.ofNumeral? run).map (·.toFloat)

def Token.lexeme? : Token → Option Lexeme
  | numeral run => (numeralValue? run).map .number
  | operator op => some (.operator op)
  | opening => some .opening
  | closing => some .closing
  | stray _ => none

namespace Expr

def inOrder : Expr → List Lexeme
  | number value => [.number value]
  | absent => []
  | bracketed inner => .opening :: inner.inOrder ++ [.closing]
  | operation op left right => left.inOrder ++ .operator op :: right.inOrder

inductive Spells : Expr → List Char → Prop where
  | number {run : List Char} {value : Float} :
      numeralValue? run = some value → Spells (number value) run
  | absent : Spells absent []
  | bracketed {inner : Expr} {text : List Char} :
      Spells inner text → Spells (bracketed inner) ('(' :: (text ++ [')']))
  | operation {op : Operator} {left right : Expr} {a b : List Char} :
      Spells left a → Spells right b → Spells (operation op left right) (a ++ op.symbol :: b)

end Expr

theorem ofNumeral?_run {run : List Char} {d : Decimal} (h : Decimal.ofNumeral? run = some d) :
    run ≠ [] ∧ ∀ c ∈ run, c.isDigit ∨ c = '.' := by
  rcases exists_ofNumeral?_iff.mp ⟨d, h⟩ with digits | ⟨whole, fraction, rfl, _, digits⟩
  · exact ⟨digits.1, fun c member => .inl (digits.2 c member)⟩
  · obtain ⟨first, others⟩ := List.forall_mem_append.mp digits
    refine ⟨by simp, List.forall_mem_append.mpr ⟨fun c member => .inl (first c member), ?_⟩⟩
    exact List.forall_mem_cons.mpr ⟨.inr rfl, fun c member => .inl (others c member)⟩

theorem numeralValue?_run {run : List Char} {value : Float} (h : numeralValue? run = some value) :
    run ≠ [] ∧ ∀ c ∈ run, isNumeric c := by
  obtain ⟨d, read, _⟩ := Option.map_eq_some_iff.mp h
  obtain ⟨nonempty, plain⟩ := ofNumeral?_run read
  refine ⟨nonempty, fun c member => ?_⟩
  rcases plain c member with digit | rfl
  · exact isNumeric_of_isDigit digit
  · decide

theorem count_point_of_digits {digits : List Char} (h : ∀ c ∈ digits, c.isDigit) :
    digits.count '.' = 0 := by
  apply List.count_eq_zero.mpr
  intro point
  exact absurd (h '.' point) (by decide)

theorem split_at_point {run : List Char} (isDigit : ∀ c ∈ run, c ≠ '.' → c.isDigit)
    (few : run.count '.' ≤ 1) :
    (∀ c ∈ run, c.isDigit) ∨
      ∃ whole fraction, run = whole ++ '.' :: fraction ∧ ∀ c ∈ whole ++ fraction, c.isDigit := by
  by_cases point : '.' ∈ run
  next =>
    obtain ⟨whole, fraction, rfl⟩ := List.append_of_mem point
    have onlyOne : '.' ∉ whole ++ fraction := by
      rw [List.count_append, List.count_cons_self] at few
      rw [← List.count_eq_zero, List.count_append]
      omega
    have others := (List.sublist_cons_self '.' fraction).append_left whole
    refine .inr ⟨whole, fraction, rfl, fun c member => ?_⟩
    exact isDigit c (others.subset member) (ne_of_mem_of_not_mem member onlyOne)
  next =>
    exact .inl fun c member => isDigit c member (ne_of_mem_of_not_mem member point)

theorem exists_numeralValue?_iff {run : List Char} (numeric : ∀ c ∈ run, isNumeric c) :
    (∃ value, numeralValue? run = some value) ↔
      ',' ∉ run ∧ run.count '.' ≤ 1 ∧ ∃ c ∈ run, c.isDigit := by
  have decimal : (∃ value, numeralValue? run = some value) ↔
      ∃ d, Decimal.ofNumeral? run = some d := by
    rw [← Option.isSome_iff_exists, ← Option.isSome_iff_exists, numeralValue?, Option.isSome_map]
  rw [decimal]
  constructor
  next =>
    rintro ⟨d, read⟩
    refine ⟨fun comma => absurd ((ofNumeral?_run read).2 ',' comma) (by decide), ?_⟩
    rcases exists_ofNumeral?_iff.mp ⟨d, read⟩ with digits | ⟨whole, fraction, rfl, digits⟩
    · obtain ⟨c, member⟩ := List.exists_mem_of_ne_nil _ digits.1
      have noPoint := count_point_of_digits digits.2
      exact ⟨by omega, c, member, digits.2 c member⟩
    · obtain ⟨c, member⟩ := List.exists_mem_of_ne_nil _ digits.1
      have others := (List.sublist_cons_self '.' fraction).append_left whole
      have noPoint := count_point_of_digits digits.2
      rw [List.count_append] at noPoint
      refine ⟨?_, c, others.subset member, digits.2 c member⟩
      rw [List.count_append, List.count_cons_self]
      omega
  next =>
    rintro ⟨noComma, few, c, member, digit⟩
    have isDigit (d : Char) (inside : d ∈ run) (notPoint : d ≠ '.') : d.isDigit := by
      apply (isDigit_or_isSeparator (numeric d inside)).resolve_right
      have notComma : d ≠ ',' := fun comma => noComma (comma ▸ inside)
      simp [isSeparator, notPoint, notComma]
    apply exists_ofNumeral?_iff.mpr
    rcases split_at_point isDigit few with digits | ⟨whole, fraction, rfl, digits⟩
    · exact .inl ⟨List.ne_nil_of_mem member, digits⟩
    · refine .inr ⟨whole, fraction, rfl, ?_, digits⟩
      intro none
      obtain ⟨rfl, rfl⟩ := List.append_eq_nil_iff.mp none
      obtain rfl := List.mem_singleton.mp member
      exact absurd digit (by decide)

theorem tokens_operator (op : Operator) (rest : List Char) :
    tokens (op.symbol :: rest) = .operator op :: tokens rest := by
  rw [tokens_symbol (not_isNumeric_symbol op), Token.ofSymbol_symbol]

theorem tokens_opening (rest : List Char) : tokens ('(' :: rest) = .opening :: tokens rest :=
  tokens_symbol (by decide) rest

theorem tokens_closing (rest : List Char) : tokens (')' :: rest) = .closing :: tokens rest :=
  tokens_symbol (by decide) rest

theorem Expr.Spells.lexemes {e : Expr} {text : List Char} (h : e.Spells text) :
    (tokens text).map Token.lexeme? = e.inOrder.map some := by
  induction h with
  | number read =>
      obtain ⟨nonempty, numeric⟩ := numeralValue?_run read
      rw [tokens_numeral nonempty numeric]
      simp [Token.lexeme?, read, inOrder]
  | absent => simp [inOrder]
  | bracketed _ ih =>
      rw [tokens_opening, tokens_append (detached_cons (by decide)), tokens_closing, tokens_nil]
      simp [ih, inOrder, Token.lexeme?]
  | operation _ _ leftRead rightRead =>
      rw [tokens_append (detached_cons (not_isNumeric_symbol _)), tokens_operator]
      simp [leftRead, rightRead, inOrder, Token.lexeme?]

section Lexeme

variable {token : Token}

theorem Token.lexeme?_eq_number {value : Float} :
    token.lexeme? = some (.number value) ↔
      ∃ run, token = numeral run ∧ numeralValue? run = some value := by
  cases token <;> simp [lexeme?]

theorem Token.lexeme?_eq_operator {op : Operator} :
    token.lexeme? = some (.operator op) ↔ token = operator op := by
  cases token <;> simp [lexeme?]

theorem Token.lexeme?_eq_opening : token.lexeme? = some .opening ↔ token = opening := by
  cases token <;> simp [lexeme?]

theorem Token.lexeme?_eq_closing : token.lexeme? = some .closing ↔ token = closing := by
  cases token <;> simp [lexeme?]

end Lexeme

theorem Expr.spells_iff {e : Expr} {text : List Char} :
    e.Spells text ↔ (tokens text).map Token.lexeme? = e.inOrder.map some := by
  refine ⟨Spells.lexemes, fun h => ?_⟩
  induction e generalizing text with
  | number value =>
      obtain ⟨token, one, read⟩ := List.map_eq_singleton_iff.mp h
      obtain ⟨run, rfl, value⟩ := Token.lexeme?_eq_number.mp read
      rw [spelling_of_tokens one]
      simpa [Token.spelling] using Spells.number value
  | absent =>
      rw [spelling_of_tokens (List.map_eq_nil_iff.mp h)]
      exact .absent
  | bracketed inner ih =>
      simp only [inOrder, List.map_append, List.map_cons, List.map_nil, List.cons_append] at h
      obtain ⟨first, later, split, isFirst, others⟩ := List.map_eq_cons_iff.mp h
      obtain ⟨inside, final, rfl, isInside, isFinal⟩ := List.map_eq_append_iff.mp others
      obtain ⟨last, rfl, isLast⟩ := List.map_eq_singleton_iff.mp isFinal
      obtain rfl := Token.lexeme?_eq_opening.mp isFirst
      obtain rfl := Token.lexeme?_eq_closing.mp isLast
      obtain ⟨rest, rfl, isRest⟩ := tokens_split_cons split
      obtain ⟨text, bracket, rfl, rfl, isBracket⟩ := tokens_split isRest
      rw [spelling_of_tokens isBracket]
      exact .bracketed (ih isInside)
  | operation op left right leftSpells rightSpells =>
      simp only [inOrder, List.map_append, List.map_cons] at h
      obtain ⟨front, later, split, isFront, others⟩ := List.map_eq_append_iff.mp h
      obtain ⟨token, back, rfl, isToken, isBack⟩ := List.map_eq_cons_iff.mp others
      obtain rfl := Token.lexeme?_eq_operator.mp isToken
      obtain ⟨a, b, rfl, rfl, isB⟩ := tokens_split split
      obtain ⟨b, rfl, rfl⟩ := tokens_split_cons isB
      exact .operation (leftSpells isFront) (rightSpells isBack)

end Calculator
