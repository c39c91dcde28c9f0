import Calculator.Proofs.Language

set_option autoImplicit false

namespace Calculator

open SymbolClass (next)

/-- What a text that passes consists of behind its leading spaces: its first token, and a rest that
passes after it. -/
inductive Begins (previous : SymbolClass) (opened : List Nat) : List Char → Prop where
  | nothing : opened = [] → Begins previous opened []
  | numeral {run rest : List Char} {position : Nat} :
      ¬(previous = .closing ∨ previous = .number) → Numeral run →
      Passes .number opened position rest → Begins previous opened (run ++ rest)
  | operator {c : Char} {rest : List Char} {position : Nat} :
      isOperator c → operatorFits c previous (next rest) →
      Passes .operator opened position rest → Begins previous opened (c :: rest)
  | opening {rest : List Char} {place position : Nat} :
      ¬(previous = .closing ∨ previous = .number) →
      Passes .opening (place :: opened) position rest → Begins previous opened ('(' :: rest)
  | closing {outer : List Nat} {rest : List Char} {innermost position : Nat} :
      ¬(previous = .operator ∨ previous = .opening) → opened = innermost :: outer →
      Passes .closing outer position rest → Begins previous opened (')' :: rest)

theorem Passes.begins {previous : SymbolClass} {opened : List Nat} {position : Nat}
    {text : List Char} (h : Passes previous opened position text) :
    ∃ spaces rest, text = spaces ++ rest ∧ Spaces spaces ∧ Begins previous opened rest := by
  induction text generalizing position with
  | nil => exact ⟨[], [], rfl, spaces_nil, .nothing (passes_nil.mp h)⟩
  | cons c rest ih =>
      rcases isAcceptable_cases (h.symbols c List.mem_cons_self) with
        rfl | digit | separator | operator | rfl | rfl
      · obtain ⟨spaces, rest, rfl, isSpaces, begins⟩ := ih (passes_space.mp h)
        exact ⟨' ' :: spaces, rest, rfl, List.forall_mem_cons.mpr ⟨rfl, isSpaces⟩, begins⟩
      · have whole : c :: rest = c :: rest.takeWhile isNumeric ++ rest.dropWhile isNumeric := by
          simp
        rw [whole] at h
        obtain ⟨fits, numeral, later⟩ := (passes_run digit
          (numeric_run (isNumeric_of_isDigit digit) rest) (detached_dropWhile rest)).mp h
        exact ⟨[], c :: rest, rfl, spaces_nil, whole ▸ .numeral fits numeral later⟩
      · exact absurd h (not_passes_separator separator)
      · obtain ⟨fits, later⟩ := (passes_operator operator).mp h
        exact ⟨[], c :: rest, rfl, spaces_nil, .operator operator fits later⟩
      · obtain ⟨fits, later⟩ := passes_opening.mp h
        exact ⟨[], '(' :: rest, rfl, spaces_nil, .opening fits later⟩
      · obtain ⟨fits, innermost, outer, rfl, later⟩ := passes_closing.mp h
        exact ⟨[], ')' :: rest, rfl, spaces_nil, .closing fits rfl later⟩

inductive Ends : List Nat → List Char → Prop where
  | text : Ends [] []
  | bracket {innermost position : Nat} {outer : List Nat} {rest : List Char} :
      Passes .closing outer position rest → Ends (innermost :: outer) (')' :: rest)

def Fills (phrase : Phrase) (opened : List Nat) (text : List Char) : Prop :=
  ∃ front rest, text = front ++ rest ∧ Derives phrase front ∧ Ends opened rest

def Enclosable (text : List Char) : Prop :=
  ∀ place outer position, Passes .opening (place :: outer) position text →
    Fills .expression (place :: outer) text

theorem operand_of_numeral {before run rest : List Char} {opened : List Nat} {position : Nat}
    (spaces : Spaces before) (numeral : Numeral run) (later : Passes .number opened position rest) :
    ∃ front back, before ++ (run ++ rest) = front ++ back ∧ Derives .operand front ∧
      Begins .number opened back := by
  obtain ⟨after, back, rfl, isSpaces, begins⟩ := later.begins
  exact ⟨before ++ (run ++ after), back, by simp, .number spaces numeral isSpaces, begins⟩

theorem bracket_of_opening {before rest : List Char} {opened : List Nat} {place position : Nat}
    (spaces : Spaces before) (inside : Enclosable rest)
    (later : Passes .opening (place :: opened) position rest) :
    ∃ front back, before ++ '(' :: rest = front ++ back ∧ Derives .bracket front ∧
      Begins .closing opened back := by
  obtain ⟨inner, _, rfl, isExpression, ends⟩ := inside _ _ _ later
  cases ends with
  | bracket outside =>
      obtain ⟨after, back, rfl, isSpaces, begins⟩ := outside.begins
      exact ⟨before ++ '(' :: (inner ++ ')' :: after), back, by simp,
        .bracket spaces isExpression isSpaces, begins⟩

theorem operand_of_operator {c : Char} {previous : SymbolClass} {text : List Char}
    {opened : List Nat} {position : Nat} (fits : operatorFits c previous (next text))
    (inside : ∀ shorter : List Char, shorter.length < text.length → Enclosable shorter)
    (later : Passes .operator opened position text) :
    ∃ front back last, text = front ++ back ∧ Derives .operand front ∧ Completes last ∧
      Begins last opened back ∧ (next text = .opening → Derives .bracket front) := by
  obtain ⟨before, rest, rfl, spaces, begins⟩ := later.begins
  rw [next_spaces spaces] at fits ⊢
  cases begins with
  | nothing => simp [operatorFits, next] at fits
  | numeral _ numeral behind =>
      obtain ⟨front, back, whole, isOperand, begins⟩ := operand_of_numeral spaces numeral behind
      refine ⟨front, back, .number, whole, isOperand, .inl rfl, begins, fun ahead => ?_⟩
      simp [next_numeral numeral] at ahead
  | operator _ repeated => simp [operatorFits] at repeated
  | @opening rest _ _ _ inner =>
      have enclosed := inside rest (by simp; omega)
      obtain ⟨front, back, whole, isBracket, begins⟩ := bracket_of_opening spaces enclosed inner
      exact ⟨front, back, .closing, whole, .bracketed isBracket, .inr rfl, begins,
        fun _ => isBracket⟩
  | closing ends => simp at ends

theorem tail_of_begins {text : List Char} {last : SymbolClass} {opened : List Nat}
    (inside : ∀ shorter : List Char, shorter.length < text.length → Enclosable shorter)
    (completes : Completes last) (begins : Begins last opened text) : Fills .tail opened text := by
  induction size : text.length using Nat.strongRecOn generalizing text last with
  | ind n ih =>
      have complete : last = .closing ∨ last = .number := Or.symm completes
      cases begins with
      | nothing none => exact ⟨[], [], rfl, .done, none ▸ .text⟩
      | numeral fits _ _ => contradiction
      | opening fits _ => contradiction
      | closing _ some later => exact ⟨[], _, rfl, .done, some ▸ .bracket later⟩
      | @operator c rest _ operator fits later =>
          simp only [List.length_cons] at size inside
          obtain ⟨front, back, _, rfl, isOperand, completes, begins, _⟩ :=
            operand_of_operator fits (fun shorter less => inside shorter (by omega)) later
          have shorter : back.length < n := by simp at size; omega
          obtain ⟨others, rest, rfl, isTail, ends⟩ := ih _ shorter
            (fun text less => inside text (by omega)) completes begins rfl
          have next := Derives.next (isOperator_iff.mp operator) isOperand isTail
          exact ⟨c :: (front ++ others), rest, by simp, next, ends⟩

theorem expression_of_passes {text : List Char} {opened : List Nat} {position : Nat}
    (h : Passes .opening opened position text) :
    Spaces text ∧ opened = [] ∨ Fills .expression opened text := by
  induction size : text.length using Nat.strongRecOn generalizing text opened position with
  | ind n ih =>
      have inside (shorter : List Char) (less : shorter.length < n) : Enclosable shorter :=
        fun place outer position passes =>
          (ih _ less passes rfl).resolve_left fun blank => List.cons_ne_nil place outer blank.2
      -- The operand found first, with whatever stands before it, takes the rest as its tail.
      have finish (lead front : List Char) {back : List Char} {last : SymbolClass}
          (whole : text = lead ++ (front ++ back)) (completes : Completes last)
          (begins : Begins last opened back)
          (derive : ∀ {tail : List Char}, Derives .tail tail →
            Derives .expression (lead ++ (front ++ tail))) :
          Fills .expression opened text := by
        have bound : back.length ≤ n := by rw [← size, whole]; simp; omega
        obtain ⟨tail, rest, rfl, isTail, ends⟩ :=
          tail_of_begins (fun shorter less => inside shorter (by omega)) completes begins
        exact ⟨lead ++ (front ++ tail), rest, by simp [whole], derive isTail, ends⟩
      obtain ⟨before, rest, rfl, spaces, begins⟩ := h.begins
      cases begins with
      | nothing none => exact .inl ⟨by simpa using spaces, none⟩
      | numeral _ numeral later =>
          obtain ⟨front, back, whole, isOperand, begins⟩ := operand_of_numeral spaces numeral later
          exact .inr (finish [] front whole (.inl rfl) begins (.plain isOperand))
      | @opening rest _ _ _ later =>
          have enclosed := inside rest (by rw [← size]; simp; omega)
          obtain ⟨front, back, whole, isBracket, begins⟩ := bracket_of_opening spaces enclosed later
          exact .inr (finish [] front whole (.inr rfl) begins (.plain (.bracketed isBracket)))
      | closing ends => simp at ends
      | @operator c rest _ operator fits behind =>
          have shorter : rest.length < n := by rw [← size]; simp; omega
          obtain ⟨front, back, last, rfl, isOperand, completes, begins, isBracket⟩ :=
            operand_of_operator fits (fun text less => inside text (by omega)) behind
          refine .inr (finish (before ++ [c]) front (by simp) completes begins fun isTail => ?_)
          rw [List.append_assoc, List.singleton_append]
          cases kind : isMultiplicative c with
          | false =>
              have additive : isAdditive c := by simpa [isOperator, kind] using operator
              exact .signed spaces (isAdditive_iff.mp additive) isOperand isTail
          | true =>
              refine .scaled spaces (isMultiplicative_iff.mp kind) (isBracket ?_) isTail
              exact (next_operand isOperand back).resolve_left (by simp_all [operatorFits])

theorem derives_of_isValid {text : String} (h : isValid text) :
    Spaces text.toList ∨ Derives .expression text.toList := by
  rcases expression_of_passes ((isValid_iff_passes text).mp h) with
    blank | ⟨front, _, whole, isExpression, ends⟩
  · exact .inl blank.1
  · cases ends with
    | text => exact .inr (by rwa [whole, List.append_nil])

theorem isValid_of_spaces {text : String} (h : Spaces text.toList) : isValid text := by
  rw [isValid_iff_passes, ← List.append_nil text.toList, passes_spaces h, passes_nil]

theorem isValid_of_derives {text : String} (h : Derives .expression text.toList) :
    isValid text := by
  obtain ⟨last, _, through⟩ := h.through rfl
  rw [isValid_iff_passes, ← List.append_nil text.toList, through _ _ _ detached_nil, passes_nil]

/-- The checks accept blank texts and the expressions of the grammar, and nothing else. -/
theorem isValid_iff_derives (text : String) :
    isValid text ↔ Spaces text.toList ∨ Derives .expression text.toList :=
  ⟨derives_of_isValid, fun h => h.elim isValid_of_spaces isValid_of_derives⟩

-- A sign, a decimal comma and a spaced bracket are accepted; a second separator is not derivable.
theorem isValid_iff_derives_comma :
    (Derives .expression "-2,5*( 3 )".toList ∧ isValid "-2,5*( 3 )") ∧
      ¬ Derives .expression "-2,5,1".toList := by
  constructor
  next =>
    have space : Spaces [' '] := by simp [Spaces]
    have two : Digits ['2'] := by simp [Digits]
    have three : Digits ['3'] := by simp [Digits]
    have decimal : Numeral ['2', ',', '5'] := .fractional two (.inr rfl) (by simp)
    have inner : Derives .expression " 3 ".toList :=
      .plain (.number space (.whole three) space) .done
    have factor : Derives .operand "( 3 )".toList :=
      .bracketed (.bracket spaces_nil inner spaces_nil)
    have derived : Derives .expression "-2,5*( 3 )".toList :=
      .signed spaces_nil (.inr rfl) (.number spaces_nil decimal spaces_nil)
        (.next (.inr (.inr (.inl rfl))) factor .done)
    exact ⟨derived, (isValid_iff_derives _).mpr (.inr derived)⟩
  next =>
    intro derived
    exact absurd ((isValid_iff_derives _).mpr (.inr derived)) (by decide +kernel)

end Calculator
