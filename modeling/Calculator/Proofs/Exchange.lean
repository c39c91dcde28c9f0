import Calculator.Proofs.Language

set_option autoImplicit false

namespace Calculator

open SymbolClass (next)

theorem Detached.append {a b : List Char} (first : Detached a) (second : Detached b) :
    Detached (a ++ b) := by
  cases a with
  | nil => exact second
  | cons c a => exact detached_cons (first c rfl)

theorem next_append {back back' : List Char} (same : next back = next back') (front : List Char) :
    next (front ++ back) = next (front ++ back') := by
  induction front with
  | nil => exact same
  | cons c front ih => simp only [List.cons_append, next, ih]

/-- Wherever the first text passes, so does the second, also at another place of the whole text. -/
def Yields (back back' : List Char) : Prop :=
  ∀ previous opened opened' position position', opened.length = opened'.length →
    Passes previous opened position back → Passes previous opened' position' back'

theorem yields_nil : Yields [] [] := by
  intro previous opened opened' position position' same h
  obtain rfl := passes_nil.mp h
  exact passes_nil.mpr (List.eq_nil_of_length_eq_zero same.symm)

section Steps

variable {c : Char} {back back' : List Char}

theorem Yields.space (later : Yields back back') : Yields (' ' :: back) (' ' :: back') := by
  intro previous opened opened' position position' same h
  exact passes_space.mpr (later _ _ _ _ _ same (passes_space.mp h))

theorem Yields.operator (operator : isOperator c) (ahead : next back = next back')
    (later : Yields back back') : Yields (c :: back) (c :: back') := by
  intro previous opened opened' position position' same h
  obtain ⟨fits, behind⟩ := (passes_operator operator).mp h
  exact (passes_operator operator).mpr ⟨ahead ▸ fits, later _ _ _ _ _ same behind⟩

theorem Yields.opening (later : Yields back back') : Yields ('(' :: back) ('(' :: back') := by
  intro previous opened opened' position position' same h
  obtain ⟨fits, behind⟩ := passes_opening.mp h
  have grown : (position :: opened).length = (position' :: opened').length := by
    rw [List.length_cons, List.length_cons, same]
  exact passes_opening.mpr ⟨fits, later _ _ _ _ _ grown behind⟩

theorem Yields.closing (later : Yields back back') : Yields (')' :: back) (')' :: back') := by
  intro previous opened opened' position position' same h
  obtain ⟨fits, innermost, outer, rfl, behind⟩ := passes_closing.mp h
  obtain ⟨innermost', outer', rfl⟩ := List.exists_cons_of_length_eq_add_one same.symm
  have shrunk : outer.length = outer'.length := Nat.succ.inj same
  exact passes_closing.mpr ⟨fits, innermost', outer', rfl, later _ _ _ _ _ shrunk behind⟩

theorem Yields.numeral {run : List Char} (digit : c.isDigit) (numeric : ∀ d ∈ c :: run, isNumeric d)
    (detached : Detached back) (detached' : Detached back') (later : Yields back back') :
    Yields (c :: run ++ back) (c :: run ++ back') := by
  intro previous opened opened' position position' same h
  obtain ⟨fits, numeral, behind⟩ := (passes_run digit numeric detached).mp h
  exact (passes_run digit numeric detached').mpr ⟨fits, numeral, later _ _ _ _ _ same behind⟩

theorem Yields.append (later : Yields back back') (ahead : next back = next back')
    (detached : Detached back) (detached' : Detached back') (front : List Char) :
    Yields (front ++ back) (front ++ back') := by
  induction size : front.length using Nat.strongRecOn generalizing front with
  | ind n ih =>
      cases front with
      | nil => exact later
      | cons c front =>
          have behind : Yields (front ++ back) (front ++ back') :=
            ih front.length (by rw [← size]; simp) front rfl
          intro previous opened opened' position position'
          rw [List.cons_append, List.cons_append]
          intro same h
          rcases isAcceptable_cases (h.symbols c List.mem_cons_self) with
            rfl | digit | separator | operator | rfl | rfl
          · exact behind.space _ _ _ _ _ same h
          · have shorter : (front.dropWhile isNumeric).length < n := by
              have := (List.dropWhile_sublist isNumeric (l := front)).length_le
              rw [← size, List.length_cons]
              omega
            have stops := detached_dropWhile front
            have whole := (ih _ shorter _ rfl).numeral digit
              (numeric_run (isNumeric_of_isDigit digit) front) (stops.append detached)
              (stops.append detached')
            simp only [List.cons_append, ← List.append_assoc, List.takeWhile_append_dropWhile]
              at whole
            exact whole _ _ _ _ _ same h
          · exact absurd h (not_passes_separator separator)
          · exact behind.operator operator (next_append ahead front) _ _ _ _ _ same h
          · exact behind.opening _ _ _ _ _ same h
          · exact behind.closing _ _ _ _ _ same h

theorem yields_self (text : List Char) : Yields text text := by
  simpa using yields_nil.append rfl detached_nil detached_nil text

end Steps

theorem passes_bracket {inner : List Char} (h : Derives .expression inner) {previous : SymbolClass}
    {opened : List Nat} {position : Nat} {rest : List Char} :
    Passes previous opened position ('(' :: (inner ++ ')' :: rest)) ↔
      ¬(previous = .closing ∨ previous = .number) ∧
        Passes .closing opened (position + 1 + inner.length + 1) rest := by
  obtain ⟨last, completes, through⟩ := h.through rfl
  rw [passes_opening, through _ _ _ (detached_cons (by decide)), passes_closing]
  simp only [completes.ends, not_false_iff, true_and]
  constructor
  next =>
    rintro ⟨fits, _, _, same, later⟩
    obtain ⟨rfl, rfl⟩ := List.cons.inj same
    exact ⟨fits, later⟩
  next =>
    rintro ⟨fits, later⟩
    exact ⟨fits, _, _, rfl, later⟩

theorem yields_bracket {inner inner' : List Char} (h : Derives .expression inner)
    (h' : Derives .expression inner') (rest : List Char) :
    Yields ('(' :: (inner ++ ')' :: rest)) ('(' :: (inner' ++ ')' :: rest)) := by
  intro previous opened opened' position position' same passes
  obtain ⟨fits, later⟩ := (passes_bracket h).mp passes
  exact (passes_bracket h').mpr ⟨fits, yields_self rest _ _ _ _ _ same later⟩

theorem isValid_of_exchange {text text' : String} {front inner inner' rest : List Char}
    (h : Derives .expression inner) (h' : Derives .expression inner')
    (parts : text.toList = front ++ '(' :: (inner ++ ')' :: rest))
    (parts' : text'.toList = front ++ '(' :: (inner' ++ ')' :: rest)) (valid : isValid text) :
    isValid text' := by
  rw [isValid_iff_passes, parts] at valid
  rw [isValid_iff_passes, parts']
  have ahead : next ('(' :: (inner ++ ')' :: rest)) = next ('(' :: (inner' ++ ')' :: rest)) := by
    rw [SymbolClass.next_opening, SymbolClass.next_opening]
  exact (yields_bracket h h' rest).append ahead (detached_cons (by decide))
    (detached_cons (by decide)) front _ _ _ _ _ rfl valid

end Calculator
