import Calculator.Proofs.Passing

set_option autoImplicit false

namespace Calculator

structure NumeralAt (text : List Char) (position : Nat) (run : List Char) : Prop where
  numeric : ∀ c ∈ run, isNumeric c
  digit : ∃ c ∈ run.head?, c.isDigit
  parts : ∃ before after, text = before ++ (run ++ after) ∧ before.length = position ∧
    (∀ c ∈ before.getLast?, isNumeric c = false) ∧ Detached after

def Problem.Marks (text : List Char) : Problem → Prop
  | unacceptable c position =>
      text[position]? = some c ∧ isAcceptable c = false ∧
        ∀ before ∈ text.take position, isAcceptable before
  | unopened position => text[position]? = some ')'
  | unclosed position => text[position]? = some '('
  | misplaced c position => text[position]? = some c ∧ isAcceptable c ∧ isSpace c = false
  | malformedNumber literal position =>
      NumeralAt text position literal.toList ∧ 2 ≤ literal.toList.countP isSeparator

theorem Problem.Marks.position_lt {text : List Char} {problem : Problem} (h : problem.Marks text) :
    problem.position < text.length := by
  cases problem with
  | unacceptable | misplaced => exact (List.getElem?_eq_some_iff.mp h.1).1
  | unopened | unclosed => exact (List.getElem?_eq_some_iff.mp h).1
  | malformedNumber literal position =>
      obtain ⟨⟨_, ⟨c, isHead, _⟩, before, after, rfl, rfl, _⟩, _⟩ := h
      have nonempty := List.length_pos_of_mem (List.mem_of_mem_head? isHead)
      simp only [position, List.length_append]
      omega

theorem getElem?_of_length {front rest : List Char} {c : Char} {position : Nat}
    (place : front.length = position) : (front ++ c :: rest)[position]? = some c := by
  simp [← place]

theorem isNumeric_of_class {c : Char} (h : SymbolClass.of c = .number) : isNumeric c := by
  grind [SymbolClass.of]

theorem isAcceptable_of_class {c : Char} (h : SymbolClass.of c ≠ .other) :
    isAcceptable c ∧ isSpace c = false := by
  constructor
  next =>
    grind [SymbolClass.of, isAcceptable, isBracket]
  next =>
    refine Bool.eq_false_iff.mpr fun space => h ?_
    obtain rfl := isSpace_iff.mp space
    exact SymbolClass.of_space

theorem marks_of_symbolProblem? {text : String} {problem : Problem}
    (h : symbolProblem? text = some problem) : problem.Marks text.toList := by
  obtain ⟨⟨c, position⟩, found, rfl⟩ := Option.map_eq_some_iff.mp h
  obtain ⟨refused, i, bound, entry, earlier⟩ := List.find?_eq_some_iff_getElem.mp found
  simp only [List.getElem_zipIdx, Nat.zero_add, Prod.mk.injEq, Bool.not_not] at entry earlier
  obtain ⟨rfl, rfl⟩ := entry
  rw [List.length_zipIdx] at bound
  refine ⟨List.getElem?_eq_getElem bound, by simpa using refused, fun before member => ?_⟩
  obtain ⟨j, inside, rfl⟩ := List.mem_take_iff_getElem.mp member
  exact earlier j (by omega)

theorem marks_of_balanceFrom {opened : List Nat} {position : Nat} {rest : List Char}
    {problem : Problem} (h : balanceFrom opened position rest = some problem) (front : List Char)
    (place : front.length = position) (opening : ∀ p ∈ opened, front[p]? = some '(') :
    problem.Marks (front ++ rest) := by
  have kept {outer : List Nat} {front : List Char} (opening : ∀ p ∈ outer, front[p]? = some '(')
      (c : Char) : ∀ p ∈ outer, (front ++ [c])[p]? = some '(' := by
    intro p member
    have inside := (List.getElem?_eq_some_iff.mp (opening p member)).1
    rw [List.getElem?_append_left inside, opening p member]
  fun_induction balanceFrom opened position rest generalizing front with
  | case1 opened position =>
      obtain ⟨p, last, rfl⟩ := Option.map_eq_some_iff.mp h
      rw [List.append_nil]
      exact opening p (List.mem_of_getLast? last)
  | case2 opened position rest ih =>
      have grown : ∀ p ∈ position :: opened, (front ++ ['('])[p]? = some '(' :=
        List.forall_mem_cons.mpr ⟨getElem?_of_length place, kept opening '('⟩
      rw [List.append_cons]
      exact ih h _ (by simp [place]) grown
  | case3 position rest _ =>
      obtain rfl := Option.some.inj h
      exact getElem?_of_length place
  | case4 position rest innermost outer _ ih =>
      rw [List.append_cons]
      exact ih h _ (by simp [place]) (kept (List.forall_mem_cons.mp opening).2 ')')
  | case5 opened position c rest _ _ ih =>
      rw [List.append_cons]
      exact ih h _ (by simp [place]) (kept opening c)

section Order

variable {c : Char} {front rest : List Char} {position : Nat}

theorem marks_misplaced (place : front.length = position) (counts : SymbolClass.of c ≠ .other) :
    (Problem.misplaced c position).Marks (front ++ c :: rest) :=
  ⟨getElem?_of_length place, isAcceptable_of_class counts⟩

theorem numeralAt_run (place : front.length = position)
    (boundary : ∀ d ∈ front.getLast?, isNumeric d → Detached (c :: rest)) (digit : c.isDigit) :
    NumeralAt (front ++ c :: rest) position (c :: rest.takeWhile isNumeric) := by
  have numeric := isNumeric_of_isDigit digit
  refine ⟨numeric_run numeric rest, ⟨c, rfl, digit⟩, front, rest.dropWhile isNumeric, by simp,
    place, fun d isLast => Bool.eq_false_iff.mpr fun before => ?_, detached_dropWhile rest⟩
  have detached := boundary d isLast before c rfl
  rw [numeric] at detached
  contradiction

-- A numeral is passed as a whole: behind the last digit or separator passed comes neither.
theorem marks_of_orderFrom {previous : SymbolClass} {problem : Problem}
    (h : orderFrom previous position rest = some problem) (front : List Char)
    (place : front.length = position)
    (boundary : ∀ c ∈ front.getLast?, isNumeric c → Detached rest) :
    problem.Marks (front ++ rest) := by
  have behind {front : List Char} {c : Char} (other : SymbolClass.of c ≠ .number)
      (rest : List Char) : ∀ d ∈ (front ++ [c]).getLast?, isNumeric d → Detached rest := by
    intro d isLast numeric
    obtain rfl : c = d := by simpa using isLast
    exact absurd (SymbolClass.of_isNumeric numeric) other
  fun_induction orderFrom previous position rest generalizing front with
  | case1 => contradiction
  | case2 previous position c rest other ih =>
      rw [List.append_cons]
      exact ih h _ (by simp [place]) (behind (by simp [other]) rest)
  | case3 previous position c rest operator _ ih =>
      rw [List.append_cons]
      exact ih h _ (by simp [place]) (behind (by simp [operator]) rest)
  | case4 previous position c rest operator _ =>
      obtain rfl := Option.some.inj h
      exact marks_misplaced place (by simp [operator])
  | case5 previous position c rest opening _ =>
      obtain rfl := Option.some.inj h
      exact marks_misplaced place (by simp [opening])
  | case6 previous position c rest opening _ ih =>
      rw [List.append_cons]
      exact ih h _ (by simp [place]) (behind (by simp [opening]) rest)
  | case7 previous position c rest closing _ =>
      obtain rfl := Option.some.inj h
      exact marks_misplaced place (by simp [closing])
  | case8 previous position c rest closing _ ih =>
      rw [List.append_cons]
      exact ih h _ (by simp [place]) (behind (by simp [closing]) rest)
  | case9 previous position c rest number _ =>
      obtain rfl := Option.some.inj h
      exact marks_misplaced place (by simp [number])
  | case10 previous position c rest number fits numeral many =>
      obtain rfl := Option.some.inj h
      have digit : c.isDigit :=
        (isDigit_or_isSeparator (isNumeric_of_class number)).resolve_right fun separator =>
          fits (.inl separator)
      simp only [Problem.Marks, String.toList_ofList]
      exact ⟨numeralAt_run place boundary digit, many⟩
  | case11 previous position c rest number _ numeral _ ih =>
      have whole : front ++ c :: rest = (front ++ numeral) ++ rest.dropWhile isNumeric := by
        simp [numeral]
      rw [whole]
      exact ih h _ (by simp [place]) fun _ _ _ => detached_dropWhile rest

end Order

theorem marks_of_mem_diagnose {text : String} {problem : Problem} (h : problem ∈ diagnose text) :
    problem.Marks text.toList := by
  obtain ⟨check, found⟩ := mem_diagnose.mp h
  cases check with
  | symbols => exact marks_of_symbolProblem? found
  | balance => simpa using marks_of_balanceFrom found [] rfl (by simp)
  | order => simpa using marks_of_orderFrom found [] rfl (by simp)

end Calculator
