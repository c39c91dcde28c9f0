import Calculator.Symbol
import Calculator.Expr.Basic
import Calculator.Decimal.Basic

set_option autoImplicit false

namespace Calculator

/-- Digits and separators stay together as long as they follow each other. -/
inductive Token where
  | numeral (run : List Char)
  | operator (op : Operator)
  | opening
  | closing
  | stray (c : Char)
deriving DecidableEq

namespace Token

def ofSymbol (c : Char) : Token :=
  if c = '(' then opening
  else if c = ')' then closing
  else (Operator.ofSymbol? c).elim (stray c) operator

def spelling : Token → List Char
  | numeral run => run
  | operator op => [op.symbol]
  | opening => ['(']
  | closing => [')']
  | stray c => [c]

theorem spelling_ofSymbol (c : Char) : (ofSymbol c).spelling = [c] := by
  unfold ofSymbol
  split
  · simp_all [spelling]
  · split
    · simp_all [spelling]
    · cases read : Operator.ofSymbol? c with
      | none => rfl
      | some op => simp [spelling, Operator.symbol_of_ofSymbol? read]

theorem numeral_ne_ofSymbol (run : List Char) (c : Char) : numeral run ≠ ofSymbol c := by
  unfold ofSymbol
  split
  · exact Token.noConfusion
  · split
    · exact Token.noConfusion
    · cases Operator.ofSymbol? c <;> exact Token.noConfusion

@[simp] theorem ofSymbol_opening : ofSymbol '(' = opening := rfl
@[simp] theorem ofSymbol_closing : ofSymbol ')' = closing := rfl
@[simp] theorem ofSymbol_symbol (op : Operator) : ofSymbol op.symbol = operator op := by
  cases op <;> rfl

end Token

def tokens : List Char → List Token
  | [] => []
  | c :: rest =>
      if isNumeric c then
        .numeral (c :: rest.takeWhile isNumeric) :: tokens (rest.dropWhile isNumeric)
      else .ofSymbol c :: tokens rest
termination_by text => text.length
decreasing_by
  all_goals simp only [List.length_cons]
  · have := (List.dropWhile_sublist isNumeric (l := rest)).length_le
    omega
  · omega

def Detached (rest : List Char) : Prop := ∀ c ∈ rest.head?, isNumeric c = false

theorem detached_nil : Detached [] := by simp [Detached]

theorem detached_cons {c : Char} {rest : List Char} (h : isNumeric c = false) :
    Detached (c :: rest) := by
  simpa [Detached] using h

theorem Detached.of_append {a b : List Char} (h : Detached (a ++ b)) : Detached a := by
  cases a with
  | nil => exact detached_nil
  | cons c a => simpa [Detached] using h

theorem detached_dropWhile (text : List Char) : Detached (text.dropWhile isNumeric) := by
  intro c found
  have := List.head?_dropWhile_not isNumeric text
  cases stopped : text.dropWhile isNumeric <;> simp_all

theorem Detached.takeWhile_eq {rest : List Char} (h : Detached rest) :
    rest.takeWhile isNumeric = [] := by
  cases rest with
  | nil => rfl
  | cons c rest => simp [h c rfl]

theorem Detached.dropWhile_eq {rest : List Char} (h : Detached rest) :
    rest.dropWhile isNumeric = rest := by
  cases rest with
  | nil => rfl
  | cons c rest => simp [h c rfl]

theorem takeWhile_run {run rest : List Char} (numeric : ∀ c ∈ run, isNumeric c)
    (detached : Detached rest) : (run ++ rest).takeWhile isNumeric = run := by
  rw [List.takeWhile_append_of_pos numeric, detached.takeWhile_eq, List.append_nil]

theorem dropWhile_run {run rest : List Char} (numeric : ∀ c ∈ run, isNumeric c)
    (detached : Detached rest) : (run ++ rest).dropWhile isNumeric = rest := by
  rw [List.dropWhile_append_of_pos numeric, detached.dropWhile_eq]

theorem numeric_run {c : Char} (h : isNumeric c) (rest : List Char) :
    ∀ d ∈ c :: rest.takeWhile isNumeric, isNumeric d :=
  List.forall_mem_cons.mpr ⟨h, List.all_eq_true.mp List.all_takeWhile⟩

@[simp] theorem tokens_nil : tokens [] = [] := by rw [tokens]

theorem tokens_symbol {c : Char} (h : isNumeric c = false) (rest : List Char) :
    tokens (c :: rest) = .ofSymbol c :: tokens rest := by
  rw [tokens, h]
  rfl

theorem tokens_run {run rest : List Char} (nonempty : run ≠ [])
    (numeric : ∀ c ∈ run, isNumeric c) (detached : Detached rest) :
    tokens (run ++ rest) = .numeral run :: tokens rest := by
  cases run with
  | nil => contradiction
  | cons c run =>
      obtain ⟨first, others⟩ := List.forall_mem_cons.mp numeric
      rw [List.cons_append, tokens, if_pos first, takeWhile_run others detached,
        dropWhile_run others detached]

theorem tokens_numeral {run : List Char} (nonempty : run ≠ [])
    (numeric : ∀ c ∈ run, isNumeric c) : tokens run = [.numeral run] := by
  have one := tokens_run nonempty numeric detached_nil
  rwa [List.append_nil, tokens_nil] at one

theorem spelling_tokens (text : List Char) : (tokens text).flatMap Token.spelling = text := by
  fun_induction tokens text with
  | case1 => rfl
  | case2 c rest numeric ih =>
      rw [List.flatMap_cons, ih]
      simp [Token.spelling]
  | case3 c rest other ih =>
      rw [List.flatMap_cons, ih, Token.spelling_ofSymbol, List.singleton_append]

theorem tokens_append {a b : List Char} (detached : Detached b) :
    tokens (a ++ b) = tokens a ++ tokens b := by
  fun_induction tokens a with
  | case1 => rfl
  | case2 c rest numeric ih =>
      have whole : c :: rest ++ b =
          (c :: rest.takeWhile isNumeric) ++ (rest.dropWhile isNumeric ++ b) := by
        simp [← List.append_assoc]
      have next : Detached (rest.dropWhile isNumeric ++ b) := by
        cases stopped : rest.dropWhile isNumeric with
        | nil => exact detached
        | cons d others => exact detached_cons (detached_dropWhile rest d (by rw [stopped]; rfl))
      rw [whole, tokens_run (List.cons_ne_nil c _) (numeric_run numeric rest) next, ih,
        List.cons_append]
  | case3 c rest other ih =>
      rw [List.cons_append, tokens_symbol (by simpa using other), ih, List.cons_append]

theorem tokens_append_symbol {c : Char} (h : isNumeric c = false) (a b : List Char) :
    tokens (a ++ c :: b) = tokens (a ++ [c]) ++ tokens b := by
  rw [tokens_append (detached_cons h), tokens_append (detached_cons h), tokens_symbol h,
    tokens_symbol h, tokens_nil, List.append_assoc, List.singleton_append]

def MaximalRun (text run : List Char) : Prop :=
  run ≠ [] ∧ (∀ c ∈ run, isNumeric c) ∧ ∃ before after, text = before ++ (run ++ after) ∧
    (∀ c ∈ before.getLast?, isNumeric c = false) ∧ Detached after

theorem MaximalRun.mem {text run : List Char} {c : Char} (h : MaximalRun text run)
    (member : c ∈ run) : c ∈ text := by
  obtain ⟨_, _, before, after, rfl, _⟩ := h
  simp [member]

theorem tokens_of_maximalRun {text run : List Char} (h : MaximalRun text run) :
    .numeral run ∈ tokens text := by
  obtain ⟨nonempty, numeric, before, after, rfl, boundary, detached⟩ := h
  have behind : tokens (before ++ (run ++ after)) = tokens before ++ tokens (run ++ after) := by
    rcases List.eq_nil_or_concat before with rfl | ⟨front, c, rfl⟩
    · rw [tokens_nil, List.nil_append, List.nil_append]
    · rw [List.concat_eq_append, List.append_assoc, List.singleton_append]
      apply tokens_append_symbol
      exact boundary c (by simp)
  rw [behind, tokens_run nonempty numeric detached]
  simp

theorem numeral_place {text run : List Char} {front back : List Token}
    (h : tokens text = front ++ .numeral run :: back) :
    run ≠ [] ∧ (∀ c ∈ run, isNumeric c) ∧ ∃ before after, text = before ++ (run ++ after) ∧
      tokens before = front ∧ (∀ c ∈ before.getLast?, isNumeric c = false) ∧ Detached after := by
  fun_induction tokens text generalizing front with
  | case1 => simp at h
  | case2 c rest numeric ih =>
      cases front with
      | nil =>
          obtain rfl := Token.numeral.inj (List.cons.inj h).1
          exact ⟨List.cons_ne_nil c _, numeric_run numeric rest, [], rest.dropWhile isNumeric,
            by simp, tokens_nil, by simp, detached_dropWhile rest⟩
      | cons token front =>
          obtain ⟨rfl, later⟩ := List.cons.inj h
          obtain ⟨nonempty, isRun, before, after, parts, rfl, boundary, detached⟩ := ih later
          -- Something stands before the run, as the rest does not begin with a numeral.
          have present : before ≠ [] := by
            rintro rfl
            obtain ⟨d, run, rfl⟩ := List.exists_cons_of_ne_nil nonempty
            have first := detached_dropWhile rest d (by rw [parts]; rfl)
            rw [isRun d List.mem_cons_self] at first
            exact Bool.noConfusion first
          have behind : Detached before := Detached.of_append (parts ▸ detached_dropWhile rest)
          refine ⟨nonempty, isRun, c :: rest.takeWhile isNumeric ++ before, after, ?_, ?_, ?_,
            detached⟩
          · rw [List.append_assoc, ← parts]
            simp
          · exact tokens_run (List.cons_ne_nil c _) (numeric_run numeric rest) behind
          · have last : (c :: rest.takeWhile isNumeric ++ before).getLast? = before.getLast? := by
              rw [List.getLast?_append, List.getLast?_eq_some_getLast present]
              rfl
            rwa [last]
  | case3 c rest other ih =>
      cases front with
      | nil => exact absurd (List.cons.inj h).1.symm (Token.numeral_ne_ofSymbol run c)
      | cons token front =>
          obtain ⟨rfl, later⟩ := List.cons.inj h
          obtain ⟨nonempty, isRun, before, after, parts, rfl, boundary, detached⟩ := ih later
          refine ⟨nonempty, isRun, c :: before, after, by rw [parts, List.cons_append],
            tokens_symbol (by simpa using other) before, ?_, detached⟩
          cases before with
          | nil => simpa using other
          | cons d before => rwa [List.getLast?_cons_cons]

theorem maximalRun_of_tokens {text run : List Char} (h : .numeral run ∈ tokens text) :
    MaximalRun text run := by
  obtain ⟨front, back, split⟩ := List.append_of_mem h
  obtain ⟨nonempty, numeric, before, after, parts, _, boundary, detached⟩ := numeral_place split
  exact ⟨nonempty, numeric, before, after, parts, boundary, detached⟩

theorem mem_tokens_numeral {text run : List Char} :
    .numeral run ∈ tokens text ↔ MaximalRun text run :=
  ⟨maximalRun_of_tokens, tokens_of_maximalRun⟩

theorem tokens_split {text : List Char} {front back : List Token}
    (h : tokens text = front ++ back) :
    ∃ a b, text = a ++ b ∧ tokens a = front ∧ tokens b = back := by
  fun_induction tokens text generalizing front with
  | case1 =>
      obtain ⟨rfl, rfl⟩ := List.append_eq_nil_iff.mp h.symm
      exact ⟨[], [], rfl, tokens_nil, tokens_nil⟩
  | case2 c rest numeric ih =>
      cases front with
      | nil =>
          refine ⟨[], c :: rest, rfl, tokens_nil, ?_⟩
          rw [tokens, if_pos numeric]
          exact h
      | cons token front =>
          obtain ⟨rfl, later⟩ := List.cons.inj h
          obtain ⟨a, b, parts, rfl, rfl⟩ := ih later
          refine ⟨(c :: rest.takeWhile isNumeric) ++ a, b, ?_, ?_, rfl⟩
          · rw [List.append_assoc, ← parts]
            simp
          · exact tokens_run (List.cons_ne_nil c _) (numeric_run numeric rest)
              (Detached.of_append (parts ▸ detached_dropWhile rest))
  | case3 c rest other ih =>
      cases front with
      | nil =>
          refine ⟨[], c :: rest, rfl, tokens_nil, ?_⟩
          rw [tokens, if_neg other]
          exact h
      | cons token front =>
          obtain ⟨rfl, later⟩ := List.cons.inj h
          obtain ⟨a, b, rfl, rfl, rfl⟩ := ih later
          exact ⟨c :: a, b, rfl, tokens_symbol (by simpa using other) a, rfl⟩

theorem spelling_of_tokens {text : List Char} {expected : List Token} (h : tokens text = expected) :
    text = expected.flatMap Token.spelling := by
  rw [← h, spelling_tokens]

theorem tokens_split_cons {text : List Char} {token : Token} {back : List Token}
    (h : tokens text = token :: back) : ∃ b, text = token.spelling ++ b ∧ tokens b = back := by
  obtain ⟨a, b, rfl, isToken, isBack⟩ := tokens_split (h.trans (List.singleton_append).symm)
  refine ⟨b, ?_, isBack⟩
  rw [spelling_of_tokens isToken, List.flatMap_singleton]

end Calculator
