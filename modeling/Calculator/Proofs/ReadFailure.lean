import Calculator.Proofs.Brackets
import Calculator.Proofs.Separation

set_option autoImplicit false

namespace Calculator

def isLegible (c : Char) : Bool := c.isDigit || c == '.' || isOperator c || isBracket c

def Token.HasValue : Token → Prop
  | numeral run => ∃ value, numeralValue? run = some value ∧ value.isFinite
  | _ => True

theorem tokens_bracket (inside after : List Char) :
    tokens ('(' :: (inside ++ ')' :: after)) =
      .opening :: (tokens inside ++ .closing :: tokens after) := by
  rw [tokens_opening, tokens_append (detached_cons (by decide)), tokens_closing]

theorem tokens_enclosed_append (inside after : List Char) :
    tokens ('(' :: (inside ++ [')']) ++ after) =
      tokens ('(' :: (inside ++ [')'])) ++ tokens after := by
  rw [List.cons_append, List.append_assoc, List.singleton_append]
  exact tokens_append_symbol (by decide) ('(' :: inside) after

structure Cleared (text : List Char) : Prop where
  legible : ∀ c ∈ text, isLegible c
  balanced : Balanced text
  valued : ∀ token ∈ tokens text, token.HasValue

namespace Cleared

variable {front rest text run : List Char}

theorem nil : Cleared [] := ⟨by simp, balanced_of_plain (by simp), by simp⟩

theorem append (first : Cleared front) (second : Cleared rest)
    (apart : tokens (front ++ rest) = tokens front ++ tokens rest) : Cleared (front ++ rest) := by
  refine ⟨?_, first.balanced.append second.balanced, ?_⟩
  · exact fun c member => (List.mem_append.mp member).elim (first.legible c) (second.legible c)
  · rw [apart]
    exact fun token member =>
      (List.mem_append.mp member).elim (first.valued token) (second.valued token)

theorem enclosed (h : Cleared text) : Cleared ('(' :: (text ++ [')'])) := by
  refine ⟨?_, h.balanced.enclosed, ?_⟩
  · simp only [List.forall_mem_cons, List.forall_mem_append]
    exact ⟨by decide, h.legible, by decide, by simp⟩
  · rw [tokens_bracket, tokens_nil]
    simp only [List.forall_mem_cons, List.forall_mem_append]
    exact ⟨trivial, h.valued, trivial, by simp⟩

theorem numeral {value : Float} (read : numeralValue? run = some value) (finite : value.isFinite) :
    Cleared run := by
  obtain ⟨nonempty, numeric⟩ := numeralValue?_run read
  obtain ⟨d, isDecimal, _⟩ := Option.map_eq_some_iff.mp read
  refine ⟨fun c member => ?_, balanced_of_plain fun c member => ?_, ?_⟩
  · rcases (ofNumeral?_run isDecimal).2 c member with digit | rfl
    · simp [isLegible, digit]
    · decide
  · exact ne_brackets_of_isNumeric (numeric c member)
  · rw [tokens_numeral nonempty numeric, List.forall_mem_singleton]
    exact ⟨value, read, finite⟩

theorem operator (op : Operator) : Cleared [op.symbol] := by
  refine ⟨?_, balanced_of_plain ?_, ?_⟩
  · rw [List.forall_mem_singleton]
    simp [isLegible, isOperator_symbol]
  · rw [List.forall_mem_singleton]
    exact ne_brackets_of_isOperator (isOperator_symbol op)
  · rw [tokens_operator, tokens_nil, List.forall_mem_singleton]
    trivial

end Cleared

theorem Reads.cleared {levels : Nat} {text : List Char} {items : List Item}
    (h : Reads levels text items) : Cleared text ∧ ExcessAtMost '(' ')' levels text := by
  induction h with
  | nil => exact ⟨.nil, excessAtMost_nil⟩
  | @bracket levels inside after _ _ _ _ _ _ _ insideStep afterStep =>
      obtain ⟨inside, insideShallow⟩ := insideStep
      obtain ⟨after, afterShallow⟩ := afterStep
      have front := inside.enclosed
      rw [← List.singleton_append (x := ')'), ← List.append_assoc, ← List.cons_append]
      refine ⟨front.append after (tokens_enclosed_append _ _), ?_⟩
      rw [excessAtMost_append front.balanced.even, excessAtMost_enclosed inside.balanced.even]
      exact ⟨insideShallow, afterShallow⟩
  | numeral read finite detached _ step =>
      have front := Cleared.numeral read finite
      refine ⟨front.append step.1 (tokens_append detached), ?_⟩
      rw [excessAtMost_append front.balanced.even]
      have noOpening : '(' ∉ _ := fun member =>
        (ne_brackets_of_isNumeric ((numeralValue?_run read).2 _ member)).1 rfl
      exact ⟨excessAtMost_of_notMem noOpening, step.2⟩
  | @operator _ op rest _ _ step =>
      have front := Cleared.operator op
      refine ⟨front.append step.1 (tokens_append_symbol (not_isNumeric_symbol op) [] rest), ?_⟩
      obtain ⟨notOpening, notClosing⟩ := ne_brackets_of_isOperator (isOperator_symbol op)
      exact (excessAtMost_other notOpening notClosing).mpr step.2

-- `offset` is the place of the text in the whole one.
inductive Fails (limit levels offset : Nat) (text : List Char) : Failure → Prop where
  | unbalanced {before after : List Char} {c : Char} :
      text = before ++ c :: after → Balanced before →
      c = ')' ∨ c = '(' ∧ ExcessAtMost ')' '(' 0 after →
      Fails limit levels offset text (.unbalancedBracket (offset + utf8Length before))
  | tooDeep {front : List Char} :
      front <+: text → front.count ')' + levels < front.count '(' →
      Fails limit levels offset text (.nestedTooDeep limit)
  | unreadable {before after : List Token} {run : List Char} :
      tokens text = before ++ .numeral run :: after → (∀ token ∈ before, token.HasValue) →
      numeralValue? run = none →
      Fails limit levels offset text (.unreadableNumber (String.ofList run))
  | nonFinite {before after : List Token} {run : List Char} {value : Float} :
      tokens text = before ++ .numeral run :: after → (∀ token ∈ before, token.HasValue) →
      numeralValue? run = some value → value.isFinite = false →
      Fails limit levels offset text .nonFinite
  | unexpected {before after : List Char} {c : Char} :
      text = before ++ c :: after → (∀ d ∈ before, isLegible d) →
      isNumeric c = false → isOperator c = false → isBracket c = false →
      Fails limit levels offset text (.unexpectedSymbol c (offset + utf8Length before))
  | missing : ¬Separated text → Fails limit levels offset text .missingOperator

section Places

variable {limit levels offset : Nat} {front rest inside : List Char} {failure : Failure}

theorem Fails.behind (h : Fails limit levels (offset + utf8Length front) rest failure)
    (cleared : Cleared front) (apart : tokens (front ++ rest) = tokens front ++ tokens rest) :
    Fails limit levels offset (front ++ rest) failure := by
  cases h with
  | unbalanced whole balanced bracket =>
      rw [Nat.add_assoc, ← utf8Length_append]
      have front := cleared.balanced.append balanced
      exact .unbalanced (by rw [whole, List.append_assoc]) front bracket
  | @tooDeep deep isFront many =>
      have even := cleared.balanced.even
      apply Fails.tooDeep ((List.prefix_append_right_inj front).mpr isFront)
      rw [List.count_append, List.count_append]
      omega
  | unreadable whole valued unreadable =>
      rw [whole, ← List.append_assoc] at apart
      exact .unreadable apart (List.forall_mem_append.mpr ⟨cleared.valued, valued⟩) unreadable
  | nonFinite whole valued value large =>
      rw [whole, ← List.append_assoc] at apart
      exact .nonFinite apart (List.forall_mem_append.mpr ⟨cleared.valued, valued⟩) value large
  | unexpected whole legible notNumeric notOperator notBracket =>
      rw [Nat.add_assoc, ← utf8Length_append]
      exact .unexpected (by rw [whole, List.append_assoc])
        (List.forall_mem_append.mpr ⟨cleared.legible, legible⟩) notNumeric notOperator notBracket
  | missing joined =>
      apply Fails.missing
      intro separated
      exact joined separated.right_of_append

theorem Fails.enclosed (h : Fails limit levels (offset + 1) inside failure)
    (balanced : Balanced inside) (after : List Char) :
    Fails limit (levels + 1) offset ('(' :: (inside ++ ')' :: after)) failure := by
  have within {before later : List Token} {token : Token}
      (whole : tokens inside = before ++ token :: later) :
      tokens ('(' :: (inside ++ ')' :: after)) =
        (.opening :: before) ++ token :: (later ++ .closing :: tokens after) := by
    rw [tokens_bracket, whole]
    simp
  cases h with
  | unbalanced whole front bracket =>
      rw [whole] at balanced
      exact absurd bracket (balanced.matched front)
  | @tooDeep deep isFront many =>
      have longer := isFront.trans (List.prefix_append inside (')' :: after))
      apply Fails.tooDeep (List.cons_prefix_cons.mpr ⟨rfl, longer⟩)
      rw [List.count_cons_self, List.count_cons_of_ne (by decide)]
      omega
  | unreadable whole valued unreadable =>
      exact .unreadable (within whole) (List.forall_mem_cons.mpr ⟨trivial, valued⟩) unreadable
  | nonFinite whole valued value large =>
      exact .nonFinite (within whole) (List.forall_mem_cons.mpr ⟨trivial, valued⟩) value large
  | @unexpected before later c whole legible notNumeric notOperator notBracket =>
      have place : offset + 1 + utf8Length before = offset + utf8Length ('(' :: before) := by
        rw [utf8Length, show '('.utf8Size = 1 from rfl, Nat.add_assoc]
      have parts : '(' :: (inside ++ ')' :: after) =
          '(' :: before ++ c :: (later ++ ')' :: after) := by
        rw [whole]
        simp
      rw [place]
      exact .unexpected parts (List.forall_mem_cons.mpr ⟨by decide, legible⟩) notNumeric notOperator
        notBracket
  | missing joined =>
      apply Fails.missing
      intro separated
      apply joined
      exact List.IsChain.infix separated ⟨['('], ')' :: after, by simp⟩

end Places

theorem Reads.fails_of_group {limit levels offset : Nat} {text : List Char} {items : List Item}
    {failure : Failure} (h : Reads levels text items) (failed : Item.group items = .error failure) :
    Fails limit levels offset text failure := by
  obtain rfl := Item.group_error failed
  apply Fails.missing
  intro separated
  obtain ⟨e, grouped⟩ := h.group_ok_iff.mpr separated
  rw [grouped] at failed
  contradiction

theorem fails_of_readNumber {limit levels offset : Nat} {run after : List Char} {failure : Failure}
    (nonempty : run ≠ []) (numeric : ∀ c ∈ run, isNumeric c) (detached : Detached after)
    (failed : readNumber run = .error failure) :
    Fails limit levels offset (run ++ after) failure := by
  have first : tokens (run ++ after) = [] ++ .numeral run :: tokens after :=
    tokens_run nonempty numeric detached
  cases read : numeralValue? run with
  | none =>
      have unread : Decimal.ofNumeral? run = none := Option.map_eq_none_iff.mp read
      simp only [readNumber, unread] at failed
      cases failed
      exact .unreadable first (by simp) read
  | some value =>
      rw [readNumber_of_value read] at failed
      by_cases finite : value.isFinite
      · rw [if_pos finite] at failed
        contradiction
      · rw [if_neg finite] at failed
        cases failed
        exact .nonFinite first (by simp) read (by simpa using finite)

-- A failure is raised at one piece of the text. The pieces before it could be read, and the
-- brackets around it match.
theorem fails_of_readItems {limit levels offset : Nat} {text : List Char} {failure : Failure}
    (h : readItems limit levels offset text = .error failure) :
    Fails limit levels offset text failure := by
  have here (c : Char) (rest : List Char) : c :: rest = [] ++ c :: rest := rfl
  induction levels, offset, text using reading_induction with
  | nil =>
      rw [readItems_nil] at h
      contradiction
  | unclosed _ _ _ missing =>
      rw [readItems_unclosed missing] at h
      cases h
      exact .unbalanced (here _ _) Cleared.nil.balanced
        (.inr ⟨rfl, backed_of_splitClosing_none missing⟩)
  | tooDeep _ _ _ found =>
      rw [readItems_tooDeep found] at h
      cases h
      exact .tooDeep (List.prefix_append ['('] _) (by decide)
  | bracket levels offset inside after found insideStep afterStep =>
      rw [readItems_bracket found] at h
      rcases bind_error_iff.mp h with failed | ⟨inner, insideRead, h⟩
      · exact (insideStep failed).enclosed (balanced_of_splitClosing found) after
      have reads := reads_of_readItems insideRead
      have cleared := reads.cleared.1
      rcases bind_error_iff.mp h with failed | ⟨e, _, h⟩
      · exact (reads.fails_of_group failed).enclosed cleared.balanced after
      rcases bind_error_iff.mp h with failed | ⟨others, _, h⟩
      · rw [Nat.add_assoc, ← utf8Length_enclosed] at afterStep failed
        have behind := (afterStep failed).behind cleared.enclosed (tokens_enclosed_append _ _)
        rwa [List.cons_append, List.append_assoc] at behind
      · contradiction
  | closing =>
      rw [readItems_closing] at h
      cases h
      exact .unbalanced (here _ _) Cleared.nil.balanced (.inl rfl)
  | numeral _ _ run after nonempty numeric detached step =>
      rw [readItems_run nonempty numeric detached] at h
      rcases bind_error_iff.mp h with failed | ⟨value, read, h⟩
      · exact fails_of_readNumber nonempty numeric detached failed
      rcases bind_error_iff.mp h with failed | ⟨others, _, h⟩
      · obtain ⟨isValue, finite⟩ := readNumber_ok.mp read
        exact (step failed).behind (.numeral isValue finite) (tokens_append detached)
      · contradiction
  | operator _ _ op rest step =>
      rw [readItems_operator] at h
      rcases bind_error_iff.mp h with failed | ⟨others, _, h⟩
      · have size : utf8Length [op.symbol] = 1 := utf8Size_symbol op
        rw [← size] at step failed
        have tokensApart := tokens_append_symbol (not_isNumeric_symbol op) [] rest
        exact (step failed).behind (.operator op) tokensApart
      · contradiction
  | stray _ _ c rest notBracket notNumeric unknown =>
      rw [readItems_stray notBracket notNumeric unknown] at h
      cases h
      have notOperator : isOperator c = false := by
        refine Bool.eq_false_iff.mpr fun operator => ?_
        obtain ⟨op, known⟩ := isOperator_iff_ofSymbol?.mp operator
        rw [known] at unknown
        contradiction
      have other : isBracket c = false := by simp [isBracket, notBracket]
      exact .unexpected (here c rest) (by simp) notNumeric notOperator other

theorem Expr.fails_of_read {limit : Nat} {text : String} {failure : Failure}
    (h : Expr.read limit text = .error failure) : Fails limit limit 0 text.toList failure := by
  rcases bind_error_iff.mp h with failed | ⟨items, read, failed⟩
  · exact fails_of_readItems failed
  · exact (reads_of_readItems read).fails_of_group failed

end Calculator
