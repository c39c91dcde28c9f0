import Calculator.Proofs.ReadFailure

set_option autoImplicit false

namespace Calculator

theorem utf8ByteSize_ofList (text : List Char) :
    (String.ofList text).utf8ByteSize = utf8Length text := by
  induction text with
  | nil => rfl
  | cons c rest ih =>
      rw [← List.singleton_append, String.ofList_append, String.utf8ByteSize_append, ih]
      simp [utf8Length]

def isNotation (c : Char) : Bool := isNumeric c || isOperator c || isBracket c

section Runs

variable {run text : List Char}

def Malformed (run : List Char) : Prop :=
  ',' ∈ run ∨ 1 < run.count '.' ∨ ∀ c ∈ run, c.isDigit = false

def Overflows (run : List Char) : Prop :=
  ∃ value, numeralValue? run = some value ∧ value.isFinite = false

def HasFiniteValue (run : List Char) : Prop :=
  ∃ value, numeralValue? run = some value ∧ value.isFinite

structure FirstSuspect (text run : List Char) : Prop where
  nonempty : run ≠ []
  numeric : ∀ c ∈ run, isNumeric c
  place : ∃ before after, text = before ++ (run ++ after) ∧
    (∀ c ∈ before.getLast?, isNumeric c = false) ∧ Detached after ∧
    ∀ earlier, MaximalRun before earlier → ¬Malformed earlier ∧ HasFiniteValue earlier

theorem malformed_iff (numeric : ∀ c ∈ run, isNumeric c) :
    Malformed run ↔ numeralValue? run = none := by
  have noDigit : (¬∃ c ∈ run, c.isDigit) ↔ ∀ c ∈ run, c.isDigit = false := by simp
  rw [← Option.not_isSome_iff_eq_none, Option.isSome_iff_exists, exists_numeralValue?_iff numeric,
    not_and_or, not_and_or, not_not, Nat.not_le, noDigit, Malformed]

theorem not_malformed_of_hasFiniteValue (numeric : ∀ c ∈ run, isNumeric c)
    (h : HasFiniteValue run) : ¬Malformed run := by
  obtain ⟨value, read, _⟩ := h
  rw [malformed_iff numeric, read]
  simp

theorem firstSuspect_of_tokens {front back : List Token}
    (whole : tokens text = front ++ .numeral run :: back)
    (valued : ∀ token ∈ front, token.HasValue) : FirstSuspect text run := by
  obtain ⟨nonempty, numeric, before, after, parts, rfl, boundary, detached⟩ := numeral_place whole
  refine ⟨nonempty, numeric, before, after, parts, boundary, detached, ?_⟩
  intro earlier isRun
  have finite : HasFiniteValue earlier := valued _ (mem_tokens_numeral.mpr isRun)
  exact ⟨not_malformed_of_hasFiniteValue isRun.2.1 finite, finite⟩

end Runs

-- Offsets count the bytes of what stands before a character.
def Failure.TrueOf (limit : Nat) (text : List Char) : Failure → Prop
  | divisionByZero => False
  | nonFinite => ∃ run, FirstSuspect text run ∧ Overflows run
  | unreadableNumber literal => FirstSuspect text literal.toList ∧ Malformed literal.toList
  | unexpectedSymbol c offset => isNotation c = false ∧ ∃ before after,
      text = before ++ c :: after ∧ (String.ofList before).utf8ByteSize = offset ∧
        ∀ d ∈ before, isNotation d
  | unbalancedBracket offset => ∃ before c after, text = before ++ c :: after ∧
      (String.ofList before).utf8ByteSize = offset ∧ isBracket c
  | missingOperator => ∃ before a b after, text = before ++ a :: b :: after ∧
      (isNumeric a ∧ b = '(' ∨ a = ')' ∧ (isNumeric b ∨ b = '('))
  | nestedTooDeep exceeded => exceeded = limit ∧
      ∃ front, front <+: text ∧ front.count ')' + limit < front.count '('

theorem isNotation_of_isLegible {c : Char} (h : isLegible c) : isNotation c := by
  simp only [isLegible, Bool.or_eq_true, beq_iff_eq] at h
  rcases h with ((digit | rfl) | operator) | bracket
  · simp [isNotation, isNumeric_of_isDigit digit]
  · decide
  · simp [isNotation, operator]
  · simp [isNotation, bracket]

theorem exists_missing_operator {text : List Char} (h : ¬Separated text) :
    ∃ before a b after, text = before ++ a :: b :: after ∧
      (isNumeric a ∧ b = '(' ∨ a = ')' ∧ (isNumeric b ∨ b = '(')) := by
  rw [Separated, List.isChain_iff_forall_rel_of_append_cons_cons] at h
  simp only [not_forall] at h
  obtain ⟨a, b, before, after, parts, joined⟩ := h
  exact ⟨before, a, b, after, parts, or_iff_not_and_not.mpr joined⟩

theorem Fails.trueOf {limit : Nat} {text : List Char} {failure : Failure}
    (h : Fails limit limit 0 text failure) : failure.TrueOf limit text := by
  cases h with
  | @unbalanced before after c parts _ bracket =>
      refine ⟨before, c, after, parts, by rw [utf8ByteSize_ofList, Nat.zero_add], ?_⟩
      rcases bracket with rfl | ⟨rfl, _⟩ <;> decide
  | tooDeep isFront many => exact ⟨rfl, _, isFront, many⟩
  | @unreadable _ _ run whole valued unreadable =>
      have suspect := firstSuspect_of_tokens whole valued
      simp only [Failure.TrueOf, String.toList_ofList]
      exact ⟨suspect, (malformed_iff suspect.numeric).mpr unreadable⟩
  | nonFinite whole valued value large =>
      exact ⟨_, firstSuspect_of_tokens whole valued, _, value, large⟩
  | @unexpected before after c parts legible notNumeric notOperator notBracket =>
      refine ⟨by simp [isNotation, notNumeric, notOperator, notBracket], before, after, parts,
        by rw [utf8ByteSize_ofList, Nat.zero_add], ?_⟩
      exact fun d member => isNotation_of_isLegible (legible d member)
  | missing joined => exact exists_missing_operator joined

theorem Expr.trueOf_of_read {limit : Nat} {text : String} {failure : Failure}
    (h : Expr.read limit text = .error failure) : failure.TrueOf limit text.toList :=
  (Expr.fails_of_read h).trueOf

theorem Expr.trueOf_of_read_comma :
    Expr.read 1 "(1.5)-2,5+é" = .error (.unreadableNumber "2,5") ∧
      (Failure.unreadableNumber "2,5").TrueOf 1 "(1.5)-2,5+é".toList ∧
      (Failure.unexpectedSymbol 'é' 6).TrueOf 1 "(1.5)-é+2,5".toList := by
  have comma : Expr.read 1 "(1.5)-2,5+é" = .error (.unreadableNumber "2,5") := by decide +kernel
  have letter : Expr.read 1 "(1.5)-é+2,5" = .error (.unexpectedSymbol 'é' 6) := by decide +kernel
  exact ⟨comma, Expr.trueOf_of_read comma, Expr.trueOf_of_read letter⟩

end Calculator
