import Calculator.Proofs.Canonical

set_option autoImplicit false

namespace Calculator

/-- Whether an operand is due first behind a part of a text: but for spaces nothing stands there, or
an opening bracket stands last. -/
def operandDue (front : List Char) : Bool :=
  (front.filter (!isSpace ·)).getLast?.all (· == '(')

def zerosBehind (front : List Char) : List Char → List Char
  | [] => []
  | c :: rest =>
      (if isOperator c && operandDue front then ['0', c] else [c]) ++
        zerosBehind (front ++ [c]) rest

def withZeros (text : String) : String := String.ofList (zerosBehind [] text.toList)

def insertZeros (due : Bool) : List Char → List Char
  | [] => []
  | c :: rest =>
      if isSpace c then c :: insertZeros due rest
      else if isOperator c && due then '0' :: c :: insertZeros false rest
      else c :: insertZeros (c == '(') rest

theorem operandDue_append (front : List Char) (c : Char) :
    operandDue (front ++ [c]) = if isSpace c then operandDue front else c == '(' := by
  cases space : isSpace c <;> simp [operandDue, space]

theorem not_isSpace_of_isBlank {c : Char} (visible : Text.isBlank c = false) :
    isSpace c = false := by
  refine Bool.eq_false_iff.mpr fun space => ?_
  rw [isBlank_of_isSpace space] at visible
  contradiction

theorem not_isSpace_of_isOperator {c : Char} (h : isOperator c) : isSpace c = false :=
  not_isSpace_of_isBlank (isBlank_of_isOperator h)

theorem zerosBehind_eq (front text : List Char) :
    zerosBehind front text = insertZeros (operandDue front) text := by
  induction text generalizing front with
  | nil => rfl
  | cons c rest ih =>
      rw [zerosBehind, insertZeros, ih, operandDue_append]
      by_cases operator : isOperator c
      · have visible := not_isSpace_of_isOperator operator
        have notOpening : (c == '(') = false :=
          beq_eq_false_iff_ne.mpr (ne_brackets_of_isOperator operator).1
        cases operandDue front <;> simp [operator, visible, notOpening]
      · cases isSpace c <;> simp [operator]

theorem toList_withZeros (text : String) :
    (withZeros text).toList = insertZeros true text.toList := by
  rw [withZeros, String.toList_ofList, zerosBehind_eq]
  rfl

section Characters

variable {c : Char} {due : Bool} {rest : List Char}

theorem insertZeros_space : insertZeros due (' ' :: rest) = ' ' :: insertZeros due rest := by
  rw [insertZeros, if_pos (by decide)]

theorem insertZeros_plain (visible : isSpace c = false) (plain : isOperator c = false) :
    insertZeros due (c :: rest) = c :: insertZeros (c == '(') rest := by
  simp [insertZeros, visible, plain]

theorem insertZeros_numeric (h : isNumeric c) :
    insertZeros due (c :: rest) = c :: insertZeros false rest := by
  have visible := not_isSpace_of_isBlank (isBlank_of_isNumeric h)
  rw [insertZeros_plain visible (not_isOperator_of_isNumeric h),
    beq_eq_false_iff_ne.mpr (ne_brackets_of_isNumeric h).1]

theorem insertZeros_opening : insertZeros due ('(' :: rest) = '(' :: insertZeros true rest :=
  insertZeros_plain (by decide) (by decide)

theorem insertZeros_closing : insertZeros due (')' :: rest) = ')' :: insertZeros false rest :=
  insertZeros_plain (by decide) (by decide)

theorem insertZeros_operator (h : isOperator c) :
    insertZeros false (c :: rest) = c :: insertZeros false rest := by
  have notOpening : (c == '(') = false := beq_eq_false_iff_ne.mpr (ne_brackets_of_isOperator h).1
  simp [insertZeros, not_isSpace_of_isOperator h, notOpening]

theorem insertZeros_leading (h : isOperator c) :
    insertZeros true (c :: rest) = '0' :: c :: insertZeros false rest := by
  simp [insertZeros, not_isSpace_of_isOperator h, h]

theorem insertZeros_spaces {spaces : List Char} (h : Spaces spaces) :
    insertZeros due (spaces ++ rest) = spaces ++ insertZeros due rest := by
  induction spaces with
  | nil => rfl
  | cons c spaces ih =>
      obtain ⟨rfl, others⟩ := h.of_cons
      rw [List.cons_append, insertZeros_space, ih others, List.cons_append]

theorem insertZeros_run {run : List Char} (nonempty : run ≠ []) (numeric : ∀ c ∈ run, isNumeric c) :
    insertZeros due (run ++ rest) = run ++ insertZeros false rest := by
  induction run generalizing due with
  | nil => contradiction
  | cons c run ih =>
      obtain ⟨first, others⟩ := List.forall_mem_cons.mp numeric
      rw [List.cons_append, insertZeros_numeric first, List.cons_append]
      cases run with
      | nil => rfl
      | cons d run => rw [ih (List.cons_ne_nil d run) others]

end Characters

def ZerosTo (due : Bool) (text text' : List Char) : Prop :=
  ∀ rest, insertZeros due (text ++ rest) = text' ++ insertZeros false rest

section Parts

variable {due : Bool} {c : Char} {a a' b b' : List Char}

theorem zerosTo_nil : ZerosTo false [] [] := fun _ => rfl

theorem zerosTo_run {run : List Char} (nonempty : run ≠ []) (numeric : ∀ c ∈ run, isNumeric c) :
    ZerosTo due run run :=
  fun _ => insertZeros_run nonempty numeric

theorem zerosTo_spaces {spaces : List Char} (h : Spaces spaces) : ZerosTo false spaces spaces :=
  fun _ => insertZeros_spaces h

theorem ZerosTo.append (first : ZerosTo due a a') (second : ZerosTo false b b') :
    ZerosTo due (a ++ b) (a' ++ b') := by
  intro rest
  rw [List.append_assoc, first, second, List.append_assoc]

theorem ZerosTo.after_spaces {spaces : List Char} (h : Spaces spaces) (text : ZerosTo due a a') :
    ZerosTo due (spaces ++ a) (spaces ++ a') := by
  intro rest
  rw [List.append_assoc, insertZeros_spaces h, text, List.append_assoc]

theorem ZerosTo.opening (inner : ZerosTo true a a') : ZerosTo due ('(' :: a) ('(' :: a') := by
  intro rest
  rw [List.cons_append, insertZeros_opening, inner, List.cons_append]

theorem ZerosTo.closing (later : ZerosTo false a a') : ZerosTo due (')' :: a) (')' :: a') := by
  intro rest
  rw [List.cons_append, insertZeros_closing, later, List.cons_append]

theorem ZerosTo.operator (operator : isOperator c) (operand : ZerosTo false a a') :
    ZerosTo false (c :: a) (c :: a') := by
  intro rest
  rw [List.cons_append, insertZeros_operator operator, operand, List.cons_append]

theorem ZerosTo.leading (operator : isOperator c) (operand : ZerosTo false a a') :
    ZerosTo true (c :: a) ('0' :: c :: a') := by
  intro rest
  rw [List.cons_append, insertZeros_leading operator, operand, List.cons_append, List.cons_append]

end Parts

def Phrase.Takes : Phrase → Bool → Prop
  | expression, due => due = true
  | tail, due => due = false
  | operand, _ | bracket, _ => True

def ZerosKeep (phrase : Phrase) (due : Bool) (text : List Char) : Prop :=
  ∃ text', Derives phrase text' ∧ ZerosTo due text text'

theorem zerosKeep_signed {before operand tail : List Char} {c : Char} (spaces : Spaces before)
    (operator : isOperator c) (isOperand : ZerosKeep .operand false operand)
    (isTail : ZerosKeep .tail false tail) :
    ZerosKeep .expression true (before ++ c :: (operand ++ tail)) := by
  obtain ⟨operand', derives, operandZeros⟩ := isOperand
  obtain ⟨tail', tailDerives, tailZeros⟩ := isTail
  have digits : Digits ['0'] := ⟨by simp, by simp⟩
  have zero := Derives.number spaces (.whole digits) spaces_nil
  have expression := Derives.plain zero (.next (isOperator_iff.mp operator) derives tailDerives)
  rw [List.append_nil, List.append_assoc, List.singleton_append] at expression
  exact ⟨_, expression, .after_spaces spaces (.leading operator (operandZeros.append tailZeros))⟩

theorem Derives.zerosKeep {phrase : Phrase} {text : List Char} (h : Derives phrase text)
    {due : Bool} (takes : phrase.Takes due) : ZerosKeep phrase due text := by
  induction h generalizing due with
  | number spacesBefore isNumeral spacesAfter =>
      obtain ⟨c, others, rfl, _⟩ := isNumeral.head_isDigit
      have run : ZerosTo due _ _ := zerosTo_run (List.cons_ne_nil c others) isNumeral.numeric
      exact ⟨_, .number spacesBefore isNumeral spacesAfter,
        .after_spaces spacesBefore (run.append (zerosTo_spaces spacesAfter))⟩
  | bracket spacesBefore _ spacesAfter ih =>
      obtain ⟨inner', derives, zeros⟩ := ih rfl
      have enclosed : ZerosTo due _ _ :=
        .opening (zeros.append (.closing (zerosTo_spaces spacesAfter)))
      exact ⟨_, .bracket spacesBefore derives spacesAfter, .after_spaces spacesBefore enclosed⟩
  | bracketed _ ih =>
      obtain ⟨text', derives, zeros⟩ := ih takes
      exact ⟨text', .bracketed derives, zeros⟩
  | done =>
      obtain rfl := takes
      exact ⟨[], .done, zerosTo_nil⟩
  | next operator _ _ operandStep tailStep =>
      obtain rfl := takes
      obtain ⟨operand', operandDerives, operandZeros⟩ := operandStep trivial
      obtain ⟨tail', tailDerives, tailZeros⟩ := tailStep rfl
      exact ⟨_, .next operator operandDerives tailDerives,
        .operator (isOperator_iff.mpr operator) (operandZeros.append tailZeros)⟩
  | plain _ _ operandStep tailStep =>
      obtain ⟨operand', operandDerives, operandZeros⟩ := operandStep trivial
      obtain ⟨tail', tailDerives, tailZeros⟩ := tailStep rfl
      exact ⟨_, .plain operandDerives tailDerives, operandZeros.append tailZeros⟩
  | signed spaces additive _ _ operandStep tailStep =>
      obtain rfl := takes
      have isOperator := isOperator_of_isAdditive (isAdditive_iff.mpr additive)
      exact zerosKeep_signed spaces isOperator (operandStep trivial) (tailStep rfl)
  | scaled spaces multiplicative _ _ bracketStep tailStep =>
      obtain rfl := takes
      obtain ⟨bracket', derives, zeros⟩ := bracketStep trivial
      have isOperator := isOperator_of_isMultiplicative (isMultiplicative_iff.mpr multiplicative)
      exact zerosKeep_signed spaces isOperator ⟨bracket', .bracketed derives, zeros⟩ (tailStep rfl)

theorem ZerosTo.insertZeros_eq {due : Bool} {text text' : List Char} (h : ZerosTo due text text') :
    insertZeros due text = text' := by
  simpa [insertZeros] using h []

theorem isValid_withZeros {text : String} (h : isValid text) : isValid (withZeros text) := by
  rcases derives_of_isValid h with blank | expression
  · apply isValid_of_spaces
    have same : insertZeros true (text.toList ++ []) = text.toList ++ insertZeros true [] :=
      insertZeros_spaces blank
    rw [toList_withZeros, ← List.append_nil text.toList, same]
    simpa [insertZeros] using blank
  · apply isValid_of_derives
    obtain ⟨text', derives, zeros⟩ := expression.zerosKeep rfl
    rwa [toList_withZeros, zeros.insertZeros_eq]

theorem canonicalChars_insertZeros {text : List Char} (acceptable : ∀ c ∈ text, isAcceptable c)
    (due : Bool) :
    canonicalChars (insertZeros due text) = insertZeros due (canonicalChars text) := by
  have numeric {c : Char} (h : isNumeric c) (rest : List Char) :
      canonicalChars (c :: rest) = canonicalChar c :: canonicalChars rest := by
    simp [canonicalChars, isBlank_of_isNumeric h]
  induction text generalizing due with
  | nil => rfl
  | cons c rest ih =>
      obtain ⟨first, others⟩ := List.forall_mem_cons.mp acceptable
      have step := ih others
      by_cases isNumber : isNumeric c
      · rw [insertZeros_numeric isNumber, numeric isNumber, numeric isNumber,
          insertZeros_numeric (isNumeric_canonicalChar isNumber), step]
      by_cases operator : isOperator c
      · cases due with
        | true =>
            rw [insertZeros_leading operator, numeric (by decide), canonicalChars_operator operator,
              canonicalChars_operator operator, insertZeros_leading operator, step]
            rfl
        | false =>
            rw [insertZeros_operator operator, canonicalChars_operator operator,
              canonicalChars_operator operator, insertZeros_operator operator, step]
      rcases isAcceptable_cases first with rfl | digit | separator | isOperator | rfl | rfl
      · rw [insertZeros_space, canonicalChars_blank (by decide), canonicalChars_blank (by decide),
          step]
      · exact absurd (isNumeric_of_isDigit digit) isNumber
      · exact absurd (isNumeric_of_isSeparator separator) isNumber
      · contradiction
      · rw [insertZeros_opening, canonicalChars_opening, canonicalChars_opening,
          insertZeros_opening, step]
      · rw [insertZeros_closing, canonicalChars_closing, canonicalChars_closing,
          insertZeros_closing, step]

theorem toList_canonical_withZeros {text : String} (h : isValid text) :
    (canonical (withZeros text)).toList = insertZeros true (canonical text).toList := by
  rw [toList_canonical, toList_canonical, toList_withZeros]
  exact canonicalChars_insertZeros ((isValid_iff_passes text).mp h).symbols true

end Calculator
