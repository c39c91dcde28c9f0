import Calculator.Expr.Reading
import Calculator.Proofs.Grouping
import Calculator.Proofs.Spelling

set_option autoImplicit false

namespace Calculator

section Equations

variable {limit levels offset : Nat} {c : Char} {rest : List Char}

theorem readItems_nil : readItems limit levels offset [] = .ok [] := by rw [readItems]

theorem readItems_unclosed (missing : splitClosing 0 rest = none) :
    readItems limit levels offset ('(' :: rest) = .error (.unbalancedBracket offset) := by
  rw [readItems, if_pos rfl]
  split
  · rfl
  · simp_all

theorem readItems_tooDeep {found : List Char × List Char}
    (split : splitClosing 0 rest = some found) :
    readItems limit 0 offset ('(' :: rest) = .error (.nestedTooDeep limit) := by
  rw [readItems, if_pos rfl]
  split
  · simp_all
  · rfl

theorem readItems_bracket {inside after : List Char}
    (found : splitClosing 0 rest = some (inside, after)) :
    readItems limit (levels + 1) offset ('(' :: rest) = do
      let e ← Item.group (← readItems limit levels (offset + 1) inside)
      let items ← readItems limit (levels + 1) (offset + utf8Length inside + 2) after
      return .operand (.bracketed e) :: items := by
  rw [readItems, if_pos rfl]
  split
  · simp_all
  · rename_i inside' after' found'
    obtain ⟨rfl, rfl⟩ := Prod.mk.inj (Option.some.inj (found'.symm.trans found))
    rfl

theorem readItems_closing :
    readItems limit levels offset (')' :: rest) = .error (.unbalancedBracket offset) := by
  rw [readItems, if_neg (by decide), if_pos rfl]

theorem readItems_numeral (numeric : isNumeric c) :
    readItems limit levels offset (c :: rest) = do
      let value ← readNumber (c :: rest.takeWhile isNumeric)
      let items ← readItems limit levels (offset + utf8Length (c :: rest.takeWhile isNumeric))
        (rest.dropWhile isNumeric)
      return .operand (.number value) :: items := by
  obtain ⟨opening, closing⟩ := ne_brackets_of_isNumeric numeric
  rw [readItems, if_neg opening, if_neg closing, if_pos numeric]

theorem readItems_operator (op : Operator) :
    readItems limit levels offset (op.symbol :: rest) = do
      let items ← readItems limit levels (offset + 1) rest
      return .operator op :: items := by
  obtain ⟨opening, closing⟩ := ne_brackets_of_isOperator (isOperator_symbol op)
  rw [readItems, if_neg opening, if_neg closing, if_neg (by simp [not_isNumeric_symbol])]
  rw [Operator.ofSymbol?_symbol]

theorem readItems_stray (notBracket : c ≠ '(' ∧ c ≠ ')') (notNumeric : isNumeric c = false)
    (notOperator : Operator.ofSymbol? c = none) :
    readItems limit levels offset (c :: rest) = .error (.unexpectedSymbol c offset) := by
  rw [readItems, if_neg notBracket.1, if_neg notBracket.2, if_neg (by simp [notNumeric])]
  rw [notOperator]

theorem readItems_run {run after : List Char} (nonempty : run ≠ [])
    (numeric : ∀ c ∈ run, isNumeric c) (detached : Detached after) :
    readItems limit levels offset (run ++ after) = do
      let value ← readNumber run
      let items ← readItems limit levels (offset + utf8Length run) after
      return .operand (.number value) :: items := by
  obtain ⟨c, run, rfl⟩ := List.exists_cons_of_ne_nil nonempty
  obtain ⟨first, others⟩ := List.forall_mem_cons.mp numeric
  rw [List.cons_append, readItems_numeral first, takeWhile_run others detached,
    dropWhile_run others detached]

end Equations

@[elab_as_elim]
theorem reading_induction {motive : Nat → Nat → List Char → Prop}
    (nil : ∀ levels offset, motive levels offset [])
    (unclosed : ∀ levels offset rest, splitClosing 0 rest = none →
      motive levels offset ('(' :: rest))
    (tooDeep : ∀ offset inside after,
      splitClosing 0 (inside ++ ')' :: after) = some (inside, after) →
      motive 0 offset ('(' :: (inside ++ ')' :: after)))
    (bracket : ∀ levels offset inside after,
      splitClosing 0 (inside ++ ')' :: after) = some (inside, after) →
      motive levels (offset + 1) inside →
      motive (levels + 1) (offset + utf8Length inside + 2) after →
      motive (levels + 1) offset ('(' :: (inside ++ ')' :: after)))
    (closing : ∀ levels offset rest, motive levels offset (')' :: rest))
    (numeral : ∀ levels offset run after, run ≠ [] → (∀ c ∈ run, isNumeric c) → Detached after →
      motive levels (offset + utf8Length run) after → motive levels offset (run ++ after))
    (operator : ∀ levels offset (op : Operator) rest, motive levels (offset + 1) rest →
      motive levels offset (op.symbol :: rest))
    (stray : ∀ levels offset c rest, c ≠ '(' ∧ c ≠ ')' → isNumeric c = false →
      Operator.ofSymbol? c = none → motive levels offset (c :: rest))
    (levels offset : Nat) (text : List Char) : motive levels offset text := by
  induction levels, offset, text using readItems.induct with
  | case1 levels offset => exact nil levels offset
  | case2 levels offset rest missing => exact unclosed levels offset rest missing
  | case3 offset rest inside after found =>
      obtain rfl := splitClosing_eq_append found
      exact tooDeep offset inside after found
  | case4 offset rest inside after found levels insideStep afterStep =>
      obtain rfl := splitClosing_eq_append found
      exact bracket levels offset inside after found insideStep afterStep
  | case5 levels offset rest => exact closing levels offset rest
  | case6 levels offset c rest _ _ numeric _ step =>
      have whole := numeral levels offset _ _ (List.cons_ne_nil c _) (numeric_run numeric rest)
        (detached_dropWhile rest) step
      rwa [List.cons_append, List.takeWhile_append_dropWhile] at whole
  | case7 levels offset c rest notOpening notClosing notNumeric unknown =>
      exact stray levels offset c rest ⟨notOpening, notClosing⟩ (by simpa using notNumeric) unknown
  | case8 levels offset c rest _ _ _ op known step =>
      obtain rfl := Operator.symbol_of_ofSymbol? known
      exact operator levels offset op rest step

theorem readNumber_of_value {run : List Char} {value : Float} (h : numeralValue? run = some value) :
    readNumber run = if value.isFinite then .ok value else .error .nonFinite := by
  obtain ⟨d, read, rfl⟩ := Option.map_eq_some_iff.mp h
  simp [readNumber, read]

theorem readNumber_ok {run : List Char} {value : Float} :
    readNumber run = .ok value ↔ numeralValue? run = some value ∧ value.isFinite := by
  cases found : numeralValue? run with
  | none =>
      have unread : Decimal.ofNumeral? run = none := Option.map_eq_none_iff.mp found
      simp [readNumber, unread]
  | some other =>
      rw [readNumber_of_value found]
      by_cases finite : other.isFinite
      · simp only [finite, if_true, Except.ok.injEq, Option.some.injEq]
        exact ⟨fun same => ⟨same, same ▸ finite⟩, And.left⟩
      · simp only [finite, if_false, Option.some.injEq, reduceCtorEq, false_iff]
        rintro ⟨rfl, isFinite⟩
        exact finite isFinite

inductive Reads : Nat → List Char → List Item → Prop where
  | nil {levels : Nat} : Reads levels [] []
  | bracket {levels : Nat} {inside after : List Char} {inner others : List Item} {e : Expr} :
      splitClosing 0 (inside ++ ')' :: after) = some (inside, after) → Reads levels inside inner →
      Item.group inner = .ok e → Reads (levels + 1) after others →
      Reads (levels + 1) ('(' :: (inside ++ ')' :: after)) (.operand (.bracketed e) :: others)
  | numeral {levels : Nat} {run after : List Char} {value : Float} {others : List Item} :
      numeralValue? run = some value → value.isFinite → Detached after → Reads levels after others →
      Reads levels (run ++ after) (.operand (.number value) :: others)
  | operator {levels : Nat} {op : Operator} {rest : List Char} {others : List Item} :
      Reads levels rest others → Reads levels (op.symbol :: rest) (.operator op :: others)

theorem reads_of_readItems {limit levels offset : Nat} {text : List Char} {items : List Item}
    (h : readItems limit levels offset text = .ok items) : Reads levels text items := by
  induction levels, offset, text using reading_induction generalizing items with
  | nil =>
      rw [readItems_nil] at h
      cases h
      exact .nil
  | unclosed _ _ _ missing =>
      rw [readItems_unclosed missing] at h
      contradiction
  | tooDeep _ _ _ found =>
      rw [readItems_tooDeep found] at h
      contradiction
  | bracket _ _ _ _ found insideStep afterStep =>
      rw [readItems_bracket found] at h
      obtain ⟨inner, insideRead, h⟩ := bind_ok_iff.mp h
      obtain ⟨e, grouped, h⟩ := bind_ok_iff.mp h
      obtain ⟨others, afterRead, h⟩ := bind_ok_iff.mp h
      obtain rfl := pure_ok_iff.mp h
      exact .bracket found (insideStep insideRead) grouped (afterStep afterRead)
  | closing =>
      rw [readItems_closing] at h
      contradiction
  | numeral _ _ _ _ nonempty numeric detached step =>
      rw [readItems_run nonempty numeric detached] at h
      obtain ⟨value, read, h⟩ := bind_ok_iff.mp h
      obtain ⟨others, afterRead, h⟩ := bind_ok_iff.mp h
      obtain rfl := pure_ok_iff.mp h
      obtain ⟨isValue, finite⟩ := readNumber_ok.mp read
      exact .numeral isValue finite detached (step afterRead)
  | operator _ _ _ _ step =>
      rw [readItems_operator] at h
      obtain ⟨others, afterRead, h⟩ := bind_ok_iff.mp h
      obtain rfl := pure_ok_iff.mp h
      exact .operator (step afterRead)
  | stray _ _ _ _ notBracket notNumeric unknown =>
      rw [readItems_stray notBracket notNumeric unknown] at h
      contradiction

theorem utf8Length_append (a b : List Char) :
    utf8Length (a ++ b) = utf8Length a + utf8Length b := by
  induction a with
  | nil => simp [utf8Length]
  | cons c a ih => simp [utf8Length, ih, Nat.add_assoc]

theorem utf8Length_enclosed (text : List Char) :
    utf8Length ('(' :: (text ++ [')'])) = utf8Length text + 2 := by
  simp only [utf8Length, utf8Length_append]
  rw [show '('.utf8Size = 1 from rfl, show ')'.utf8Size = 1 from rfl]
  omega

theorem utf8Size_symbol (op : Operator) : op.symbol.utf8Size = 1 := by cases op <;> rfl

section Splitting

theorem splitClosing_opening (depth : Nat) (rest : List Char) :
    splitClosing depth ('(' :: rest) =
      (splitClosing (depth + 1) rest).map (Prod.map ('(' :: ·) id) := by
  rw [splitClosing.eq_def]
  rfl

theorem splitClosing_closing (rest : List Char) :
    splitClosing 0 (')' :: rest) = some ([], rest) := by
  rw [splitClosing.eq_def]
  rfl

theorem splitClosing_inner (depth : Nat) (rest : List Char) :
    splitClosing (depth + 1) (')' :: rest) =
      (splitClosing depth rest).map (Prod.map (')' :: ·) id) := by
  rw [splitClosing.eq_def]
  rfl

theorem splitClosing_plain {c : Char} (plain : c ≠ '(' ∧ c ≠ ')') (depth : Nat)
    (rest : List Char) :
    splitClosing depth (c :: rest) = (splitClosing depth rest).map (Prod.map (c :: ·) id) := by
  rw [splitClosing.eq_def]
  simp only [if_neg plain.1, if_neg plain.2]

def Closed (text : List Char) : Prop :=
  ∀ depth rest,
    splitClosing depth (text ++ rest) = (splitClosing depth rest).map (Prod.map (text ++ ·) id)

theorem closed_nil : Closed [] := by
  intro depth rest
  rw [List.nil_append]
  cases splitClosing depth rest <;> rfl

theorem Closed.append {a b : List Char} (first : Closed a) (second : Closed b) :
    Closed (a ++ b) := by
  intro depth rest
  rw [List.append_assoc, first, second]
  cases splitClosing depth rest <;> simp [Prod.map]

theorem closed_cons {c : Char} (plain : c ≠ '(' ∧ c ≠ ')') {text : List Char}
    (closed : Closed text) : Closed (c :: text) := by
  intro depth rest
  rw [List.cons_append, splitClosing_plain plain, closed]
  cases splitClosing depth rest <;> simp [Prod.map]

theorem closed_of_plain {text : List Char} (plain : ∀ c ∈ text, c ≠ '(' ∧ c ≠ ')') :
    Closed text := by
  induction text with
  | nil => exact closed_nil
  | cons c text ih =>
      obtain ⟨first, others⟩ := List.forall_mem_cons.mp plain
      exact closed_cons first (ih others)

theorem Closed.bracketed {text : List Char} (closed : Closed text) :
    Closed ('(' :: (text ++ [')'])) := by
  intro depth rest
  rw [List.cons_append, splitClosing_opening, List.append_assoc, closed, List.singleton_append,
    splitClosing_inner]
  cases splitClosing depth rest <;> simp [Prod.map]

theorem Closed.splitClosing_eq {inside : List Char} (closed : Closed inside) (after : List Char) :
    splitClosing 0 (inside ++ ')' :: after) = some (inside, after) := by
  rw [closed, splitClosing_closing]
  simp

theorem Expr.Spells.closed {e : Expr} {text : List Char} (h : e.Spells text) : Closed text := by
  induction h with
  | number read =>
      exact closed_of_plain fun c member =>
        ne_brackets_of_isNumeric ((numeralValue?_run read).2 c member)
  | absent => exact closed_nil
  | bracketed _ ih => exact ih.bracketed
  | operation _ _ left right =>
      exact left.append (closed_cons (ne_brackets_of_isOperator (isOperator_symbol _)) right)

end Splitting

/-- What stops the reading of a tree that is spelled out: its first number without a finite value,
or its first bracket beyond the levels that are left. -/
def Expr.obstacle? (limit : Nat) : Nat → Expr → Option Failure
  | _, number value => if value.isFinite then none else some .nonFinite
  | _, absent => none
  | 0, bracketed _ => some (.nestedTooDeep limit)
  | levels + 1, bracketed inner => obstacle? limit levels inner
  | levels, operation _ left right =>
      (obstacle? limit levels left).or (obstacle? limit levels right)

theorem readItems_spelled {e : Expr} {text rest : List Char} (spells : e.Spells text)
    (wellGrouped : e.WellGrouped) (detached : Detached rest) (limit levels offset : Nat) :
    readItems limit levels offset (text ++ rest) =
      match e.obstacle? limit levels with
      | some failure => .error failure
      | none => (readItems limit levels (offset + utf8Length text) rest).map (e.items ++ ·) := by
  induction spells generalizing rest levels offset with
  | @number run value read =>
      obtain ⟨nonempty, numeric⟩ := numeralValue?_run read
      rw [readItems_run nonempty numeric detached, readNumber_of_value read]
      by_cases finite : value.isFinite
      · simp only [Expr.obstacle?, finite, if_true, Expr.items]
        rfl
      · simp only [Expr.obstacle?, finite]
        rfl
  | absent =>
      simp only [Expr.obstacle?, Expr.items, utf8Length, Nat.add_zero, List.nil_append]
      cases readItems limit levels offset rest <;> rfl
  | @bracketed inner text spells ih =>
      have found : splitClosing 0 (text ++ ')' :: rest) = some (text, rest) :=
        spells.closed.splitClosing_eq rest
      rw [List.cons_append, List.append_assoc, List.singleton_append]
      cases levels with
      | zero => rw [readItems_tooDeep found, Expr.obstacle?]
      | succ levels =>
          have inside := ih wellGrouped detached_nil levels (offset + 1)
          rw [List.append_nil] at inside
          rw [readItems_bracket found, Expr.obstacle?, utf8Length_enclosed, ← Nat.add_assoc]
          -- The inner tree is read first. If nothing stops it, grouping its items cannot fail.
          cases stops : inner.obstacle? limit levels with
          | some failure =>
              rw [stops] at inside
              rw [inside]
              rfl
          | none =>
              have allRead : readItems limit levels (offset + 1) text = .ok inner.items := by
                simp only [inside, stops, readItems_nil, Except.map, List.append_nil]
              have grouped : Item.group inner.items = .ok inner := Expr.group_items wellGrouped
              rw [allRead, ok_bind, grouped]
              rfl
  | @operation op left right a b _ _ leftRead rightRead =>
      obtain ⟨leftGrouped, rightGrouped, _⟩ := wellGrouped
      have places : offset + utf8Length (a ++ op.symbol :: b) =
          offset + utf8Length a + 1 + utf8Length b := by
        simp only [utf8Length, utf8Length_append, utf8Size_symbol]
        omega
      rw [List.append_assoc, List.cons_append,
        leftRead leftGrouped (detached_cons (not_isNumeric_symbol op)), readItems_operator,
        rightRead rightGrouped detached, Expr.obstacle?, places]
      cases left.obstacle? limit levels with
      | some failure => rfl
      | none =>
          cases right.obstacle? limit levels with
          | some failure => rfl
          | none =>
              simp only [Option.none_or, Expr.items]
              cases readItems limit levels (offset + utf8Length a + 1 + utf8Length b) rest with
              | error failure => rfl
              | ok items => simp [Except.map, Bind.bind, Except.bind, Pure.pure, Except.pure]

theorem read_of_lexemes {e : Expr} {text : String}
    (spells : (tokens text.toList).map Token.lexeme? = e.inOrder.map some)
    (wellGrouped : e.WellGrouped) (limit : Nat) :
    Expr.read limit text =
      match e.obstacle? limit limit with
      | some failure => .error failure
      | none => .ok e := by
  have whole :=
    readItems_spelled (Expr.spells_iff.mpr spells) wellGrouped detached_nil limit limit 0
  rw [List.append_nil] at whole
  rw [Expr.read, whole]
  cases e.obstacle? limit limit with
  | some failure => rfl
  | none =>
      simp only [readItems_nil, Except.map, List.append_nil]
      exact Expr.group_items wellGrouped

end Calculator
