import Calculator.Proofs.ReadFailure

set_option autoImplicit false

namespace Calculator

theorem balanceProblem?_of_read (limit : Nat) (text : String) :
    ((∃ tree, Expr.read limit text = .ok tree) → balanceProblem? text = none) ∧
      ∀ offset, Expr.read limit text = .error (.unbalancedBracket offset) →
        ∃ position, utf8Length (text.toList.take position) = offset ∧
          (text.toList[position]? = some ')' ∧ balanceProblem? text = some (.unopened position) ∨
            text.toList[position]? = some '(' ∧
              balanceProblem? text = some (.unclosed position)) := by
  constructor
  next =>
    rintro ⟨tree, read⟩
    obtain ⟨items, itemsRead, _⟩ := bind_ok_iff.mp read
    exact balanceProblem?_of_balanced (reads_of_readItems itemsRead).cleared.1.balanced
  next =>
    intro offset failed
    cases Expr.fails_of_read failed with
    | @unbalanced before after c parts balanced bracket =>
        have blamed : text.toList[before.length]? = some c := by
          rw [parts, List.getElem?_append_right (Nat.le_refl _), Nat.sub_self]
          rfl
        refine ⟨before.length, by rw [parts, List.take_left, Nat.zero_add], ?_⟩
        rw [blamed]
        rcases bracket with rfl | ⟨rfl, backed⟩
        · exact .inl ⟨rfl, balanceProblem?_unopened balanced parts⟩
        · exact .inr ⟨rfl, balanceProblem?_unclosed balanced backed parts⟩

theorem balanceProblem?_of_read_unclosed :
    balanceProblem? "(1+2)" = none ∧
      ∃ position, utf8Length ("1+(é".toList.take position) = 2 ∧
        ("1+(é".toList[position]? = some ')' ∧
            balanceProblem? "1+(é" = some (.unopened position) ∨
          "1+(é".toList[position]? = some '(' ∧
            balanceProblem? "1+(é" = some (.unclosed position)) := by
  have read : Expr.read 1 "(1+2)" =
      .ok (.bracketed (.operation .add (.number 1) (.number 2))) := by
    decide +kernel
  have failed : Expr.read 0 "1+(é" = .error (.unbalancedBracket 2) := by decide +kernel
  exact ⟨(balanceProblem?_of_read 1 "(1+2)").1 ⟨_, read⟩,
    (balanceProblem?_of_read 0 "1+(é").2 2 failed⟩

-- Operators may stand anywhere. As no comma is legible, the separators are points.
structure Acceptable (limit : Nat) (text : List Char) : Prop where
  legible : ∀ c ∈ text, isLegible c
  balanced : Balanced text
  hasDigit : ∀ run, MaximalRun text run → ∃ c ∈ run, c.isDigit
  onePoint : ∀ run, MaximalRun text run → run.count '.' ≤ 1
  finite : ∀ run value, MaximalRun text run → numeralValue? run = some value → value.isFinite
  separated : Separated text
  shallow : ExcessAtMost '(' ')' limit text

section Text

variable {limit levels offset : Nat} {text : List Char}

theorem Reads.acceptable {items : List Item} {e : Expr} (h : Reads limit text items)
    (grouped : Item.group items = .ok e) : Acceptable limit text := by
  obtain ⟨cleared, shallow⟩ := h.cleared
  have value (run : List Char) (isRun : MaximalRun text run) : Token.HasValue (.numeral run) :=
    cleared.valued _ (mem_tokens_numeral.mpr isRun)
  have readable (run : List Char) (isRun : MaximalRun text run) :
      ',' ∉ run ∧ run.count '.' ≤ 1 ∧ ∃ c ∈ run, c.isDigit := by
    obtain ⟨value, read, _⟩ := value run isRun
    exact (exists_numeralValue?_iff isRun.2.1).mp ⟨value, read⟩
  exact {
    legible := cleared.legible
    balanced := cleared.balanced
    hasDigit := fun run isRun => (readable run isRun).2.2
    onePoint := fun run isRun => (readable run isRun).2.1
    finite := by
      intro run v isRun read
      obtain ⟨w, read', finite⟩ := value run isRun
      obtain rfl := Option.some.inj (read.symm.trans read')
      exact finite
    separated := h.group_ok_iff.mp ⟨e, grouped⟩
    shallow := shallow }

theorem Acceptable.not_fails {failure : Failure} (h : Acceptable limit text) :
    ¬Fails limit limit offset text failure := by
  intro failed
  cases failed with
  | unbalanced parts front bracket =>
      have balanced := h.balanced
      rw [parts] at balanced
      exact balanced.matched front bracket
  | tooDeep isFront many =>
      have fits := h.shallow _ isFront
      omega
  | @unreadable _ _ run parts _ unreadable =>
      have isRun : MaximalRun text run := mem_tokens_numeral.mp (by simp [parts])
      have noComma : ',' ∉ run := fun comma => absurd (h.legible ',' (isRun.mem comma)) (by decide)
      obtain ⟨value, read⟩ := (exists_numeralValue?_iff isRun.2.1).mpr
        ⟨noComma, h.onePoint run isRun, h.hasDigit run isRun⟩
      rw [unreadable] at read
      contradiction
  | @nonFinite _ _ run value parts _ read large =>
      have isRun : MaximalRun text run := mem_tokens_numeral.mp (by simp [parts])
      rw [h.finite run value isRun read] at large
      contradiction
  | @unexpected before after c parts _ notNumeric notOperator notBracket =>
      have legible := h.legible c (by simp [parts])
      simp only [isNumeric, Bool.or_eq_false_iff] at notNumeric
      simp_all [isLegible, isSeparator]
  | missing joined => exact joined h.separated

end Text

theorem Expr.exists_read_iff (limit : Nat) (text : String) :
    ((∃ tree, Expr.read limit text = .ok tree) ↔ Acceptable limit text.toList) ∧
      ∀ run, (∀ c ∈ run, isNumeric c) →
        ((∃ value, numeralValue? run = some value) ↔
          ',' ∉ run ∧ run.count '.' ≤ 1 ∧ ∃ c ∈ run, c.isDigit) := by
  refine ⟨⟨?_, fun acceptable => ?_⟩, fun run => exists_numeralValue?_iff⟩
  · rintro ⟨tree, read⟩
    obtain ⟨items, itemsRead, grouped⟩ := bind_ok_iff.mp read
    exact (reads_of_readItems itemsRead).acceptable grouped
  · cases read : Expr.read limit text with
    | ok tree => exact ⟨tree, rfl⟩
    | error failure => exact absurd (Expr.fails_of_read read) acceptable.not_fails

theorem Expr.exists_read_iff_missing_operand :
    Acceptable 1 "(.5*)-".toList ∧ ¬Acceptable 0 "(.5*)-".toList ∧
      ∃ value, numeralValue? ['.', '5'] = some value := by
  have read : Expr.read 1 "(.5*)-" = .ok (.operation .subtract
      (.bracketed (.operation .multiply (.number 0.5) .absent)) .absent) := by
    decide +kernel
  have deep : Expr.read 0 "(.5*)-" = .error (.nestedTooDeep 0) := by decide +kernel
  refine ⟨(Expr.exists_read_iff 1 "(.5*)-").1.mp ⟨_, read⟩, fun acceptable => ?_, ?_⟩
  · obtain ⟨tree, read⟩ := (Expr.exists_read_iff 0 "(.5*)-").1.mpr acceptable
    rw [deep] at read
    contradiction
  · have numeric : ∀ c ∈ ['.', '5'], isNumeric c := List.all_eq_true.mp (by decide)
    apply ((Expr.exists_read_iff 1 "(.5*)-").2 ['.', '5'] numeric).mpr
    exact ⟨by decide, by decide, '5', by decide, by decide⟩

end Calculator
