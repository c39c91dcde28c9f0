import Calculator.Proofs.Canonical
import Calculator.Proofs.Reading

set_option autoImplicit false

namespace Calculator

-- A numeral is finite if it has a finite value once its separator is a point.
def Token.isFinite : Token → Bool
  | numeral run => (numeralValue? (run.map canonicalChar)).any (·.isFinite)
  | _ => true

structure Readable (levels : Nat) (text : List Token) : Prop where
  nesting : ∀ front, front <+: text → front.count .opening ≤ front.count .closing + levels
  finite : ∀ token ∈ text, token.isFinite

inductive Stops (limit levels : Nat) : List Token → Failure → Prop where
  | tooDeep {before after : List Token} :
      Readable levels before → before.count .opening = before.count .closing + levels →
      Stops limit levels (before ++ .opening :: after) (.nestedTooDeep limit)
  | nonFinite {before after : List Token} {token : Token} :
      Readable levels before → token.isFinite = false →
      Stops limit levels (before ++ token :: after) .nonFinite

def Token.levelsAfter? : Token → Nat → Option Nat
  | opening, 0 => none
  | opening, levels + 1 => some levels
  | closing, levels => some (levels + 1)
  | _, levels => some levels

def firstObstacle? (limit : Nat) : Nat → List Token → Option Failure
  | _, [] => none
  | levels, token :: rest =>
      if token.isFinite then
        match token.levelsAfter? levels with
        | none => some (.nestedTooDeep limit)
        | some after => firstObstacle? limit after rest
      else some .nonFinite

section Scanning

variable {limit levels after : Nat} {token : Token} {rest : List Token} {failure : Failure}

theorem Token.levelsAfter?_eq_none :
    token.levelsAfter? levels = none ↔ token = opening ∧ levels = 0 := by
  cases token <;> cases levels <;> simp [levelsAfter?]

theorem Token.count_of_levelsAfter? (h : token.levelsAfter? levels = some after) :
    [token].count closing + levels = [token].count opening + after := by
  cases token <;> cases levels <;> simp_all [levelsAfter?] <;> omega

theorem readable_cons : Readable levels (token :: rest) ↔
    token.isFinite ∧ ∃ after, token.levelsAfter? levels = some after ∧ Readable after rest := by
  constructor
  · intro h
    obtain ⟨finite, others⟩ := List.forall_mem_cons.mp h.finite
    refine ⟨finite, ?_⟩
    cases next : token.levelsAfter? levels with
    | none =>
        obtain ⟨rfl, rfl⟩ := Token.levelsAfter?_eq_none.mp next
        have first := h.nesting [.opening] (List.prefix_append [.opening] rest)
        simp at first
    | some after =>
        refine ⟨after, rfl, fun front isFront => ?_, others⟩
        have longer := h.nesting (token :: front) (List.cons_prefix_cons.mpr ⟨rfl, isFront⟩)
        have change := Token.count_of_levelsAfter? next
        rw [← List.singleton_append, List.count_append, List.count_append] at longer
        omega
  · rintro ⟨finite, after, next, h⟩
    refine ⟨fun front isFront => ?_, List.forall_mem_cons.mpr ⟨finite, h.finite⟩⟩
    rcases List.prefix_cons_iff.mp isFront with rfl | ⟨shorter, rfl, isShorter⟩
    · simp
    · have fits := h.nesting shorter isShorter
      have change := Token.count_of_levelsAfter? next
      rw [← List.singleton_append, List.count_append, List.count_append]
      omega

theorem Stops.cons (finite : token.isFinite) (next : token.levelsAfter? levels = some after)
    (h : Stops limit after rest failure) : Stops limit levels (token :: rest) failure := by
  have change := Token.count_of_levelsAfter? next
  cases h with
  | @tooDeep before _ readable full =>
      rw [← List.cons_append]
      refine .tooDeep (readable_cons.mpr ⟨finite, after, next, readable⟩) ?_
      rw [← List.singleton_append, List.count_append, List.count_append]
      omega
  | nonFinite readable notFinite =>
      rw [← List.cons_append]
      exact .nonFinite (readable_cons.mpr ⟨finite, after, next, readable⟩) notFinite

theorem Readable.append {front : List Token} (h : Readable levels front) (limit : Nat) :
    ∃ after, front.count .closing + levels = front.count .opening + after ∧
      ∀ rest, firstObstacle? limit levels (front ++ rest) = firstObstacle? limit after rest := by
  induction front generalizing levels with
  | nil => exact ⟨levels, rfl, fun _ => rfl⟩
  | cons token front ih =>
      obtain ⟨finite, next, isNext, readable⟩ := readable_cons.mp h
      obtain ⟨after, same, scan⟩ := ih readable
      have change := Token.count_of_levelsAfter? isNext
      refine ⟨after, ?_, fun rest => ?_⟩
      · rw [← List.singleton_append, List.count_append, List.count_append]
        omega
      · rw [List.cons_append, firstObstacle?, if_pos finite, isNext]
        exact scan rest

theorem Stops.cause {text : List Token} (h : Stops limit levels text failure) :
    failure = .nestedTooDeep limit ∨ failure = .nonFinite := by
  cases h with
  | tooDeep => exact .inl rfl
  | nonFinite => exact .inr rfl

end Scanning

theorem Token.isFinite_canonical (run : List Char) :
    (numeral (run.map canonicalChar)).isFinite = (numeral run).isFinite := by
  have again : canonicalChar ∘ canonicalChar = canonicalChar := funext canonicalChar_canonicalChar
  simp only [isFinite, List.map_map, again]

theorem firstObstacle?_canonical (limit levels : Nat) (text : List Token) :
    firstObstacle? limit levels (text.filterMap Token.canonical?) =
      firstObstacle? limit levels text := by
  induction text generalizing levels with
  | nil => rfl
  | cons token rest ih =>
      cases token with
      | numeral run =>
          simp only [List.filterMap_cons, Token.canonical?, firstObstacle?,
            Token.isFinite_canonical, Token.levelsAfter?, ih]
      | stray c =>
          by_cases blank : Text.isBlank c <;>
            simp [Token.canonical?, blank, firstObstacle?, Token.isFinite, Token.levelsAfter?, ih]
      | operator op =>
          simp [Token.canonical?, firstObstacle?, Token.isFinite, Token.levelsAfter?, ih]
      | opening =>
          cases levels <;>
            simp [Token.canonical?, firstObstacle?, Token.isFinite, Token.levelsAfter?, ih]
      | closing =>
          simp [Token.canonical?, firstObstacle?, Token.isFinite, Token.levelsAfter?, ih]

theorem Expr.Spells.firstObstacle? {e : Expr} {text : List Char} (h : e.Spells text)
    (limit levels : Nat) (rest : List Token) :
    Calculator.firstObstacle? limit levels (tokens text ++ rest) =
      (e.obstacle? limit levels).or (Calculator.firstObstacle? limit levels rest) := by
  induction h generalizing levels rest with
  | @number run value read =>
      obtain ⟨nonempty, numeric⟩ := numeralValue?_run read
      have same : (Token.numeral run).isFinite = value.isFinite := by
        simp [Token.isFinite, map_canonicalChar_of_numeralValue? read, read]
      rw [tokens_numeral nonempty numeric, List.singleton_append, Calculator.firstObstacle?, same,
        obstacle?]
      by_cases finite : value.isFinite
      · simp only [finite, if_true, Option.none_or]
        rfl
      · simp only [finite]
        rfl
  | absent => simp [obstacle?]
  | @bracketed inner text _ ih =>
      rw [tokens_opening, tokens_append (detached_cons (by decide)), tokens_closing, tokens_nil,
        List.cons_append, List.append_assoc]
      cases levels with
      | zero => rfl
      | succ levels => exact ih levels (.closing :: rest)
  | @operation op left right a b _ _ ihLeft ihRight =>
      rw [tokens_append (detached_cons (not_isNumeric_symbol op)), tokens_operator,
        List.append_assoc, List.cons_append, ihLeft, obstacle?, Option.or_assoc]
      congr 1
      exact ihRight levels rest

end Calculator
