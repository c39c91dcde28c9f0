import Calculator.CommandLine.Run
import Calculator.Proofs.Description
import Calculator.Proofs.NumberText
import Calculator.Proofs.OutlineNodes

set_option autoImplicit false

namespace Calculator

theorem toList_unlines_cons (line : String) (lines : List String) :
    (CommandLine.unlines (line :: lines)).toList =
      line.toList ++ '\n' :: (CommandLine.unlines lines).toList := by
  simp [CommandLine.unlines, String.join_cons]

theorem splitOn_unlines {lines : List String} (oneLine : ∀ line ∈ lines, OneLine line.toList) :
    (CommandLine.unlines lines).toList.splitOn '\n' = lines.map String.toList ++ [[]] := by
  induction lines with
  | nil => rfl
  | cons line lines ih =>
      obtain ⟨first, others⟩ := List.forall_mem_cons.mp oneLine
      have unbroken : '\n' ∉ line.toList := fun member => absurd (first _ member) (by decide)
      rw [toList_unlines_cons, Problem.splitOn_line unbroken, ih others, List.map_cons,
        List.cons_append]

theorem unlines_injective {lines lines' : List String}
    (oneLine : ∀ line ∈ lines, OneLine line.toList)
    (oneLine' : ∀ line ∈ lines', OneLine line.toList)
    (same : CommandLine.unlines lines = CommandLine.unlines lines') : lines = lines' := by
  have parts := splitOn_unlines oneLine
  rw [same, splitOn_unlines oneLine'] at parts
  have texts := List.append_cancel_right parts
  exact ((List.map_inj_right fun _ _ => String.toList_inj.mp).mp texts).symm

theorem mem_format {v : Float} {c : Char} (member : c ∈ NumberStyle.plain.format v) :
    isNumeric c ∨ c ∈ ['-', 'N', 'a', 'i', 'n', 'f'] := by
  have signed {digits : List Char} (member : c ∈ NumberStyle.signed v digits) :
      c = '-' ∨ c ∈ digits := by
    unfold NumberStyle.signed at member
    split at member
    · exact List.mem_cons.mp member
    · exact .inr member
  unfold NumberStyle.format at member
  split at member
  next => exact .inr (by simp at member ⊢; tauto)
  split at member
  next => exact .inr (by have := signed member; simp at this ⊢; tauto)
  next =>
    rcases signed member with rfl | inDigits
    · exact .inr (by simp)
    · exact .inl ((Decimal.numeral_positional _).numeric c inDigits)

theorem oneLine_numberText (v : Float) : OneLine (numberText v).toList := by
  intro c member
  rw [numberText, String.toList_ofList] at member
  rcases mem_format member with numeric | letter
  · have alone : OneLine [c] := oneLine_of_isNumeric (by simpa using numeric)
    exact alone c List.mem_cons_self
  · have letters : OneLine ['-', 'N', 'a', 'i', 'n', 'f'] := by decide
    exact letters c letter

theorem numberText_ne_empty (v : Float) : numberText v ≠ "(empty) = 0" := by
  intro same
  have bracket : '(' ∈ (numberText v).toList := by
    rw [same]
    decide
  rw [numberText, String.toList_ofList] at bracket
  rcases mem_format bracket with numeric | letter
  · exact absurd numeric (by decide)
  · exact absurd letter (by decide)

namespace Expr

/-- The same tree, but for numbers that have the same text. -/
inductive LooksLike : Expr → Expr → Prop where
  | number {v v' : Float} : numberText v = numberText v' → LooksLike (number v) (number v')
  | absent : LooksLike absent absent
  | bracketed {a a' : Expr} : LooksLike a a' → LooksLike (bracketed a) (bracketed a')
  | operation {op : Operator} {a a' b b' : Expr} :
      LooksLike a a' → LooksLike b b' → LooksLike (operation op a b) (operation op a' b')

theorem LooksLike.outlineLines_eq {e e' : Expr} (h : e.LooksLike e') :
    e.outlineLines = e'.outlineLines := by
  induction h with
  | number same => rw [outlineLines, outlineLines, same]
  | absent => rfl
  | bracketed _ ih => rw [outlineLines, outlineLines, ih]
  | operation _ _ first second => rw [outlineLines, outlineLines, first, second]

theorem oneLine_branch {last : Bool} {lines : List String}
    (oneLine : ∀ line ∈ lines, OneLine line.toList) :
    ∀ line ∈ branch last lines, OneLine line.toList := by
  cases lines with
  | nil => exact oneLine
  | cons own below =>
      obtain ⟨first, others⟩ := List.forall_mem_cons.mp oneLine
      rw [branch, List.forall_mem_cons]
      refine ⟨oneLine_toList_append.mpr ⟨by cases last <;> decide, first⟩, fun line member => ?_⟩
      obtain ⟨inner, inside, rfl⟩ := List.mem_map.mp member
      exact oneLine_toList_append.mpr ⟨by cases last <;> decide, others inner inside⟩

theorem oneLine_outlineLines (e : Expr) : ∀ line ∈ e.outlineLines, OneLine line.toList := by
  induction e with
  | number v =>
      rw [outlineLines, List.forall_mem_singleton]
      exact oneLine_numberText v
  | absent =>
      rw [outlineLines, List.forall_mem_singleton]
      decide
  | bracketed inner ih =>
      rw [outlineLines, List.forall_mem_cons]
      exact ⟨by decide, oneLine_branch ih⟩
  | operation op left right ihLeft ihRight =>
      rw [outlineLines, List.forall_mem_cons, List.forall_mem_append]
      exact ⟨by cases op <;> decide, oneLine_branch ihLeft, oneLine_branch ihRight⟩

theorem branch_injective {last : Bool} {lines lines' : List String}
    (same : branch last lines = branch last lines') : lines = lines' := by
  cases lines with
  | nil => cases lines' <;> simp_all [branch]
  | cons own below =>
      cases lines' with
      | nil => simp [branch] at same
      | cons own' below' =>
          obtain ⟨first, others⟩ := List.cons.inj same
          rw [(String.append_right_inj _).mp first,
            (List.map_inj_right fun _ _ => (String.append_right_inj _).mp).mp others]

def goesOn (line : String) : Bool := line.toList.head? ∈ [some '├', some '│']

theorem goesOn_branch (lines : List String) : ∀ line ∈ branch false lines, goesOn line := by
  cases lines with
  | nil => simp [branch]
  | cons own below => simp [branch, goesOn]

theorem takeWhile_goesOn_branch (lines : List String) :
    (branch true lines).takeWhile goesOn = [] := by
  cases lines with
  | nil => rfl
  | cons own below => simp [branch, goesOn]

theorem branches_injective {first first' second second' : List String}
    (same : branch false first ++ branch true second = branch false first' ++ branch true second') :
    first = first' ∧ second = second' := by
  have fronts := congrArg (List.takeWhile goesOn) same
  rw [List.takeWhile_append_of_pos (goesOn_branch first), takeWhile_goesOn_branch,
    List.takeWhile_append_of_pos (goesOn_branch first'), takeWhile_goesOn_branch, List.append_nil,
    List.append_nil] at fronts
  rw [fronts] at same
  exact ⟨branch_injective fronts, branch_injective (List.append_cancel_left same)⟩

theorem branch_outlineLines_ne_nil (last : Bool) (e : Expr) : branch last e.outlineLines ≠ [] := by
  cases e <;> simp [outlineLines, branch]

theorem looksLike_of_outlineLines {e e' : Expr} (same : e.outlineLines = e'.outlineLines) :
    e.LooksLike e' := by
  induction e generalizing e' with
  | number v =>
      cases e' with
      | number v' => exact .number (List.cons.inj same).1
      | absent => exact absurd (List.cons.inj same).1 (numberText_ne_empty v)
      | bracketed | operation => simp [outlineLines, branch_outlineLines_ne_nil] at same
  | absent =>
      cases e' with
      | number v' => exact absurd (List.cons.inj same).1.symm (numberText_ne_empty v')
      | absent => exact .absent
      | bracketed | operation => simp [outlineLines, branch_outlineLines_ne_nil] at same
  | bracketed inner ih =>
      cases e' with
      | number | absent => simp [outlineLines, branch_outlineLines_ne_nil] at same
      | bracketed inner' => exact .bracketed (ih (branch_injective (List.cons.inj same).2))
      | operation op => cases op <;> exact absurd (List.cons.inj same).1 (by decide)
  | operation op left right ihLeft ihRight =>
      cases e' with
      | number | absent => simp [outlineLines, branch_outlineLines_ne_nil] at same
      | bracketed => cases op <;> exact absurd (List.cons.inj same).1 (by decide)
      | operation op' left' right' =>
          obtain ⟨symbols, operands⟩ := List.cons.inj same
          obtain ⟨lefts, rights⟩ := branches_injective operands
          have sameSymbol : op.symbol = op'.symbol := by
            simpa [Char.toString] using congrArg String.toList symbols
          have sameOperator : some op = some op' := by
            rw [← op.ofSymbol?_symbol, sameSymbol, op'.ofSymbol?_symbol]
          obtain rfl := Option.some.inj sameOperator
          exact .operation (ihLeft lefts) (ihRight rights)

/-- The outline shows every node of the tree once, in its place, and determines the tree, but for
numbers that have the same text. -/
theorem outline_portrays (e : Expr) :
    e.Portrayed ∧
      ∀ e', CommandLine.unlines e.outline = CommandLine.unlines e'.outline ↔ e.LooksLike e' := by
  have oneLine (e : Expr) : ∀ line ∈ e.outline, OneLine line.toList := by
    rw [outline, List.forall_mem_cons]
    exact ⟨by decide, oneLine_branch e.oneLine_outlineLines⟩
  refine ⟨e.portrayed, fun e' => ⟨?_, ?_⟩⟩
  next =>
    intro same
    have lines := unlines_injective (oneLine e) (oneLine e') same
    exact looksLike_of_outlineLines (branch_injective (List.cons.inj lines).2)
  next =>
    intro alike
    rw [outline, outline, alike.outlineLines_eq]

end Expr

end Calculator
