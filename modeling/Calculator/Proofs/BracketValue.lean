import Calculator.Calculation
import Calculator.Proofs.Brackets
import Calculator.Proofs.Building
import Calculator.Proofs.Exchange
import Calculator.Proofs.ReadTree

set_option autoImplicit false

namespace Calculator

/-- A tree around a place where another tree stands in brackets. -/
inductive Frame where
  | hole
  | bracketed (outer : Frame)
  | left (op : Operator) (outer : Frame) (right : Expr)
  | right (op : Operator) (left : Expr) (outer : Frame)

namespace Frame

def plug : Frame → Expr → Expr
  | hole, e => .bracketed e
  | bracketed frame, e => .bracketed (frame.plug e)
  | left op frame b, e => .operation op (frame.plug e) b
  | right op a frame, e => .operation op a (frame.plug e)

theorem evaluate_plug (frame : Frame) {e e' : Expr} (same : e.evaluate = e'.evaluate) :
    (frame.plug e).evaluate = (frame.plug e').evaluate := by
  induction frame with
  | hole => exact same
  | bracketed frame ih => exact ih
  | left op frame b ih => simp only [plug, Expr.evaluate, ih]
  | right op a frame ih => simp only [plug, Expr.evaluate, ih]

theorem isOperation_plug (frame : Frame) (e e' : Expr) :
    (frame.plug e).isOperation = (frame.plug e').isOperation := by
  cases frame <;> rfl

theorem isSum_plug (frame : Frame) (e e' : Expr) :
    (frame.plug e).isSum = (frame.plug e').isSum := by
  cases frame with
  | hole | bracketed => rfl
  | left | right => simp only [plug, Expr.isSum_operation]

theorem wellGrouped_plug {frame : Frame} {e : Expr} (h : (frame.plug e).WellGrouped) :
    e.WellGrouped ∧ ∀ e' : Expr, e'.WellGrouped → (frame.plug e').WellGrouped := by
  induction frame with
  | hole => exact ⟨h, fun e' wellGrouped => wellGrouped⟩
  | bracketed frame ih => exact ih h
  | left op frame b ih =>
      obtain ⟨leftGrouped, rightGrouped, shape⟩ := h
      obtain ⟨inside, others⟩ := ih leftGrouped
      refine ⟨inside, fun e' wellGrouped => ⟨others e' wellGrouped, rightGrouped, ?_⟩⟩
      rwa [isSum_plug frame e' e]
  | right op a frame ih =>
      obtain ⟨leftGrouped, rightGrouped, shape⟩ := h
      obtain ⟨inside, others⟩ := ih rightGrouped
      refine ⟨inside, fun e' wellGrouped => ⟨leftGrouped, others e' wellGrouped, ?_⟩⟩
      rwa [isSum_plug frame e' e, isOperation_plug frame e' e]

end Frame

namespace Expr

theorem obstacle?_mono {e : Expr} {limit fewer levels : Nat} (le : fewer ≤ levels)
    (h : e.obstacle? limit fewer = none) : e.obstacle? limit levels = none := by
  induction e generalizing fewer levels with
  | number value => simpa only [obstacle?] using h
  | absent => rw [obstacle?]
  | bracketed inner ih =>
      cases fewer with
      | zero => simp only [obstacle?, reduceCtorEq] at h
      | succ fewer =>
          cases levels with
          | zero => contradiction
          | succ levels => exact ih (Nat.le_of_succ_le_succ le) h
  | operation op left right ihLeft ihRight =>
      simp only [obstacle?, Option.or_eq_none_iff] at h ⊢
      exact ⟨ihLeft le h.1, ihRight le h.2⟩

theorem obstacle?_plug {frame : Frame} {e : Expr} {limit levels : Nat}
    (h : (frame.plug e).obstacle? limit levels = none) : e.obstacle? limit levels = none := by
  induction frame generalizing levels with
  | hole =>
      cases levels with
      | zero => simp only [Frame.plug, obstacle?, reduceCtorEq] at h
      | succ levels => exact obstacle?_mono (Nat.le_succ levels) h
  | bracketed frame ih =>
      cases levels with
      | zero => simp only [Frame.plug, obstacle?, reduceCtorEq] at h
      | succ levels => exact obstacle?_mono (Nat.le_succ levels) (ih h)
  | left op frame b ih =>
      simp only [Frame.plug, obstacle?, Option.or_eq_none_iff] at h
      exact ih h.1
  | right op a frame ih =>
      simp only [Frame.plug, obstacle?, Option.or_eq_none_iff] at h
      exact ih h.2

end Expr

section Brackets

variable {a b m p q : List Char}

theorem Balanced.not_backed_behind (whole : Balanced (a ++ '(' :: b)) :
    ¬ExcessAtMost ')' '(' 0 b := by
  intro backed
  have front := whole.backed a (List.prefix_append a _)
  have behind := backed b List.prefix_rfl
  have even := whole.even
  rw [List.count_append, List.count_append, List.count_cons_self,
    List.count_cons_of_ne (by decide)] at even
  omega

theorem Balanced.bracket_beside (whole : Balanced p) (inside : Balanced m)
    (same : p ++ q = a ++ '(' :: (m ++ ')' :: b)) :
    (∃ rest, p = a ++ '(' :: (m ++ ')' :: rest) ∧ b = rest ++ q) ∨
      ∃ front, a = p ++ front ∧ q = front ++ '(' :: (m ++ ')' :: b) := by
  rcases List.append_eq_append_iff.mp same with before | ⟨part, rfl, behind⟩
  · exact .inr before
  cases part with
  | nil => exact .inr ⟨[], by simp, by simpa using behind.symm⟩
  | cons c part =>
      obtain ⟨rfl, parts⟩ := List.cons.inj behind
      rcases List.append_eq_append_iff.mp parts with ⟨closed, rfl, later⟩ | ⟨others, rfl, _⟩
      · cases closed with
        | nil =>
            rw [List.append_nil] at whole
            exact absurd inside.backed whole.not_backed_behind
        | cons c rest =>
            obtain ⟨rfl, rfl⟩ := List.cons.inj later
            exact .inl ⟨rest, rfl, rfl⟩
      · have backed : ExcessAtMost ')' '(' 0 part := fun front isFront =>
          inside.backed front (isFront.trans (List.prefix_append part others))
        exact absurd backed whole.not_backed_behind

theorem Closed.bracket_eq {after : List Char} (first : Closed p) (second : Closed m)
    (same : p ++ ')' :: after = m ++ ')' :: b) : p = m ∧ after = b := by
  have found := first.splitClosing_eq after
  rw [same, second.splitClosing_eq b] at found
  obtain ⟨rfl, rfl⟩ := Prod.mk.inj (Option.some.inj found)
  exact ⟨rfl, rfl⟩

end Brackets

namespace Expr

theorem Spells.balanced {e : Expr} {text : List Char} (h : e.Spells text) : Balanced text := by
  induction h with
  | number read =>
      exact balanced_of_plain fun c member =>
        ne_brackets_of_isNumeric ((numeralValue?_run read).2 c member)
  | absent => exact balanced_of_plain (by simp)
  | bracketed _ ih => exact ih.enclosed
  | @operation op left right a b _ _ ihLeft ihRight =>
      have plain : Balanced [op.symbol] :=
        balanced_of_plain (by simpa using ne_brackets_of_isOperator (isOperator_symbol op))
      exact ihLeft.append (plain.append ihRight)

theorem Spells.exists_frame {e : Expr} {a m b : List Char}
    (h : e.Spells (a ++ '(' :: (m ++ ')' :: b))) (balanced : Balanced m) (closed : Closed m) :
    ∃ (frame : Frame) (inner : Expr), e = frame.plug inner ∧ inner.Spells m ∧
      ∀ inner' m', Spells inner' m' →
        (frame.plug inner').Spells (a ++ '(' :: (m' ++ ')' :: b)) := by
  generalize whole : a ++ '(' :: (m ++ ')' :: b) = text at h
  induction h generalizing a b with
  | @number run value read =>
      have numeric := (numeralValue?_run read).2 '(' (by simp [← whole])
      contradiction
  | absent => simp at whole
  | @bracketed inner text spells ih =>
      cases a with
      | nil =>
          have parts := (List.cons.inj whole).2
          obtain ⟨rfl, rfl⟩ := spells.closed.bracket_eq closed parts.symm
          exact ⟨.hole, inner, rfl, spells, fun _ _ others => .bracketed others⟩
      | cons c a =>
          obtain ⟨rfl, parts⟩ := List.cons.inj whole
          rcases spells.balanced.bracket_beside balanced parts.symm with
            ⟨rest, inside, rfl⟩ | ⟨front, _, behind⟩
          · obtain ⟨frame, found, rfl, isFound, exchange⟩ := ih inside.symm
            refine ⟨.bracketed frame, found, rfl, isFound, fun inner' m' others => ?_⟩
            simpa [Frame.plug] using Spells.bracketed (exchange inner' m' others)
          · cases front <;> simp at behind
  | @operation op left right x y spellsLeft spellsRight ihLeft ihRight =>
      rcases spellsLeft.balanced.bracket_beside balanced whole.symm with
        ⟨rest, inside, rfl⟩ | ⟨front, rfl, behind⟩
      · obtain ⟨frame, found, rfl, isFound, exchange⟩ := ihLeft inside.symm
        refine ⟨.left op frame right, found, rfl, isFound, fun inner' m' others => ?_⟩
        have spellsLeft := exchange inner' m' others
        simpa [Frame.plug] using @Spells.operation op _ _ _ _ spellsLeft spellsRight
      · cases front with
        | nil =>
            have opening := (List.cons.inj behind).1
            exact absurd opening (ne_brackets_of_isOperator (isOperator_symbol op)).1
        | cons c front =>
            obtain ⟨rfl, inside⟩ := List.cons.inj behind
            obtain ⟨frame, found, rfl, isFound, exchange⟩ := ihRight inside.symm
            refine ⟨.right op left frame, found, rfl, isFound, fun inner' m' others => ?_⟩
            have spellsRight := exchange inner' m' others
            simpa [Frame.plug] using @Spells.operation op _ _ _ _ spellsLeft spellsRight

theorem TreeOf.read_ok_iff {text : String} {e tree : Expr} (h : e.TreeOf text.toList)
    (limit : Nat) : read limit text = .ok tree ↔ e = tree ∧ e.obstacle? limit limit = none := by
  rw [read_of_lexemes h.lexemes h.wellGrouped]
  cases e.obstacle? limit limit <;> simp

end Expr

theorem evaluate_of_read {limit : Nat} {text : String} {tree : Expr}
    (read : Expr.read limit text = .ok tree) : evaluate limit text = tree.evaluate := by
  rw [evaluate, read]
  rfl

theorem exists_frame_of_read {limit : Nat} {text text' inner inner' : String}
    {front rest : List Char} {tree tree' : Expr} (balanced : Balanced inner.toList)
    (closed : Closed inner.toList) {e' : Expr} (isTree' : e'.TreeOf inner'.toList)
    (parts : text.toList = front ++ '(' :: (inner.toList ++ ')' :: rest))
    (parts' : text'.toList = front ++ '(' :: (inner'.toList ++ ')' :: rest))
    (read : Expr.read limit text = .ok tree) (read' : Expr.read limit text' = .ok tree') :
    ∃ (frame : Frame) (e : Expr), tree = frame.plug e ∧ tree' = frame.plug e' ∧
      Expr.read limit inner = .ok e ∧ Expr.read limit inner' = .ok e' := by
  have isTree := Expr.treeOf_of_read read
  have noObstacle := ((isTree.read_ok_iff limit).mp read).2
  obtain ⟨frame, e, rfl, spells, exchange⟩ :=
    (parts ▸ Expr.spells_iff.mpr isTree.lexemes).exists_frame balanced closed
  obtain ⟨wellGrouped, others⟩ := Frame.wellGrouped_plug isTree.wellGrouped
  have isInner : e.TreeOf inner.toList := ⟨spells.lexemes, wellGrouped⟩
  have exchanged := exchange e' inner'.toList (Expr.spells_iff.mpr isTree'.lexemes)
  have isOther : (frame.plug e').TreeOf text'.toList :=
    ⟨parts' ▸ exchanged.lexemes, others e' isTree'.wellGrouped⟩
  obtain ⟨rfl, noObstacle'⟩ := (isOther.read_ok_iff limit).mp read'
  exact ⟨frame, e, rfl, rfl, (isInner.read_ok_iff limit).mpr ⟨rfl, Expr.obstacle?_plug noObstacle⟩,
    (isTree'.read_ok_iff limit).mpr ⟨rfl, Expr.obstacle?_plug noObstacle'⟩⟩

def surrounded (before after inner : String) : String := before ++ "(" ++ inner ++ ")" ++ after

theorem toList_surrounded (before after inner : String) :
    (surrounded before after inner).toList =
      before.toList ++ '(' :: (inner.toList ++ ')' :: after.toList) := by
  simp [surrounded]

theorem toList_canonical_surrounded (before after inner : String) :
    (canonical (surrounded before after inner)).toList =
      canonicalChars before.toList ++
        '(' :: ((canonical inner).toList ++ ')' :: canonicalChars after.toList) := by
  rw [toList_canonical, toList_canonical, toList_surrounded, canonicalChars_append,
    canonicalChars_opening, canonicalChars_append, canonicalChars_closing]

/-- A bracketed expression counts by its value alone. Where one may stand, so may any other, and if
both have the same value, or the same failure, then so have the texts around them. -/
theorem bracket_exchange {inner inner' : String} (valid : isValid inner) (valid' : isValid inner')
    (present : ¬Spaces inner.toList) (present' : ¬Spaces inner'.toList) (before after : String) :
    (isValid (surrounded before after inner) → isValid (surrounded before after inner')) ∧
      ∀ limit,
        (∃ tree, Expr.read limit (canonical (surrounded before after inner)) = .ok tree) →
        (∃ tree, Expr.read limit (canonical (surrounded before after inner')) = .ok tree) →
        evaluate limit (canonical inner) = evaluate limit (canonical inner') →
          evaluate limit (canonical (surrounded before after inner)) =
            evaluate limit (canonical (surrounded before after inner')) := by
  constructor
  next =>
    have expression := (derives_of_isValid valid).resolve_left present
    have expression' := (derives_of_isValid valid').resolve_left present'
    exact isValid_of_exchange expression expression' (toList_surrounded before after inner)
      (toList_surrounded before after inner')
  next =>
    rintro limit ⟨tree, read⟩ ⟨tree', read'⟩ same
    obtain ⟨_, spells, _⟩ := exists_tree_of_isValid valid
    obtain ⟨e', spells', wellGrouped', _⟩ := exists_tree_of_isValid valid'
    obtain ⟨frame, e, rfl, rfl, readInner, readInner'⟩ :=
      exists_frame_of_read spells.balanced spells.closed ⟨spells'.lexemes, wellGrouped'⟩
        (toList_canonical_surrounded before after inner)
        (toList_canonical_surrounded before after inner') read read'
    rw [evaluate_of_read readInner, evaluate_of_read readInner'] at same
    rw [evaluate_of_read read, evaluate_of_read read', frame.evaluate_plug same]

theorem bracket_exchange_negative :
    isValid (surrounded "-2 *" "/ 4" "- 2") ∧
      evaluate 1 (canonical "3 - 5") = evaluate 1 (canonical "- 2") ∧
      evaluate 1 (canonical (surrounded "-2 *" "/ 4" "3 - 5")) =
        evaluate 1 (canonical (surrounded "-2 *" "/ 4" "- 2")) := by
  have valid : isValid "3 - 5" := by decide +kernel
  have valid' : isValid "- 2" := by decide +kernel
  have present : ¬Spaces "3 - 5".toList := fun blank => absurd (blank '3' (by decide)) (by decide)
  have present' : ¬Spaces "- 2".toList := fun blank => absurd (blank '2' (by decide)) (by decide)
  have exchange := bracket_exchange valid valid' present present' "-2 *" "/ 4"
  have whole : isValid (surrounded "-2 *" "/ 4" "3 - 5") := by decide +kernel
  let around (inner : Expr) : Expr := .operation .subtract .absent
    (.operation .divide (.operation .multiply (.number 2) (.bracketed inner)) (.number 4))
  have read : ∃ tree, Expr.read 1 (canonical (surrounded "-2 *" "/ 4" "3 - 5")) = .ok tree :=
    ⟨around (.operation .subtract (.number 3) (.number 5)), by decide +kernel⟩
  have read' : ∃ tree, Expr.read 1 (canonical (surrounded "-2 *" "/ 4" "- 2")) = .ok tree :=
    ⟨around (.operation .subtract .absent (.number 2)), by decide +kernel⟩
  have same : evaluate 1 (canonical "3 - 5") = evaluate 1 (canonical "- 2") := by decide +kernel
  exact ⟨exchange.1 whole, same, exchange.2 1 read read' same⟩

end Calculator
