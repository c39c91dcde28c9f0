import Calculator.Expr.Grouping

set_option autoImplicit false

namespace Calculator

theorem bind_ok_iff {α β : Type} {result : Except Failure α} {next : α → Except Failure β}
    {value : β} : result >>= next = .ok value ↔ ∃ a, result = .ok a ∧ next a = .ok value := by
  cases result <;> simp [Bind.bind, Except.bind]

theorem bind_error_iff {α β : Type} {result : Except Failure α} {next : α → Except Failure β}
    {failure : Failure} : result >>= next = .error failure ↔
      result = .error failure ∨ ∃ a, result = .ok a ∧ next a = .error failure := by
  cases result <;> simp [Bind.bind, Except.bind]

theorem ok_bind {α β : Type} (a : α) (next : α → Except Failure β) :
    Except.ok a >>= next = next a := rfl

theorem pure_ok_iff {α : Type} {a value : α} :
    (pure a : Except Failure α) = .ok value ↔ a = value := by
  simp [Pure.pure, Except.pure]

theorem Operator.additive_iff {op : Operator} :
    op.precedence = .additive ↔ op = .add ∨ op = .subtract := by
  cases op <;> decide

theorem Operator.multiplicative_iff {op : Operator} :
    op.precedence = .multiplicative ↔ op = .multiply ∨ op = .divide := by
  cases op <;> decide

namespace Item

def Free (precedence : Precedence) (items : List Item) : Prop :=
  ∀ op, .operator op ∈ items → op.precedence ≠ precedence

theorem free_nil (precedence : Precedence) : Free precedence [] := by simp [Free]

theorem Free.of_cons {precedence : Precedence} {item : Item} {items : List Item}
    (h : Free precedence (item :: items)) : Free precedence items :=
  fun op member => h op (List.mem_cons_of_mem item member)

theorem free_cons_operand {precedence : Precedence} {e : Expr} {items : List Item}
    (h : Free precedence items) : Free precedence (operand e :: items) :=
  fun op member => h op (by simpa using member)

namespace Cutting

variable {precedence : Precedence} {cutting : Cutting} {back : List Item}

theorem foldl_take_free (free : Free precedence back) :
    back.foldl (take precedence) cutting = { cutting with piece := cutting.piece ++ back } := by
  induction back generalizing cutting with
  | nil => rw [List.foldl_nil, List.append_nil]
  | cons item back ih =>
      have pushed : cutting.take precedence item = cutting.push item := by
        cases item with
        | operand e => rfl
        | operator op => exact if_neg (free op List.mem_cons_self)
      rw [List.foldl_cons, pushed, ih free.of_cons, push, List.append_assoc, List.singleton_append]

theorem of_free (free : Free precedence back) : of precedence back = ⟨[], [], back⟩ :=
  foldl_take_free free

theorem of_append {op : Operator} (same : op.precedence = precedence) (front : List Item)
    (free : Free precedence back) :
    of precedence (front ++ operator op :: back) =
      ⟨(of precedence front).pieces ++ [(of precedence front).piece],
        (of precedence front).operators ++ [op], back⟩ := by
  rw [of, List.foldl_append, List.foldl_cons, ← of, take, if_pos same, foldl_take_free free,
    List.nil_append]

-- What lets the loop zip: as many operators as complete pieces.
def Paired (cutting : Cutting) : Prop := cutting.operators.length = cutting.pieces.length

theorem Paired.take (h : cutting.Paired) (item : Item) : (cutting.take precedence item).Paired := by
  cases item with
  | operand e => exact h
  | operator op =>
      rw [Cutting.take]
      split
      next => simpa [Paired] using h
      next => exact h

theorem Paired.foldl (h : cutting.Paired) (items : List Item) :
    (items.foldl (Cutting.take precedence) cutting).Paired := by
  induction items generalizing cutting with
  | nil => exact h
  | cons item items ih => exact ih (h.take item)

theorem paired_of (precedence : Precedence) (items : List Item) :
    (of precedence items).Paired := by
  have none : start.Paired := rfl
  exact none.foldl items

end Cutting

section Chain

variable {precedence : Precedence} {groupPiece : List Item → Except Failure Expr}

theorem chain_free {items : List Item} (h : Free precedence items) :
    chain precedence groupPiece items = groupPiece items := by
  rw [chain, Cutting.of_free h]
  exact bind_pure _

theorem chain_append {op : Operator} (same : op.precedence = precedence) (front : List Item)
    {back : List Item} (free : Free precedence back) :
    chain precedence groupPiece (front ++ operator op :: back) = do
      let left ← chain precedence groupPiece front
      let right ← groupPiece back
      return .operation op left right := by
  have paired := Cutting.paired_of precedence front
  simp only [chain, Cutting.of_append same front free]
  generalize Cutting.of precedence front = cutting at paired
  obtain ⟨pieces, operators, piece⟩ := cutting
  obtain ⟨first, more, split⟩ : ∃ first more, pieces ++ [piece] = first :: more :=
    List.exists_cons_of_ne_nil (by simp)
  have sameLength : operators.length = more.length := by
    have lengths := congrArg List.length split
    rw [List.length_append, List.length_singleton, List.length_cons] at lengths
    exact paired.trans (Nat.succ.inj lengths)
  rw [split, List.cons_append, List.headD_cons, List.tail_cons, List.headD_cons, List.tail_cons,
    List.zip_append sameLength]
  simp only [List.zip_cons_cons, List.zip_nil_right, List.foldlM_append, List.foldlM_cons,
    List.foldlM_nil, bind_assoc, bind_pure]

end Chain

theorem free_or_last (precedence : Precedence) (items : List Item) :
    Free precedence items ∨ ∃ front op back, items = front ++ operator op :: back ∧
      op.precedence = precedence ∧ Free precedence back := by
  induction items with
  | nil => exact .inl (free_nil precedence)
  | cons item items ih =>
      rcases ih with free | ⟨front, op, back, rfl, same, free⟩
      · cases item with
        | operand e => exact .inl (free_cons_operand free)
        | operator op =>
            by_cases same : op.precedence = precedence
            · exact .inr ⟨[], op, items, rfl, same, free⟩
            · refine .inl fun other member => ?_
              rcases List.mem_cons.mp member with h | member
              · obtain rfl := operator.inj h
                exact same
              · exact free other member
      · exact .inr ⟨item :: front, op, back, rfl, same, free⟩

@[elab_as_elim]
theorem chain_induction (precedence : Precedence) {motive : List Item → Prop}
    (piece : ∀ items, Free precedence items → motive items)
    (join : ∀ front op back, op.precedence = precedence → Free precedence back → motive front →
      motive (front ++ operator op :: back))
    (items : List Item) : motive items := by
  induction size : items.length using Nat.strongRecOn generalizing items with
  | ind n ih =>
      rcases free_or_last precedence items with free | ⟨front, op, back, rfl, same, free⟩
      · exact piece items free
      · have shorter : front.length < n := by rw [← size]; simp
        exact join front op back same free (ih front.length shorter front rfl)

end Item

namespace Expr

def items : Expr → List Item
  | absent => []
  | operation op left right => left.items ++ .operator op :: right.items
  | e => [.operand e]

def isSum : Expr → Bool
  | operation .add _ _ | operation .subtract _ _ => true
  | _ => false

def isAtom : Expr → Bool
  | number _ | bracketed _ => true
  | _ => false

def WellGrouped : Expr → Prop
  | number _ | absent => True
  | bracketed inner => inner.WellGrouped
  | operation op left right =>
      left.WellGrouped ∧ right.WellGrouped ∧
        match op with
        | .add | .subtract => right.isSum = false
        | .multiply | .divide => left.isSum = false ∧ right.isOperation = false

theorem isSum_operation (op : Operator) (left right : Expr) :
    (operation op left right).isSum = decide (op.precedence = .additive) := by
  cases op <;> rfl

theorem multiplicative_of_not_isSum {op : Operator} {left right : Expr}
    (h : (operation op left right).isSum = false) : op.precedence = .multiplicative := by
  cases op with
  | add | subtract => contradiction
  | multiply | divide => rfl

theorem isSum_of_not_isOperation {e : Expr} (h : e.isOperation = false) : e.isSum = false := by
  cases e <;> simp_all [isOperation, isSum]

section Shape

variable {op : Operator} {left right : Expr}

theorem wellGrouped_sum (additive : op.precedence = .additive) :
    (operation op left right).WellGrouped ↔
      left.WellGrouped ∧ right.WellGrouped ∧ right.isSum = false := by
  cases op with
  | add | subtract => rfl
  | multiply | divide => contradiction

theorem wellGrouped_product (multiplicative : op.precedence = .multiplicative) :
    (operation op left right).WellGrouped ↔
      left.WellGrouped ∧ right.WellGrouped ∧ left.isSum = false ∧ right.isOperation = false := by
  cases op with
  | add | subtract => contradiction
  | multiply | divide => rfl

end Shape

theorem not_isOperation_of_isAtom {e : Expr} (h : e.isAtom) : e.isOperation = false := by
  cases e <;> simp_all [isAtom, isOperation]

theorem items_of_isAtom {e : Expr} (h : e.isAtom) : e.items = [.operand e] := by
  cases e <;> simp_all [isAtom, items]

theorem free_items_of_not_isOperation {e : Expr} (precedence : Precedence)
    (h : e.isOperation = false) : Item.Free precedence e.items := by
  cases e <;> simp_all [isOperation, items, Item.Free]

theorem groupOperand_items {e : Expr} (h : e.isOperation = false) :
    Item.groupOperand e.items = .ok e := by
  cases e <;> simp_all [isOperation, items, Item.groupOperand]

theorem WellGrouped.free_items {e : Expr} (wellGrouped : e.WellGrouped) (h : e.isSum = false) :
    Item.Free .additive e.items := by
  induction e with
  | number | absent | bracketed => exact free_items_of_not_isOperation _ rfl
  | operation op left right leftFree _ =>
      have product := multiplicative_of_not_isSum h
      obtain ⟨leftGrouped, _, leftProduct, rightOperand⟩ :=
        (wellGrouped_product product).mp wellGrouped
      intro other member
      simp only [items, List.mem_append, List.mem_cons] at member
      rcases member with member | same | member
      · exact leftFree leftGrouped leftProduct other member
      · obtain rfl := Item.operator.inj same
        simp [product]
      · exact free_items_of_not_isOperation _ rightOperand other member

theorem groupProduct_items {e : Expr} (wellGrouped : e.WellGrouped) (h : e.isSum = false) :
    Item.groupProduct e.items = .ok e := by
  induction e with
  | number | absent | bracketed =>
      rw [Item.groupProduct, Item.chain_free (free_items_of_not_isOperation _ rfl)]
      exact groupOperand_items rfl
  | operation op left right leftItems _ =>
      have product := multiplicative_of_not_isSum h
      obtain ⟨leftGrouped, _, leftProduct, rightOperand⟩ :=
        (wellGrouped_product product).mp wellGrouped
      have first := leftItems leftGrouped leftProduct
      rw [Item.groupProduct] at first ⊢
      rw [items, Item.chain_append product _ (free_items_of_not_isOperation _ rightOperand), first,
        groupOperand_items rightOperand]
      rfl

theorem group_items {e : Expr} (wellGrouped : e.WellGrouped) : Item.group e.items = .ok e := by
  have whole (e : Expr) (wellGrouped : e.WellGrouped) (h : e.isSum = false) :
      Item.group e.items = .ok e := by
    rw [Item.group, Item.chain_free (wellGrouped.free_items h)]
    exact groupProduct_items wellGrouped h
  induction e with
  | number | absent | bracketed => exact whole _ wellGrouped rfl
  | operation op left right leftGroup _ =>
      cases kind : op.precedence with
      | multiplicative => exact whole _ wellGrouped (by simp [isSum_operation, kind])
      | additive =>
          obtain ⟨leftGrouped, rightGrouped, rightProduct⟩ :=
            (wellGrouped_sum kind).mp wellGrouped
          have first := leftGroup leftGrouped
          rw [Item.group] at first ⊢
          rw [items, Item.chain_append kind _ (rightGrouped.free_items rightProduct), first,
            groupProduct_items rightGrouped rightProduct]
          rfl

end Expr

namespace Item

def Ready : Item → Prop
  | operand e => e.isAtom ∧ e.WellGrouped
  | operator _ => True

theorem groupOperand_ok {items : List Item} {e : Expr} (ready : ∀ item ∈ items, Ready item)
    (h : groupOperand items = .ok e) :
    e.items = items ∧ e.WellGrouped ∧ e.isOperation = false := by
  match items with
  | [] =>
      cases h
      exact ⟨rfl, trivial, rfl⟩
  | [.operand a] =>
      cases h
      obtain ⟨atom, wellGrouped⟩ := ready _ List.mem_cons_self
      exact ⟨Expr.items_of_isAtom atom, wellGrouped, Expr.not_isOperation_of_isAtom atom⟩
  | .operator _ :: _ => cases h
  | .operand _ :: _ :: _ => cases h

theorem chain_ok {precedence : Precedence} {groupPiece : List Item → Except Failure Expr}
    (Inside : Item → Prop) (Piece Chain : Expr → Prop)
    (piece : ∀ items e, (∀ item ∈ items, Inside item) → Free precedence items →
      groupPiece items = .ok e → e.items = items ∧ Piece e)
    (single : ∀ e, Piece e → Chain e)
    (join : ∀ op left right, op.precedence = precedence → Chain left → Piece right →
      Chain (.operation op left right))
    {items : List Item} {e : Expr} (inside : ∀ item ∈ items, Inside item)
    (h : chain precedence groupPiece items = .ok e) : e.items = items ∧ Chain e := by
  induction items using chain_induction precedence generalizing e with
  | piece items free =>
      rw [chain_free free] at h
      obtain ⟨same, isPiece⟩ := piece items e inside free h
      exact ⟨same, single e isPiece⟩
  | join front op back same free ih =>
      rw [chain_append same front free] at h
      obtain ⟨left, leftRead, h⟩ := bind_ok_iff.mp h
      obtain ⟨right, rightRead, h⟩ := bind_ok_iff.mp h
      obtain rfl := pure_ok_iff.mp h
      obtain ⟨rfl, isChain⟩ :=
        ih (fun item member => inside item (List.mem_append_left _ member)) leftRead
      obtain ⟨rfl, isPiece⟩ := piece back right
        (fun item member => inside item (by simp [member])) free rightRead
      exact ⟨rfl, join op left right same isChain isPiece⟩

theorem groupProduct_ok {items : List Item} {e : Expr} (ready : ∀ item ∈ items, Ready item)
    (h : groupProduct items = .ok e) :
    e.items = items ∧ e.WellGrouped ∧ e.isSum = false := by
  refine chain_ok Ready (fun e => e.WellGrouped ∧ e.isOperation = false)
    (fun e => e.WellGrouped ∧ e.isSum = false) (fun _ _ inside _ => groupOperand_ok inside) ?_ ?_
    ready h
  · intro e ⟨wellGrouped, notOperation⟩
    exact ⟨wellGrouped, Expr.isSum_of_not_isOperation notOperation⟩
  · intro op left right product ⟨leftGrouped, notSum⟩ ⟨rightGrouped, notOperation⟩
    refine ⟨(Expr.wellGrouped_product product).mpr ?_, by simp [Expr.isSum_operation, product]⟩
    exact ⟨leftGrouped, rightGrouped, notSum, notOperation⟩

theorem group_ok {items : List Item} {e : Expr} (ready : ∀ item ∈ items, Ready item)
    (h : group items = .ok e) : e.items = items ∧ e.WellGrouped := by
  refine chain_ok Ready (fun e => e.WellGrouped ∧ e.isSum = false) Expr.WellGrouped
    (fun _ _ inside _ => groupProduct_ok inside) ?_ ?_ ready h
  · exact fun e isProduct => isProduct.1
  · intro op left right additive leftGrouped ⟨rightGrouped, notSum⟩
    exact (Expr.wellGrouped_sum additive).mpr ⟨leftGrouped, rightGrouped, notSum⟩

end Item

end Calculator
