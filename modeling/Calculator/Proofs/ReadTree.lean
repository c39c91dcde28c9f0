import Mathlib.Control.Monad.Basic
import Calculator.Proofs.Reading

set_option autoImplicit false

namespace Calculator

def Item.inOrder : Item → List Lexeme
  | operand e => e.inOrder
  | operator op => [.operator op]

theorem Expr.inOrder_items (e : Expr) : e.items.flatMap Item.inOrder = e.inOrder := by
  induction e with
  | number | bracketed => simp [items, Item.inOrder]
  | absent => rfl
  | operation op left right ihLeft ihRight =>
      simp [items, inOrder, Item.inOrder, ihLeft, ihRight]

/-- The trees that a text may stand for: they have its tokens in order, and are grouped by
precedence and from the left. -/
structure Expr.TreeOf (text : List Char) (e : Expr) : Prop where
  lexemes : (tokens text).map Token.lexeme? = e.inOrder.map some
  wellGrouped : e.WellGrouped

structure ItemsOf (text : List Char) (items : List Item) : Prop where
  lexemes : (tokens text).map Token.lexeme? = (items.flatMap Item.inOrder).map some
  ready : ∀ item ∈ items, item.Ready

namespace ItemsOf

variable {text inside after : List Char} {items inner others : List Item} {e : Expr}

theorem tree (h : ItemsOf text items) (grouped : Item.group items = .ok e) : e.TreeOf text := by
  obtain ⟨rfl, wellGrouped⟩ := Item.group_ok h.ready grouped
  exact ⟨by rw [h.lexemes, e.inOrder_items], wellGrouped⟩

theorem nil : ItemsOf [] [] := ⟨by simp, by simp⟩

theorem operator (op : Operator) (later : ItemsOf text items) :
    ItemsOf (op.symbol :: text) (.operator op :: items) := by
  refine ⟨?_, List.forall_mem_cons.mpr ⟨trivial, later.ready⟩⟩
  rw [tokens_operator]
  simp [later.lexemes, Token.lexeme?, Item.inOrder]

theorem numeral {run : List Char} {value : Float} (read : numeralValue? run = some value)
    (detached : Detached after) (later : ItemsOf after others) :
    ItemsOf (run ++ after) (.operand (.number value) :: others) := by
  obtain ⟨nonempty, numeric⟩ := numeralValue?_run read
  refine ⟨?_, List.forall_mem_cons.mpr ⟨⟨rfl, trivial⟩, later.ready⟩⟩
  rw [tokens_run nonempty numeric detached]
  simp [later.lexemes, read, Token.lexeme?, Item.inOrder, Expr.inOrder]

theorem bracket (first : e.TreeOf inside) (later : ItemsOf after others) :
    ItemsOf ('(' :: (inside ++ ')' :: after)) (.operand (.bracketed e) :: others) := by
  refine ⟨?_, List.forall_mem_cons.mpr ⟨⟨rfl, first.wellGrouped⟩, later.ready⟩⟩
  rw [tokens_opening, tokens_append (detached_cons (by decide)), tokens_closing]
  simp [first.lexemes, later.lexemes, Token.lexeme?, Item.inOrder, Expr.inOrder]

end ItemsOf

theorem Reads.itemsOf {levels : Nat} {text : List Char} {items : List Item}
    (h : Reads levels text items) : ItemsOf text items := by
  induction h with
  | nil => exact .nil
  | bracket _ _ grouped _ inside after => exact .bracket (inside.tree grouped) after
  | numeral read _ detached _ after => exact .numeral read detached after
  | operator _ rest => exact .operator _ rest

theorem Expr.treeOf_of_read {limit : Nat} {text : String} {tree : Expr}
    (h : Expr.read limit text = .ok tree) : tree.TreeOf text.toList := by
  obtain ⟨items, read, grouped⟩ := bind_ok_iff.mp h
  exact (reads_of_readItems read).itemsOf.tree grouped

end Calculator
