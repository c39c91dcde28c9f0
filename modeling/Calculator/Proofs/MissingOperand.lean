import Calculator.Proofs.ReadCanonical
import Calculator.Proofs.ReadTree

set_option autoImplicit false

namespace Calculator

namespace Expr

def parts : Expr → List Expr
  | number value => [number value]
  | absent => [absent]
  | bracketed inner => bracketed inner :: inner.parts
  | operation op left right => operation op left right :: (left.parts ++ right.parts)

def Filled (leads : Operator → Expr → Prop) : Expr → Prop
  | number _ | absent => True
  | bracketed inner => inner ≠ absent
  | operation op left right => right ≠ absent ∧ (left = absent → leads op right)

def IsSign (op : Operator) (_ : Expr) : Prop := op = .add ∨ op = .subtract

def Leads (op : Operator) (right : Expr) : Prop := IsSign op right ∨ right.isBracketed

theorem filled_of_regular {e part : Expr} (h : e.Regular) (member : part ∈ e.parts) :
    part.Filled Leads := by
  induction e with
  | number | absent =>
      obtain rfl := List.mem_singleton.mp member
      trivial
  | bracketed inner ih =>
      obtain ⟨present, regular⟩ := h
      rcases List.mem_cons.mp member with rfl | below
      · exact present
      · exact ih regular below
  | operation op left right ihLeft ihRight =>
      obtain ⟨present, leads, leftRegular, rightRegular⟩ := h
      rcases List.mem_cons.mp member with rfl | below
      · exact ⟨present, fun missing => (leads missing).imp_left Operator.additive_iff.mp⟩
      · rcases List.mem_append.mp below with inLeft | inRight
        · exact ihLeft leftRegular inLeft
        · exact ihRight rightRegular inRight

theorem inOrder_eq_nil {e : Expr} : e.inOrder = [] ↔ e = absent := by
  cases e <;> simp [inOrder]

theorem TreeOf.eq_absent_iff {text : List Char} {e : Expr} (h : e.TreeOf text) :
    e = absent ↔ tokens text = [] := by
  rw [← inOrder_eq_nil, ← List.map_eq_nil_iff, ← h.lexemes, List.map_eq_nil_iff]

end Expr

theorem tokens_canonicalChars_eq_nil {text : String} (valid : isValid text) :
    tokens (canonicalChars text.toList) = [] ↔ Spaces text.toList := by
  constructor
  next =>
    intro none
    rcases derives_of_isValid valid with blank | expression
    · exact blank
    · obtain ⟨e, built⟩ := expression.builds
      have lexemes := built.spells.lexemes
      rw [none, List.map_nil, eq_comm, List.map_eq_nil_iff, Expr.inOrder_eq_nil] at lexemes
      exact absurd lexemes built.present
  next =>
    intro blank
    rw [canonicalChars_spaces blank, tokens_nil]

theorem missing_of_isValid {text : String} (valid : isValid text) {limit : Nat} {tree : Expr}
    (read : Expr.read limit (canonical text) = .ok tree) :
    (tree = .absent ↔ Spaces text.toList) ∧ ∀ part ∈ tree.parts, part.Filled Expr.Leads := by
  constructor
  next =>
    have isTree := Expr.treeOf_of_read read
    rw [toList_canonical] at isTree
    rw [isTree.eq_absent_iff, tokens_canonicalChars_eq_nil valid]
  next =>
    intro part member
    exact Expr.filled_of_regular (regular_of_read_canonical valid read) member

theorem missing_of_isValid_nested :
    let tree : Expr := .operation .subtract .absent
      (.bracketed (.operation .multiply .absent (.bracketed (.number 2))))
    isValid "-(* (2))" ∧ Expr.read 2 (canonical "-(* (2))") = .ok tree ∧
      (tree = .absent ↔ Spaces "-(* (2))".toList) ∧
        ∀ part ∈ tree.parts, part.Filled Expr.Leads := by
  intro tree
  have valid : isValid "-(* (2))" := by decide +kernel
  have read : Expr.read 2 (canonical "-(* (2))") = .ok tree := by decide +kernel
  exact ⟨valid, read, missing_of_isValid valid read⟩

-- Not only signs stand before a first operand: `*(1)` is valid.
theorem not_only_signs_lead :
    ¬∀ (text : String) (limit : Nat) (tree : Expr), isValid text →
      Expr.read limit (canonical text) = .ok tree →
      (tree = .absent ↔ Spaces text.toList) ∧
        ∀ part ∈ tree.parts, part.Filled Expr.IsSign := by
  intro claim
  have valid : isValid "*(1)" := by decide +kernel
  have read : Expr.read 1 (canonical "*(1)") =
      .ok (.operation .multiply .absent (.bracketed (.number 1))) := by
    decide +kernel
  have filled := (claim _ _ _ valid read).2 _ List.mem_cons_self
  have sign : Operator.multiply = .add ∨ Operator.multiply = .subtract := filled.2 rfl
  exact absurd sign (by decide)

end Calculator
