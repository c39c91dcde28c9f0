import Mathlib.Control.Monad.Basic
import Calculator.Proofs.Grouping

set_option autoImplicit false

namespace Calculator.Item

def splitLast? (operators : List Operator) :
    List Item → Option (List Item × Operator × List Item)
  | [] => none
  | item :: rest =>
      match splitLast? operators rest with
      | some (front, op, back) => some (item :: front, op, back)
      | none =>
          match item with
          | operator op => if op ∈ operators then some ([], op, rest) else none
          | operand _ => none

section SplitLast

variable {operators : List Operator} {precedence : Precedence} {items front back : List Item}
  {op : Operator} (kind : ∀ op, op ∈ operators ↔ op.precedence = precedence)
include kind

theorem splitLast?_of_free (free : Free precedence items) : splitLast? operators items = none := by
  induction items with
  | nil => rfl
  | cons item items ih =>
      cases item with
      | operand e => simp only [splitLast?, ih free.of_cons]
      | operator op =>
          have other : op ∉ operators := fun member =>
            free op List.mem_cons_self ((kind op).mp member)
          simp only [splitLast?, ih free.of_cons, if_neg other]

theorem splitLast?_append (same : op.precedence = precedence) (front : List Item)
    (free : Free precedence back) :
    splitLast? operators (front ++ operator op :: back) = some (front, op, back) := by
  have member := (kind op).mpr same
  induction front with
  | nil =>
      simp only [List.nil_append, splitLast?, splitLast?_of_free kind free, if_pos member]
  | cons item front ih => simp only [List.cons_append, splitLast?, ih]

theorem splitLast?_eq_none_iff : splitLast? operators items = none ↔ Free precedence items := by
  constructor
  next =>
    intro missing
    rcases free_or_last precedence items with free | ⟨front, op, back, rfl, same, free⟩
    · exact free
    · rw [splitLast?_append kind same front free] at missing
      contradiction
  next =>
    exact splitLast?_of_free kind

theorem splitLast?_eq_some_iff :
    splitLast? operators items = some (front, op, back) ↔
      items = front ++ operator op :: back ∧ op.precedence = precedence ∧ Free precedence back := by
  constructor
  next =>
    intro found
    rcases free_or_last precedence items with free | ⟨front', op', back', rfl, same, free⟩
    · rw [splitLast?_of_free kind free] at found
      contradiction
    · rw [splitLast?_append kind same front' free] at found
      cases found
      exact ⟨rfl, same, free⟩
  next =>
    rintro ⟨rfl, same, free⟩
    exact splitLast?_append kind same front free

theorem length_of_splitLast? (found : splitLast? operators items = some (front, op, back)) :
    front.length < items.length ∧ back.length < items.length := by
  obtain ⟨rfl, _⟩ := (splitLast?_eq_some_iff kind).mp found
  simp only [List.length_append, List.length_cons]
  omega

end SplitLast

def splitPoint? (items : List Item) : Option (List Item × Operator × List Item) :=
  match splitLast? [.add, .subtract] items with
  | some found => some found
  | none => splitLast? [.multiply, .divide] items

theorem mem_additive (op : Operator) : op ∈ [.add, .subtract] ↔ op.precedence = .additive := by
  simp [Operator.additive_iff]

theorem mem_multiplicative (op : Operator) :
    op ∈ [.multiply, .divide] ↔ op.precedence = .multiplicative := by
  simp [Operator.multiplicative_iff]

theorem length_of_splitPoint? {items front back : List Item} {op : Operator}
    (found : splitPoint? items = some (front, op, back)) :
    front.length < items.length ∧ back.length < items.length := by
  unfold splitPoint? at found
  split at found
  next additive =>
    cases found
    exact length_of_splitLast? mem_additive additive
  next => exact length_of_splitLast? mem_multiplicative found

/-- The tree of one bracket level by splitting: both sides of the operator are split on their own,
and what cannot be split is one operand or nothing. -/
def splitRightmost (items : List Item) : Except Failure Expr :=
  match _found : splitPoint? items with
  | some (front, op, back) => do
      let left ← splitRightmost front
      let right ← splitRightmost back
      return .operation op left right
  | none =>
      match items with
      | [] => .ok .absent
      | [operand e] => .ok e
      | _ => .error .missingOperator
termination_by items.length
decreasing_by
  · exact (length_of_splitPoint? _found).1
  · exact (length_of_splitPoint? _found).2

section Group

variable {front back items : List Item} {op : Operator}

theorem group_of_free (free : Free .additive items) : group items = groupProduct items :=
  chain_free free

theorem groupProduct_of_free (free : Free .multiplicative items) :
    groupProduct items = groupOperand items :=
  chain_free free

theorem group_sum (additive : op.precedence = .additive) (front : List Item)
    (free : Free .additive back) :
    group (front ++ operator op :: back) = do
      let left ← group front
      let right ← group back
      return .operation op left right := by
  rw [group_of_free free]
  exact chain_append additive front free

theorem group_product (multiplicative : op.precedence = .multiplicative)
    (noSum : Free .additive (front ++ operator op :: back)) (free : Free .multiplicative back) :
    group (front ++ operator op :: back) = do
      let left ← group front
      let right ← group back
      return .operation op left right := by
  have noSumFront : Free .additive front := fun other member =>
    noSum other (List.mem_append_left _ member)
  have noSumBack : Free .additive back := fun other member => noSum other (by simp [member])
  rw [group_of_free noSum, group_of_free noSumFront, group_of_free noSumBack,
    groupProduct_of_free free]
  exact chain_append multiplicative front free

theorem group_of_splitPoint? (found : splitPoint? items = some (front, op, back)) :
    group items = do
      let left ← group front
      let right ← group back
      return .operation op left right := by
  unfold splitPoint? at found
  split at found
  next additive =>
    cases found
    obtain ⟨rfl, same, free⟩ := (splitLast?_eq_some_iff mem_additive).mp additive
    exact group_sum same front free
  next noSum =>
    obtain ⟨rfl, same, free⟩ := (splitLast?_eq_some_iff mem_multiplicative).mp found
    exact group_product same ((splitLast?_eq_none_iff mem_additive).mp noSum) free

theorem group_of_splitPoint?_none (missing : splitPoint? items = none) :
    group items = groupOperand items := by
  unfold splitPoint? at missing
  split at missing
  next => contradiction
  next noSum =>
    rw [group_of_free ((splitLast?_eq_none_iff mem_additive).mp noSum),
      groupProduct_of_free ((splitLast?_eq_none_iff mem_multiplicative).mp missing)]

theorem splitRightmost_of_splitPoint? (found : splitPoint? items = some (front, op, back)) :
    splitRightmost items = do
      let left ← splitRightmost front
      let right ← splitRightmost back
      return .operation op left right := by
  conv => lhs; rw [splitRightmost]
  split
  next found' =>
    cases found.symm.trans found'
    rfl
  next missing =>
    rw [found] at missing
    contradiction

theorem splitRightmost_of_splitPoint?_none (missing : splitPoint? items = none) :
    splitRightmost items = groupOperand items := by
  rw [splitRightmost]
  split
  next found =>
    rw [missing] at found
    contradiction
  next =>
    match items with
    | [] | [.operand _] | [.operator _] | .operand _ :: _ :: _ | .operator _ :: _ :: _ => rfl

end Group

/-- Joining the pieces of a bracket level from the left gives what splitting it at its rightmost
operator gives, of the lowest precedence first: the same tree, or the same failure. -/
theorem group_eq_splitRightmost (items : List Item) : group items = splitRightmost items := by
  induction size : items.length using Nat.strongRecOn generalizing items with
  | ind n ih =>
      cases point : splitPoint? items with
      | none => rw [group_of_splitPoint?_none point, splitRightmost_of_splitPoint?_none point]
      | some found =>
          obtain ⟨front, op, back⟩ := found
          obtain ⟨frontShorter, backShorter⟩ := length_of_splitPoint? point
          rw [group_of_splitPoint? point, splitRightmost_of_splitPoint? point,
            ih front.length (size ▸ frontShorter) front rfl,
            ih back.length (size ▸ backShorter) back rfl]

end Calculator.Item
