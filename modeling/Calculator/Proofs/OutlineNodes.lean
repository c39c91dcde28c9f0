import Mathlib.Data.List.Infix
import Mathlib.Order.Bounds.Basic
import Calculator.Proofs.Drawing

set_option autoImplicit false

namespace Calculator.Expr

inductive Turn where
  | within
  | left
  | right
deriving DecidableEq, Repr

def operand? : Expr → Turn → Option Expr
  | bracketed inner, .within => some inner
  | operation _ left _, .left => some left
  | operation _ _ right, .right => some right
  | _, _ => none

def at? (e : Expr) (path : List Turn) : Option Expr := path.foldlM operand? e

def underTurn (turn : Turn) (entries : List (List Turn × Expr)) : List (List Turn × Expr) :=
  entries.map fun (path, node) => (turn :: path, node)

def nodes : Expr → List (List Turn × Expr)
  | number value => [([], number value)]
  | absent => [([], absent)]
  | bracketed inner => ([], bracketed inner) :: underTurn .within inner.nodes
  | operation op left right =>
      ([], operation op left right) :: (underTurn .left left.nodes ++ underTurn .right right.nodes)

def Earlier : List Turn → List Turn → Prop :=
  List.Lex fun turn turn' => turn = .left ∧ turn' = .right

def level (path : List Turn) : Nat := path.length + 1

def hasNext (path : List Turn) : Bool := path.getLast? == some .left

/-- What the line of the node at `path` has for the level of an ancestor, or for its own level. -/
def piece (path ancestor : List Turn) : String :=
  if ancestor = path then if hasNext path then "├─ " else "└─ "
  else if hasNext ancestor then "│  " else "   "

def pieces (path : List Turn) : List String := path.inits.map (piece path)

def line (entry : List Turn × Expr) : String := String.join (pieces entry.1) ++ entry.2.label

section Places

theorem at?_cons (e : Expr) (turn : Turn) (path : List Turn) :
    e.at? (turn :: path) = (e.operand? turn).bind (·.at? path) :=
  List.foldlM_cons

theorem mem_underTurn {turn : Turn} {path : List Turn} {node : Expr}
    {entries : List (List Turn × Expr)} :
    (path, node) ∈ underTurn turn entries ↔
      ∃ below, path = turn :: below ∧ (below, node) ∈ entries := by
  simp only [underTurn, List.mem_map, Prod.mk.injEq, Prod.exists]
  constructor
  next =>
    rintro ⟨below, _, member, rfl, rfl⟩
    exact ⟨below, rfl, member⟩
  next =>
    rintro ⟨below, rfl, member⟩
    exact ⟨below, node, member, rfl, rfl⟩

theorem mem_nodes (e : Expr) (path : List Turn) (node : Expr) :
    (path, node) ∈ e.nodes ↔ e.at? path = some node := by
  induction e generalizing path with
  | number | absent =>
      cases path with
      | nil => simp [nodes, at?, eq_comm]
      | cons turn path => simp [nodes, at?_cons, operand?]
  | bracketed inner ih =>
      rw [nodes, List.mem_cons, mem_underTurn]
      cases path with
      | nil => simp [at?, eq_comm]
      | cons turn path =>
          rw [at?_cons]
          cases turn <;> simp [operand?, ih]
  | operation op left right ihLeft ihRight =>
      rw [nodes, List.mem_cons, List.mem_append, mem_underTurn, mem_underTurn]
      cases path with
      | nil => simp [at?, eq_comm]
      | cons turn path =>
          rw [at?_cons]
          cases turn <;> simp [operand?, ihLeft, ihRight]

theorem at?_append_singleton (e : Expr) (path : List Turn) (turn : Turn) :
    e.at? (path ++ [turn]) = (e.at? path).bind (·.operand? turn) := by
  simp [at?]

theorem hasNext_iff {e node : Expr} {path : List Turn} (found : e.at? path = some node) :
    hasNext path ↔ ∃ parent sibling, path = parent ++ [.left] ∧
      e.at? (parent ++ [.right]) = some sibling := by
  rw [hasNext, beq_iff_eq, List.getLast?_eq_some_iff]
  constructor
  next =>
    rintro ⟨parent, rfl⟩
    rw [at?_append_singleton] at found
    obtain ⟨above, foundAbove, isLeft⟩ := Option.bind_eq_some_iff.mp found
    cases above with
    | number | absent | bracketed => contradiction
    | operation op left right =>
        refine ⟨parent, right, rfl, ?_⟩
        rw [at?_append_singleton, foundAbove]
        rfl
  next =>
    rintro ⟨parent, _, rfl, _⟩
    exact ⟨parent, rfl⟩

theorem mem_map_underTurn {turn : Turn} {entries : List (List Turn × Expr)} {path : List Turn}
    (member : path ∈ (underTurn turn entries).map Prod.fst) : ∃ below, path = turn :: below := by
  obtain ⟨⟨path, node⟩, inside, rfl⟩ := List.mem_map.mp member
  obtain ⟨below, same, _⟩ := mem_underTurn.mp inside
  exact ⟨below, same⟩

theorem pairwise_underTurn {turn : Turn} {entries : List (List Turn × Expr)}
    (h : (entries.map Prod.fst).Pairwise Earlier) :
    ((underTurn turn entries).map Prod.fst).Pairwise Earlier := by
  have paths : (underTurn turn entries).map Prod.fst = (entries.map Prod.fst).map (turn :: ·) := by
    simp [underTurn]
  rw [paths, List.pairwise_map]
  exact h.imp .cons

theorem pairwise_nodes (e : Expr) : (e.nodes.map Prod.fst).Pairwise Earlier := by
  induction e with
  | number | absent => exact List.pairwise_singleton _ _
  | bracketed inner ih =>
      rw [nodes, List.map_cons, List.pairwise_cons]
      refine ⟨fun path member => ?_, pairwise_underTurn ih⟩
      obtain ⟨below, rfl⟩ := mem_map_underTurn member
      exact .nil
  | operation op left right ihLeft ihRight =>
      rw [nodes, List.map_cons, List.pairwise_cons, List.map_append, List.pairwise_append]
      refine ⟨fun path member => ?_, pairwise_underTurn ihLeft, pairwise_underTurn ihRight, ?_⟩
      · rcases List.mem_append.mp member with inLeft | inRight
        · obtain ⟨below, rfl⟩ := mem_map_underTurn inLeft
          exact .nil
        · obtain ⟨below, rfl⟩ := mem_map_underTurn inRight
          exact .nil
      · intro path inLeft path' inRight
        obtain ⟨below, rfl⟩ := mem_map_underTurn inLeft
        obtain ⟨below', rfl⟩ := mem_map_underTurn inRight
        exact .rel ⟨rfl, rfl⟩

theorem depth_pos (e : Expr) : 0 < e.depth := by
  cases e with
  | number | absent => exact Nat.one_pos
  | bracketed | operation => exact Nat.add_pos_left Nat.one_pos _

theorem depth_of_operand? {e operand : Expr} {turn : Turn} (h : e.operand? turn = some operand) :
    operand.depth < e.depth := by
  cases e with
  | number | absent => contradiction
  | bracketed inner =>
      cases turn <;> cases h
      rw [depth]
      omega
  | operation op left right =>
      cases turn <;> cases h
      all_goals rw [depth]; omega

theorem level_le_depth {e node : Expr} {path : List Turn} (found : e.at? path = some node) :
    level path ≤ e.depth := by
  induction path generalizing e with
  | nil => exact e.depth_pos
  | cons turn path ih =>
      rw [at?_cons] at found
      obtain ⟨operand, isOperand, below⟩ := Option.bind_eq_some_iff.mp found
      exact Nat.lt_of_le_of_lt (ih below) (depth_of_operand? isOperand)

theorem exists_at_depth (e : Expr) :
    ∃ path node, e.at? path = some node ∧ level path = e.depth := by
  have under {e operand node : Expr} {path : List Turn} (turn : Turn)
      (isOperand : e.operand? turn = some operand) (found : operand.at? path = some node)
      (deepest : level path = operand.depth) :
      ∃ path node, e.at? path = some node ∧ level path = 1 + operand.depth := by
    refine ⟨turn :: path, node, ?_, ?_⟩
    · rw [at?_cons, isOperand]
      exact found
    · rw [← deepest, level, level, List.length_cons, Nat.add_comm]
  induction e with
  | number | absent => exact ⟨[], _, rfl, rfl⟩
  | bracketed inner ih =>
      obtain ⟨path, node, found, deepest⟩ := ih
      exact under .within rfl found deepest
  | operation op left right ihLeft ihRight =>
      obtain ⟨path, node, found, deepest⟩ := ihLeft
      obtain ⟨path', node', found', deepest'⟩ := ihRight
      rcases Nat.le_total right.depth left.depth with less | more
      · rw [depth, Nat.max_eq_left less]
        exact under .left rfl found deepest
      · rw [depth, Nat.max_eq_right more]
        exact under .right rfl found' deepest'

theorem isGreatest_level (e : Expr) :
    IsGreatest {n | ∃ entry ∈ e.nodes, level entry.1 = n} e.depth := by
  constructor
  next =>
    obtain ⟨path, node, found, deepest⟩ := e.exists_at_depth
    exact ⟨(path, node), (e.mem_nodes path node).mpr found, deepest⟩
  next =>
    rintro n ⟨⟨path, node⟩, member, rfl⟩
    exact level_le_depth ((e.mem_nodes path node).mp member)

end Places

section Lines

def lineUnder (turn : Turn) (entry : List Turn × Expr) : String :=
  String.join (entry.1.inits.map fun ancestor => piece (turn :: entry.1) (turn :: ancestor)) ++
    entry.2.label

theorem lineUnder_root (turn : Turn) (node : Expr) :
    lineUnder turn ([], node) = (if turn = .left then "├─ " else "└─ ") ++ node.label := by
  cases turn <;> simp [lineUnder, piece, hasNext]

theorem piece_cons_cons (turn next : Turn) (path ancestor : List Turn) :
    piece (turn :: next :: path) (turn :: next :: ancestor) =
      piece (next :: path) (next :: ancestor) := by
  simp [piece, hasNext]

theorem lineUnder_cons (turn next : Turn) (path : List Turn) (node : Expr) :
    lineUnder turn (next :: path, node) =
      (if turn = .left then "│  " else "   ") ++ lineUnder next (path, node) := by
  have rail : piece (turn :: next :: path) [turn] = if turn = .left then "│  " else "   " := by
    cases turn <;> simp [piece, hasNext]
  have below : (path.inits.map fun ancestor =>
        piece (turn :: next :: path) (turn :: next :: ancestor)) =
      path.inits.map fun ancestor => piece (next :: path) (next :: ancestor) :=
    List.map_congr_left fun ancestor _ => piece_cons_cons turn next path ancestor
  rw [lineUnder, List.inits_cons, List.map_cons, List.map_map, Function.comp_def, String.join_cons,
    rail, below, String.append_assoc]
  rfl

theorem map_lineUnder (turn next : Turn) (entries : List (List Turn × Expr)) :
    (underTurn next entries).map (lineUnder turn) =
      (entries.map (lineUnder next)).map ((if turn = .left then "│  " else "   ") ++ ·) := by
  simp only [underTurn, List.map_map]
  apply List.map_congr_left
  rintro ⟨path, node⟩ _
  exact lineUnder_cons turn next path node

theorem branch_cons (turn : Turn) (own : String) (below : List String) :
    branch (turn != .left) (own :: below) =
      ((if turn = .left then "├─ " else "└─ ") ++ own) ::
        below.map ((if turn = .left then "│  " else "   ") ++ ·) := by
  cases turn <;> rfl

theorem branch_outlineLines (e : Expr) (turn : Turn) :
    branch (turn != .left) e.outlineLines = e.nodes.map (lineUnder turn) := by
  induction e generalizing turn with
  | number | absent =>
      rw [nodes, outlineLines, branch_cons, List.map_singleton, lineUnder_root]
      rfl
  | bracketed inner ih =>
      rw [nodes, outlineLines, branch_cons, List.map_cons, lineUnder_root, map_lineUnder, ← ih]
      rfl
  | operation op left right ihLeft ihRight =>
      rw [nodes, outlineLines, branch_cons, List.map_cons, lineUnder_root, List.map_append,
        List.map_append, map_lineUnder, map_lineUnder, ← ihLeft, ← ihRight]
      rfl

-- The root has no sibling, like what is within a bracket.
theorem lineUnder_within (entry : List Turn × Expr) : lineUnder .within entry = line entry := by
  have next (ancestor : List Turn) : hasNext (.within :: ancestor) = hasNext ancestor := by
    cases ancestor <;> simp [hasNext]
  have same (ancestor : List Turn) :
      piece (.within :: entry.1) (.within :: ancestor) = piece entry.1 ancestor := by
    simp [piece, next]
  rw [lineUnder, line, pieces, funext same]

theorem outline_eq (e : Expr) : e.outline = "expression" :: e.nodes.map line := by
  rw [outline, ← funext lineUnder_within, ← branch_outlineLines]
  rfl

example : (operation .subtract absent (bracketed absent)).outline =
    ["expression", "└─ -", "   ├─ (empty) = 0", "   └─ ( )", "      └─ (empty) = 0"] := by
  decide

theorem length_pieces (path : List Turn) : (pieces path).length = level path := by
  rw [pieces, List.length_map, List.length_inits, level]

theorem length_of_mem_pieces {path : List Turn} {text : String} (member : text ∈ pieces path) :
    text.length = 3 := by
  obtain ⟨ancestor, _, rfl⟩ := List.mem_map.mp member
  unfold piece
  split
  · split <;> rfl
  · split <;> rfl

end Lines

structure Portrayed (e : Expr) : Prop where
  drawn : (e.draw (.start "expression")).lines = e.outline
  lines : e.outline = "expression" :: e.nodes.map line
  once : ∀ path node, (path, node) ∈ e.nodes ↔ e.at? path = some node
  ordered : (e.nodes.map Prod.fst).Pairwise Earlier
  width : ∀ path, (pieces path).length = level path ∧ ∀ text ∈ pieces path, text.length = 3
  siblings : ∀ path node, e.at? path = some node → (hasNext path ↔
    ∃ parent sibling, path = parent ++ [.left] ∧ e.at? (parent ++ [.right]) = some sibling)
  deepest : IsGreatest {n | ∃ entry ∈ e.nodes, level entry.1 = n} e.depth

theorem portrayed (e : Expr) : e.Portrayed where
  drawn := e.lines_draw
  lines := e.outline_eq
  once := e.mem_nodes
  ordered := e.pairwise_nodes
  width := fun path => ⟨length_pieces path, fun _ => length_of_mem_pieces⟩
  siblings := fun _ _ => hasNext_iff
  deepest := e.isGreatest_level

end Calculator.Expr
