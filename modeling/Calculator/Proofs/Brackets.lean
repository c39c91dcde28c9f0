import Mathlib.Data.List.Infix
import Calculator.Proofs.Passing
import Calculator.Proofs.Reading

set_option autoImplicit false

namespace Calculator

theorem prefix_append_iff {α : Type} {front a b : List α} :
    front <+: a ++ b ↔ front <+: a ∨ ∃ back, front = a ++ back ∧ back <+: b := by
  constructor
  next =>
    intro isFront
    rcases List.prefix_or_prefix_of_prefix isFront (List.prefix_append a b) with
      inside | ⟨back, rfl⟩
    · exact .inl inside
    · exact .inr ⟨back, rfl, (List.prefix_append_right_inj a).mp isFront⟩
  next =>
    rintro (inside | ⟨back, rfl, isBack⟩)
    · exact inside.trans (List.prefix_append a b)
    · exact (List.prefix_append_right_inj a).mpr isBack

section Excess

variable {α : Type} [DecidableEq α] {up down : α} {spare : Nat} {text : List α}

/-- No beginning of the text has more than `spare` symbols `up` in excess of its symbols `down`. -/
def ExcessAtMost (up down : α) (spare : Nat) (text : List α) : Prop :=
  ∀ front, front <+: text → front.count up ≤ front.count down + spare

theorem excessAtMost_nil : ExcessAtMost up down spare [] := by
  intro front isFront
  rw [List.prefix_nil.mp isFront]
  simp

theorem excessAtMost_up (distinct : up ≠ down) :
    ExcessAtMost up down (spare + 1) (up :: text) ↔ ExcessAtMost up down spare text := by
  constructor
  next =>
    intro h front isFront
    have fits := h (up :: front) (List.cons_prefix_cons.mpr ⟨rfl, isFront⟩)
    rw [List.count_cons_self, List.count_cons_of_ne distinct] at fits
    omega
  next =>
    intro h front isFront
    rcases List.prefix_cons_iff.mp isFront with rfl | ⟨shorter, rfl, isShorter⟩
    · simp
    · have fits := h shorter isShorter
      rw [List.count_cons_self, List.count_cons_of_ne distinct]
      omega

theorem not_excessAtMost_up (distinct : up ≠ down) : ¬ExcessAtMost up down 0 (up :: text) := by
  intro h
  have fits := h [up] (List.cons_prefix_cons.mpr ⟨rfl, List.nil_prefix⟩)
  rw [List.count_cons_self, List.count_cons_of_ne distinct, List.count_nil, List.count_nil] at fits
  omega

theorem excessAtMost_down (distinct : up ≠ down) :
    ExcessAtMost up down spare (down :: text) ↔ ExcessAtMost up down (spare + 1) text := by
  constructor
  next =>
    intro h front isFront
    have fits := h (down :: front) (List.cons_prefix_cons.mpr ⟨rfl, isFront⟩)
    rw [List.count_cons_self, List.count_cons_of_ne distinct.symm] at fits
    omega
  next =>
    intro h front isFront
    rcases List.prefix_cons_iff.mp isFront with rfl | ⟨shorter, rfl, isShorter⟩
    · simp
    · have fits := h shorter isShorter
      rw [List.count_cons_self, List.count_cons_of_ne distinct.symm]
      omega

theorem excessAtMost_other {a : α} (notUp : a ≠ up) (notDown : a ≠ down) :
    ExcessAtMost up down spare (a :: text) ↔ ExcessAtMost up down spare text := by
  constructor
  next =>
    intro h front isFront
    have fits := h (a :: front) (List.cons_prefix_cons.mpr ⟨rfl, isFront⟩)
    rwa [List.count_cons_of_ne notUp, List.count_cons_of_ne notDown] at fits
  next =>
    intro h front isFront
    rcases List.prefix_cons_iff.mp isFront with rfl | ⟨shorter, rfl, isShorter⟩
    · simp
    · have fits := h shorter isShorter
      rwa [List.count_cons_of_ne notUp, List.count_cons_of_ne notDown]

theorem excessAtMost_append {a b : List α} (even : a.count up = a.count down) :
    ExcessAtMost up down spare (a ++ b) ↔
      ExcessAtMost up down spare a ∧ ExcessAtMost up down spare b := by
  constructor
  next =>
    intro h
    refine ⟨fun front isFront => h front (prefix_append_iff.mpr (.inl isFront)), ?_⟩
    intro front isFront
    have fits := h (a ++ front) (prefix_append_iff.mpr (.inr ⟨front, rfl, isFront⟩))
    rw [List.count_append, List.count_append] at fits
    omega
  next =>
    rintro ⟨first, second⟩ front isFront
    rcases prefix_append_iff.mp isFront with inside | ⟨back, rfl, isBack⟩
    · exact first front inside
    · have fits := second back isBack
      rw [List.count_append, List.count_append]
      omega

theorem excessAtMost_of_notMem (none : up ∉ text) : ExcessAtMost up down spare text := by
  intro front isFront
  have noneInFront : up ∉ front := fun member => none (isFront.mem member)
  rw [List.count_eq_zero.mpr noneInFront]
  exact Nat.zero_le _

theorem ExcessAtMost.mono {more : Nat} (h : ExcessAtMost up down spare text)
    (le : spare ≤ more) : ExcessAtMost up down more text := by
  intro front isFront
  have fits := h front isFront
  omega

end Excess

structure Balanced (text : List Char) : Prop where
  backed : ExcessAtMost ')' '(' 0 text
  even : text.count '(' = text.count ')'

section Brackets

variable {c : Char} {spare : Nat} {a b text : List Char}

theorem balanced_of_plain (plain : ∀ c ∈ text, c ≠ '(' ∧ c ≠ ')') : Balanced text := by
  have noOpening : '(' ∉ text := fun member => (plain _ member).1 rfl
  have noClosing : ')' ∉ text := fun member => (plain _ member).2 rfl
  refine ⟨excessAtMost_of_notMem noClosing, ?_⟩
  rw [List.count_eq_zero.mpr noOpening, List.count_eq_zero.mpr noClosing]

theorem Balanced.append (first : Balanced a) (second : Balanced b) : Balanced (a ++ b) := by
  refine ⟨(excessAtMost_append first.even.symm).mpr ⟨first.backed, second.backed⟩, ?_⟩
  rw [List.count_append, List.count_append, first.even, second.even]

theorem Balanced.matched (whole : Balanced (a ++ c :: b)) (front : Balanced a) :
    ¬(c = ')' ∨ c = '(' ∧ ExcessAtMost ')' '(' 0 b) := by
  rintro (rfl | ⟨rfl, backed⟩)
  · have behind := (excessAtMost_append front.even.symm).mp whole.backed
    exact not_excessAtMost_up (by decide) behind.2
  · have even := whole.even
    have few := backed b List.prefix_rfl
    rw [List.count_append, List.count_append, List.count_cons_self,
      List.count_cons_of_ne (by decide), front.even] at even
    omega

theorem Balanced.enclosed (h : Balanced text) : Balanced ('(' :: (text ++ [')'])) := by
  constructor
  next =>
    have last : ExcessAtMost ')' '(' 1 [')'] := (excessAtMost_up (by decide)).mpr excessAtMost_nil
    apply (excessAtMost_down (by decide)).mpr
    exact (excessAtMost_append h.even.symm).mpr ⟨h.backed.mono (Nat.zero_le 1), last⟩
  next =>
    simp [h.even]

theorem excessAtMost_enclosed (even : text.count '(' = text.count ')') :
    ExcessAtMost '(' ')' (spare + 1) ('(' :: (text ++ [')'])) ↔
      ExcessAtMost '(' ')' spare text := by
  have last : ExcessAtMost '(' ')' spare [')'] :=
    (excessAtMost_down (by decide)).mpr excessAtMost_nil
  rw [excessAtMost_up (by decide), excessAtMost_append even]
  exact and_iff_left last

end Brackets

section Splitting

variable {depth : Nat} {text inside after : List Char}

theorem exists_of_map_splitClosing {c : Char}
    (found : (splitClosing depth text).map (Prod.map (c :: ·) id) = some (inside, after)) :
    ∃ shorter, inside = c :: shorter ∧ splitClosing depth text = some (shorter, after) := by
  obtain ⟨⟨shorter, _⟩, earlier, same⟩ := Option.map_eq_some_iff.mp found
  obtain ⟨rfl, rfl⟩ := Prod.mk.inj same
  exact ⟨shorter, rfl, earlier⟩

theorem backed_of_splitClosing (found : splitClosing depth text = some (inside, after)) :
    ExcessAtMost ')' '(' depth inside ∧ inside.count ')' = inside.count '(' + depth := by
  induction text generalizing depth inside with
  | nil => contradiction
  | cons c rest ih =>
      by_cases opening : c = '('
      · subst opening
        rw [splitClosing_opening] at found
        obtain ⟨shorter, rfl, earlier⟩ := exists_of_map_splitClosing found
        obtain ⟨backed, count⟩ := ih earlier
        refine ⟨(excessAtMost_down (by decide)).mpr backed, ?_⟩
        rw [List.count_cons_of_ne (by decide), List.count_cons_self]
        omega
      by_cases closing : c = ')'
      · subst closing
        cases depth with
        | zero =>
            rw [splitClosing_closing] at found
            obtain ⟨rfl, rfl⟩ := Prod.mk.inj (Option.some.inj found)
            exact ⟨excessAtMost_nil, rfl⟩
        | succ depth =>
            rw [splitClosing_inner] at found
            obtain ⟨shorter, rfl, earlier⟩ := exists_of_map_splitClosing found
            obtain ⟨backed, count⟩ := ih earlier
            refine ⟨(excessAtMost_up (by decide)).mpr backed, ?_⟩
            rw [List.count_cons_self, List.count_cons_of_ne (by decide)]
            omega
      · rw [splitClosing_plain ⟨opening, closing⟩] at found
        obtain ⟨shorter, rfl, earlier⟩ := exists_of_map_splitClosing found
        obtain ⟨backed, count⟩ := ih earlier
        refine ⟨(excessAtMost_other closing opening).mpr backed, ?_⟩
        rwa [List.count_cons_of_ne closing, List.count_cons_of_ne opening]

theorem backed_of_splitClosing_none (missing : splitClosing depth text = none) :
    ExcessAtMost ')' '(' depth text := by
  induction text generalizing depth with
  | nil => exact excessAtMost_nil
  | cons c rest ih =>
      by_cases opening : c = '('
      · subst opening
        rw [splitClosing_opening, Option.map_eq_none_iff] at missing
        exact (excessAtMost_down (by decide)).mpr (ih missing)
      by_cases closing : c = ')'
      · subst closing
        cases depth with
        | zero =>
            rw [splitClosing_closing] at missing
            contradiction
        | succ depth =>
            rw [splitClosing_inner, Option.map_eq_none_iff] at missing
            exact (excessAtMost_up (by decide)).mpr (ih missing)
      · rw [splitClosing_plain ⟨opening, closing⟩, Option.map_eq_none_iff] at missing
        exact (excessAtMost_other closing opening).mpr (ih missing)

theorem balanced_of_splitClosing (found : splitClosing 0 text = some (inside, after)) :
    Balanced inside := by
  obtain ⟨backed, count⟩ := backed_of_splitClosing found
  exact ⟨backed, count.symm⟩

end Splitting

section Check

variable {front rest : List Char}

theorem balanceFrom_of_backed (opened inner : List Nat) (position : Nat)
    (backed : ExcessAtMost ')' '(' inner.length front) (rest : List Char) :
    ∃ left : List Nat, left.length + front.count ')' = inner.length + front.count '(' ∧
      balanceFrom (inner ++ opened) position (front ++ rest) =
        balanceFrom (left ++ opened) (position + front.length) rest := by
  induction front generalizing inner position with
  | nil => exact ⟨inner, rfl, rfl⟩
  | cons c front ih =>
      have places : position + (c :: front).length = position + 1 + front.length := by
        rw [List.length_cons]
        omega
      rw [places, List.cons_append]
      by_cases opening : c = '('
      · subst opening
        obtain ⟨left, count, check⟩ :=
          ih (position :: inner) (position + 1) ((excessAtMost_down (by decide)).mp backed)
        refine ⟨left, ?_, check ▸ balanceFrom_opening⟩
        rw [List.count_cons_self, List.count_cons_of_ne (by decide)]
        rw [List.length_cons] at count
        omega
      by_cases closing : c = ')'
      · subst closing
        cases inner with
        | nil => exact absurd backed (not_excessAtMost_up (by decide))
        | cons innermost inner =>
            obtain ⟨left, count, check⟩ :=
              ih inner (position + 1) ((excessAtMost_up (by decide)).mp backed)
            refine ⟨left, ?_, check ▸ balanceFrom_closing⟩
            rw [List.count_cons_self, List.count_cons_of_ne (by decide), List.length_cons]
            omega
      · obtain ⟨left, count, check⟩ :=
          ih inner (position + 1) ((excessAtMost_other closing opening).mp backed)
        refine ⟨left, ?_, check ▸ balanceFrom_cons ⟨opening, closing⟩⟩
        rwa [List.count_cons_of_ne closing, List.count_cons_of_ne opening]

theorem balanceFrom_of_balanced (opened : List Nat) (position : Nat) (balanced : Balanced front)
    (rest : List Char) :
    balanceFrom opened position (front ++ rest) =
      balanceFrom opened (position + front.length) rest := by
  obtain ⟨left, count, check⟩ := balanceFrom_of_backed opened [] position balanced.backed rest
  have none : left = [] := by
    have even := balanced.even
    apply List.eq_nil_of_length_eq_zero
    rw [List.length_nil] at count
    omega
  rwa [none] at check

theorem balanceProblem?_of_balanced {text : String} (balanced : Balanced text.toList) :
    balanceProblem? text = none := by
  have whole := balanceFrom_of_balanced [] 0 balanced []
  rwa [List.append_nil] at whole

theorem balanceProblem?_unopened {text : String} (balanced : Balanced front)
    (parts : text.toList = front ++ ')' :: rest) :
    balanceProblem? text = some (.unopened front.length) := by
  rw [balanceProblem?, parts, balanceFrom_of_balanced [] 0 balanced, Nat.zero_add]
  rfl

theorem balanceProblem?_unclosed {text : String} (balanced : Balanced front)
    (backed : ExcessAtMost ')' '(' 0 rest) (parts : text.toList = front ++ '(' :: rest) :
    balanceProblem? text = some (.unclosed front.length) := by
  obtain ⟨left, _, check⟩ :=
    balanceFrom_of_backed [front.length] [] (front.length + 1) backed []
  rw [List.nil_append, List.append_nil] at check
  rw [balanceProblem?, parts, balanceFrom_of_balanced [] 0 balanced, Nat.zero_add,
    balanceFrom_opening, check, balanceFrom]
  simp

end Check

end Calculator
