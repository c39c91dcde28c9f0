import Calculator.Proofs.Passing

set_option autoImplicit false

namespace Calculator

open SymbolClass (next)

def Problem.relocated (moved : Nat → Nat) : Problem → Problem
  | unacceptable symbol position => unacceptable symbol (moved position)
  | unopened position => unopened (moved position)
  | unclosed position => unclosed (moved position)
  | misplaced symbol position => misplaced symbol (moved position)
  | malformedNumber literal position => malformedNumber literal (moved position)

def Replaces (c' c : Char) : Prop := c' = c ∨ Meaningless c ∧ Meaningless c'

instance (c' c : Char) : Decidable (Replaces c' c) :=
  inferInstanceAs (Decidable (c' = c ∨ Meaningless c ∧ Meaningless c'))

/-- The second text is the first one with meaningless characters exchanged for others, and others
written between its characters, though not into a number. `moved` tells where the character from a
place of the first text stands now. -/
structure Refilled (moved : Nat → Nat) (text text' : List Char) : Prop where
  ordered : ∀ j < text.length, ∀ i < j, moved i < moved j
  kept : ∀ i (_ : i < text.length), ∃ _ : moved i < text'.length, Replaces text'[moved i] text[i]
  filled : ∀ j (_ : j < text'.length), (∀ i < text.length, moved i ≠ j) → Meaningless text'[j]
  joined : ∀ i (_ : i < text.length) (_ : i + 1 < text.length), isNumeric text[i] →
    isNumeric text[i + 1] → moved (i + 1) = moved i + 1

inductive RefillsFrom (moved : Nat → Nat) : Nat → Nat → List Char → List Char → Prop where
  | done {place place' : Nat} {fill : List Char} :
      (∀ c ∈ fill, Meaningless c) → RefillsFrom moved place place' [] fill
  | step {place place' : Nat} {fill rest rest' : List Char} {c c' : Char} :
      (∀ c ∈ fill, Meaningless c) → Replaces c' c → moved place = place' + fill.length →
      (isNumeric c → ∀ d ∈ rest.head?, isNumeric d → rest'.head? = some d) →
      RefillsFrom moved (place + 1) (moved place + 1) rest rest' →
      RefillsFrom moved place place' (c :: rest) (fill ++ c' :: rest')

theorem Replaces.eq {c c' : Char} (h : Replaces c' c) (meaning : ¬Meaningless c) : c' = c :=
  h.resolve_right fun both => meaning both.1

theorem Replaces.meaningless {c c' : Char} (h : Replaces c' c) (none : Meaningless c) :
    Meaningless c' := by
  rcases h with rfl | ⟨_, none'⟩
  · exact none
  · exact none'

theorem drop_eq_take_append {α : Type} {l : List α} {low high : Nat} (le : low ≤ high)
    (inside : high < l.length) :
    l.drop low = (l.drop low).take (high - low) ++ l[high] :: l.drop (high + 1) := by
  have parts := List.take_append_drop (high - low) (l.drop low)
  rw [List.drop_drop, Nat.add_sub_cancel' le, List.drop_eq_getElem_cons inside] at parts
  exact parts.symm

namespace Refilled

variable {moved : Nat → Nat} {text text' : List Char} (h : Refilled moved text text')
include h

theorem lt_iff {i j : Nat} (iInside : i < text.length) (jInside : j < text.length) :
    moved i < moved j ↔ i < j := by
  rcases Nat.lt_trichotomy i j with less | rfl | more
  · exact iff_of_true (h.ordered j jInside i less) less
  · simp
  · have order := h.ordered i iInside j more
    omega

theorem meaningless_between {low high : Nat}
    (free : ∀ i < text.length, moved i < low ∨ high ≤ moved i) :
    ∀ c ∈ (text'.drop low).take (high - low), Meaningless c := by
  intro c member
  obtain ⟨k, found⟩ := List.mem_iff_getElem?.mp member
  rw [List.getElem?_take, List.getElem?_drop] at found
  split at found
  next below =>
    obtain ⟨inside, rfl⟩ := List.getElem?_eq_some_iff.mp found
    refine h.filled (low + k) inside fun i bound => ?_
    have outside := free i bound
    omega
  next => contradiction

theorem getElem?_beside {i : Nat} (inside : i + 1 < text.length) (numeric : isNumeric text[i])
    (numeric' : isNumeric text[i + 1]) : text'[moved i + 1]? = some text[i + 1] := by
  obtain ⟨inside', replaces⟩ := h.kept (i + 1) inside
  rw [← h.joined i _ inside numeric numeric', List.getElem?_eq_getElem inside',
    replaces.eq (not_meaningless_of_isNumeric numeric')]

-- The induction is on the characters still to come. Those that have been passed, and no others,
-- have moved to places before `place'`.
theorem refillsFrom {place place' : Nat}
    (passed : ∀ i < text.length, moved i < place' ↔ i < place) :
    RefillsFrom moved place place' (text.drop place) (text'.drop place') := by
  induction left : text.length - place generalizing place place' with
  | zero =>
      have whole : (text'.drop place').take (text'.length - place') = text'.drop place' :=
        List.take_of_length_le (by simp)
      rw [List.drop_of_length_le (by omega), ← whole]
      refine .done (h.meaningless_between fun i inside => .inl ?_)
      exact (passed i inside).mpr (by omega)
  | succ n ih =>
      have inside : place < text.length := by omega
      obtain ⟨inside', replaces⟩ := h.kept place inside
      have notBefore : place' ≤ moved place := by
        have := passed place inside
        omega
      have free : ∀ i < text.length, moved i < place' ∨ moved place ≤ moved i := by
        intro i bound
        have before := passed i bound
        have order := h.lt_iff bound inside
        omega
      have later : ∀ i < text.length, moved i < moved place + 1 ↔ i < place + 1 := by
        intro i bound
        have order := h.lt_iff inside bound
        omega
      rw [List.drop_eq_getElem_cons inside, drop_eq_take_append notBefore inside']
      refine .step (h.meaningless_between free) replaces ?_ ?_ (ih later (by omega))
      next =>
        rw [List.length_take, List.length_drop]
        omega
      next =>
        intro numeric d isHead numeric'
        rw [List.head?_drop] at isHead ⊢
        obtain ⟨beside, rfl⟩ := List.getElem?_eq_some_iff.mp isHead
        exact h.getElem?_beside beside numeric numeric'

end Refilled

section Checks

variable {moved : Nat → Nat} {place place' : Nat} {fill text text' : List Char}

theorem next_fill (h : ∀ c ∈ fill, Meaningless c) (rest : List Char) :
    next (fill ++ rest) = next rest := by
  induction fill with
  | nil => rfl
  | cons c fill ih =>
      obtain ⟨first, others⟩ := List.forall_mem_cons.mp h
      rw [List.cons_append, next_of_meaningless first, ih others]

theorem orderFrom_fill (h : ∀ c ∈ fill, Meaningless c) (previous : SymbolClass) (position : Nat)
    (rest : List Char) :
    orderFrom previous position (fill ++ rest) =
      orderFrom previous (position + fill.length) rest := by
  induction fill generalizing position with
  | nil => rfl
  | cons c fill ih =>
      obtain ⟨first, others⟩ := List.forall_mem_cons.mp h
      rw [List.cons_append, orderFrom_meaningless first, ih others, List.length_cons]
      congr 1
      omega

theorem detached_fill (h : ∀ c ∈ fill, Meaningless c) {rest : List Char}
    (detached : Detached rest) : Detached (fill ++ rest) := by
  cases fill with
  | nil => exact detached
  | cons c fill => exact detached_cons (not_isNumeric_of_meaningless (h c List.mem_cons_self))

theorem balanceFrom_fill (h : ∀ c ∈ fill, Meaningless c) (opened : List Nat) (position : Nat)
    (rest : List Char) :
    balanceFrom opened position (fill ++ rest) =
      balanceFrom opened (position + fill.length) rest :=
  balanceFrom_append fun c member => ne_brackets_of_meaningless (h c member)

namespace RefillsFrom

theorem next_eq (h : RefillsFrom moved place place' text text') : next text' = next text := by
  induction h with
  | done fill =>
      have nothing := next_fill fill []
      rwa [List.append_nil] at nothing
  | @step _ _ _ _ _ c _ fill replaces _ _ _ ih =>
      rw [next_fill fill]
      by_cases meaning : Meaningless c
      · rw [next_of_meaningless meaning, next_of_meaningless (replaces.meaningless meaning), ih]
      · rw [replaces.eq meaning, next, next, ih]

theorem run (h : RefillsFrom moved place place' text text')
    (joined : ∀ d ∈ text.head?, isNumeric d → text'.head? = some d) :
    text'.takeWhile isNumeric = text.takeWhile isNumeric ∧
      RefillsFrom moved (place + (text.takeWhile isNumeric).length)
        (place' + (text.takeWhile isNumeric).length) (text.dropWhile isNumeric)
        (text'.dropWhile isNumeric) := by
  induction h with
  | @done _ _ fill meaningless =>
      have detached : Detached (fill ++ []) := detached_fill meaningless detached_nil
      rw [List.append_nil] at detached
      rw [detached.takeWhile_eq, detached.dropWhile_eq]
      exact ⟨rfl, .done meaningless⟩
  | @step place place' fill rest rest' c c' meaningless replaces moves beside later ih =>
      by_cases numeric : isNumeric c
      · have first := joined c rfl numeric
        obtain rfl := replaces.eq (not_meaningless_of_isNumeric numeric)
        obtain rfl : fill = [] := by
          cases fill with
          | nil => rfl
          | cons f fill =>
              obtain rfl : f = c' := by simpa using first
              exact absurd (meaningless f List.mem_cons_self) (not_meaningless_of_isNumeric numeric)
        obtain ⟨same, behind⟩ := ih (beside numeric)
        obtain rfl : moved place = place' := by simpa using moves
        rw [List.nil_append, List.takeWhile_cons_of_pos numeric, List.takeWhile_cons_of_pos numeric,
          List.dropWhile_cons_of_pos numeric, List.dropWhile_cons_of_pos numeric, same]
        refine ⟨rfl, ?_⟩
        rw [List.length_cons, ← Nat.succ_add_eq_add_succ, ← Nat.succ_add_eq_add_succ]
        exact behind
      · have plain : isNumeric c = false := by simpa using numeric
        have plain' : isNumeric c' = false := by
          rcases replaces with rfl | ⟨_, none⟩
          · exact plain
          · exact not_isNumeric_of_meaningless none
        have detached : Detached (c :: rest) := detached_cons plain
        have detached' : Detached (fill ++ c' :: rest') :=
          detached_fill meaningless (detached_cons plain')
        rw [detached.takeWhile_eq, detached.dropWhile_eq, detached'.takeWhile_eq,
          detached'.dropWhile_eq]
        exact ⟨rfl, .step meaningless replaces moves beside later⟩

theorem balanceFrom_eq (h : RefillsFrom moved place place' text text') (opened : List Nat) :
    balanceFrom (opened.map moved) place' text' =
      (balanceFrom opened place text).map (·.relocated moved) := by
  induction h generalizing opened with
  | @done _ place' _ fill =>
      have nothing := balanceFrom_fill fill (opened.map moved) place' []
      rw [List.append_nil] at nothing
      rw [nothing, balanceFrom, balanceFrom, List.getLast?_map]
      cases opened.getLast? <;> rfl
  | @step place place' fill rest rest' c c' meaningless replaces moves _ _ ih =>
      rw [balanceFrom_fill meaningless, ← moves]
      by_cases opening : c = '('
      · subst opening
        rw [replaces.eq (by decide), balanceFrom_opening, balanceFrom_opening]
        exact ih (place :: opened)
      by_cases closing : c = ')'
      · subst closing
        rw [replaces.eq (by decide)]
        cases opened with
        | nil => rfl
        | cons innermost outer =>
            rw [List.map_cons, balanceFrom_closing, balanceFrom_closing]
            exact ih outer
      · have plain' : c' ≠ '(' ∧ c' ≠ ')' := by
          rcases replaces with rfl | ⟨_, none⟩
          · exact ⟨opening, closing⟩
          · exact ne_brackets_of_meaningless none
        rw [balanceFrom_cons plain', balanceFrom_cons ⟨opening, closing⟩]
        exact ih opened

theorem orderFrom_eq (h : RefillsFrom moved place place' text text') (previous : SymbolClass) :
    orderFrom previous place' text' =
      (orderFrom previous place text).map (·.relocated moved) := by
  -- A number is passed as a whole, so the induction is on the length of the rest.
  induction size : text.length using Nat.strongRecOn
    generalizing previous place place' text text' with
  | ind n ih =>
      cases h with
      | done fill =>
          have nothing := orderFrom_fill fill previous place' []
          rw [List.append_nil] at nothing
          rw [nothing, orderFrom_nil, orderFrom_nil]
          rfl
      | @step _ _ fill rest rest' c c' meaningless replaces moves joined later =>
          have shorter : rest.length < n := by rw [← size, List.length_cons]; omega
          have behind (last : SymbolClass) := ih _ shorter later last rfl
          rw [orderFrom_fill meaningless, ← moves]
          rcases meaning_cases c with none | digit | separator | operator | rfl | rfl
          · rw [orderFrom_meaningless none, orderFrom_meaningless (replaces.meaningless none),
              behind]
          · have numeric := isNumeric_of_isDigit digit
            rw [replaces.eq (not_meaningless_of_isNumeric numeric)]
            obtain ⟨same, rests⟩ := later.run (joined numeric)
            have length := (List.dropWhile_sublist isNumeric (l := rest)).length_le
            have afterRun := ih _ (by omega) rests .number rfl
            rw [orderFrom_digit digit, orderFrom_digit digit, same, List.length_cons]
            split
            · rfl
            split
            · rfl
            · rw [Nat.add_comm _ 1, ← Nat.add_assoc, ← Nat.add_assoc, afterRun]
          · have numeric := isNumeric_of_isSeparator separator
            rw [replaces.eq (not_meaningless_of_isNumeric numeric), orderFrom_separator separator,
              orderFrom_separator separator]
            rfl
          · rw [replaces.eq (not_meaningless_of_isOperator operator), orderFrom_operator operator,
              orderFrom_operator operator, later.next_eq]
            split
            · exact behind _
            · rfl
          · rw [replaces.eq (by decide), orderFrom_opening, orderFrom_opening]
            split
            · rfl
            · exact behind _
          · rw [replaces.eq (by decide), orderFrom_closing, orderFrom_closing]
            split
            · rfl
            · exact behind _

end RefillsFrom

end Checks

/-- Spaces and unknown characters carry no meaning for the brackets and the order. Exchanging them
and writing more of them, but not into a number, changes no result: a problem moves along with the
character that it blames. -/
theorem problems_of_refilled {moved : Nat → Nat} {text text' : String}
    (h : Refilled moved text.toList text'.toList) :
    balanceProblem? text' = (balanceProblem? text).map (·.relocated moved) ∧
      orderProblem? text' = (orderProblem? text).map (·.relocated moved) := by
  have rests : RefillsFrom moved 0 0 text.toList text'.toList :=
    h.refillsFrom (by simp)
  exact ⟨rests.balanceFrom_eq [], rests.orderFrom_eq .opening⟩

theorem problems_of_refilled_tab :
    let moved (i : Nat) : Nat := [1, 3, 4, 6, 7, 9].getD i 0
    Refilled moved "(1 .5*".toList "\t( 1é .5 *".toList ∧
      balanceProblem? "\t( 1é .5 *" = some (.unclosed (moved 0)) ∧
      orderProblem? "\t( 1é .5 *" = some (.misplaced '.' (moved 3)) := by
  intro moved
  have refilled : Refilled moved "(1 .5*".toList "\t( 1é .5 *".toList :=
    ⟨by decide +kernel, by decide +kernel, by decide +kernel, by decide +kernel⟩
  have open' : balanceProblem? "(1 .5*" = some (.unclosed 0) := by decide +kernel
  have stray : orderProblem? "(1 .5*" = some (.misplaced '.' 3) := by decide +kernel
  obtain ⟨balance, order⟩ := problems_of_refilled refilled
  rw [open'] at balance
  rw [stray] at order
  exact ⟨refilled, balance, order⟩

end Calculator
