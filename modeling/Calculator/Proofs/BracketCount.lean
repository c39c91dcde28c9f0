import Calculator.Proofs.Brackets

set_option autoImplicit false

namespace Calculator

structure ShortestExcess (text front : List Char) : Prop where
  isFront : front <+: text
  excess : front.count '(' < front.count ')'
  shortest : ∀ other, other <+: text → other.count '(' < other.count ')' →
    front.length ≤ other.length

structure StaysOpen (text : List Char) (position : Nat) : Prop where
  opening : text[position]? = some '('
  even : (text.take position).count '(' = (text.take position).count ')'
  above : ∀ front, front <+: text → position < front.length →
    front.count ')' < front.count '('

theorem StaysOpen.unique {text : List Char} {p q : Nat} (first : StaysOpen text p)
    (second : StaysOpen text q) : p = q := by
  have notBelow {p q : Nat} (lower : StaysOpen text p) (upper : StaysOpen text q) : ¬p < q := by
    intro below
    have inside := (List.getElem?_eq_some_iff.mp upper.opening).1
    have contains : p < (text.take q).length := by
      rw [List.length_take]
      omega
    have more := lower.above _ (List.take_prefix q text) contains
    have even := upper.even
    omega
  have notLess := notBelow first second
  have notMore := notBelow second first
  omega

theorem ShortestExcess.length_eq {text front other : List Char} (h : ShortestExcess text front)
    (h' : ShortestExcess text other) : front.length = other.length :=
  Nat.le_antisymm (h.shortest other h'.isFront h'.excess) (h'.shortest front h.isFront h.excess)

theorem not_shortestExcess {text : List Char} (backed : ExcessAtMost ')' '(' 0 text)
    (front : List Char) : ¬ShortestExcess text front := by
  intro h
  have few := backed front h.isFront
  have many := h.excess
  omega

section Unmatched

variable {front rest : List Char}

theorem shortestExcess_of_balanced (balanced : Balanced front) :
    ShortestExcess (front ++ ')' :: rest) (front ++ [')']) := by
  refine ⟨⟨rest, by simp⟩, ?_, ?_⟩
  next =>
    rw [List.count_append, List.count_append, balanced.even, List.count_singleton_self]
    simp
  next =>
    intro other isOther excess
    -- A shorter beginning lies within the balanced part.
    rcases prefix_append_iff.mp isOther with inside | ⟨more, rfl, _⟩
    · have few := balanced.backed other inside
      omega
    · cases more with
      | nil =>
          rw [List.append_nil] at excess
          have even := balanced.even
          omega
      | cons => simp

theorem staysOpen_of_backed (balanced : Balanced front) (backed : ExcessAtMost ')' '(' 0 rest) :
    StaysOpen (front ++ '(' :: rest) front.length := by
  refine ⟨by simp, by simpa using balanced.even, ?_⟩
  intro other isOther longer
  rcases prefix_append_iff.mp isOther with inside | ⟨more, rfl, isMore⟩
  · have bound := inside.length_le
    omega
  · rcases List.prefix_cons_iff.mp isMore with rfl | ⟨behind, rfl, isBehind⟩
    · simp at longer
    · have few := backed behind isBehind
      rw [List.count_append, List.count_append, balanced.even, List.count_cons_self,
        List.count_cons_of_ne (by decide)]
      omega

theorem backed_opening (balanced : Balanced front) (backed : ExcessAtMost ')' '(' 0 rest) :
    ExcessAtMost ')' '(' 0 (front ++ '(' :: rest) := by
  refine (excessAtMost_append balanced.even.symm).mpr ⟨balanced.backed, ?_⟩
  exact (excessAtMost_down (by decide)).mpr (backed.mono (Nat.zero_le 1))

end Unmatched

def HasUnmatched (text : List Char) : Prop :=
  ∃ front c rest, text = front ++ c :: rest ∧ Balanced front ∧
    (c = ')' ∨ c = '(' ∧ ExcessAtMost ')' '(' 0 rest)

theorem HasUnmatched.behind {part text : List Char} (h : HasUnmatched text)
    (balanced : Balanced part) : HasUnmatched (part ++ text) := by
  obtain ⟨front, c, rest, rfl, before, unmatched⟩ := h
  exact ⟨part ++ front, c, rest, by simp, balanced.append before, unmatched⟩

theorem balanced_or_unmatched (text : List Char) : Balanced text ∨ HasUnmatched text := by
  -- A group that is closed is passed as a whole, so the induction is on the length.
  induction size : text.length using Nat.strongRecOn generalizing text with
  | ind n ih =>
      have passed {part : List Char} (after : List Char) (balanced : Balanced part)
          (parts : text = part ++ after) (shorter : after.length < n) :
          Balanced text ∨ HasUnmatched text := by
        rw [parts]
        exact (ih _ shorter after rfl).imp balanced.append (·.behind balanced)
      have nothing : Balanced [] := balanced_of_plain (by simp)
      cases text with
      | nil => exact .inl nothing
      | cons c rest =>
          by_cases closing : c = ')'
          · exact .inr ⟨[], c, rest, rfl, nothing, .inl closing⟩
          by_cases opening : c = '('
          · subst opening
            cases found : splitClosing 0 rest with
            | none =>
                have backed := backed_of_splitClosing_none found
                exact .inr ⟨[], '(', rest, rfl, nothing, .inr ⟨rfl, backed⟩⟩
            | some parts =>
                obtain ⟨inside, after⟩ := parts
                obtain rfl := splitClosing_eq_append found
                have enclosed := (balanced_of_splitClosing found).enclosed
                refine passed after enclosed (by simp) ?_
                rw [← size]
                simp
                omega
          · have plain : Balanced [c] := balanced_of_plain (by simp [opening, closing])
            exact passed rest plain rfl (by simp [← size])

/-- The check of the brackets agrees with counting them. It blames the bracket that ends the
shortest excess of closing ones or, without one, the only bracket that stays open. -/
theorem balanceProblem?_by_counting (text : String) :
    (balanceProblem? text = none ↔ Balanced text.toList) ∧
      (∀ position, balanceProblem? text = some (.unopened position) ↔
        ∃ front, ShortestExcess text.toList front ∧ front.length = position + 1) ∧
      (¬Balanced text.toList → (∀ front, ¬ShortestExcess text.toList front) →
        ∃ position, balanceProblem? text = some (.unclosed position) ∧
          ∀ other, StaysOpen text.toList other ↔ other = position) := by
  rcases balanced_or_unmatched text.toList with
    balanced | ⟨front, c, rest, parts, balanced, unmatched⟩
  next =>
    rw [balanceProblem?_of_balanced balanced]
    refine ⟨iff_of_true rfl balanced, fun position => iff_of_false (by simp) ?_,
      fun notBalanced => absurd balanced notBalanced⟩
    rintro ⟨front, excess, _⟩
    exact not_shortestExcess balanced.backed front excess
  next =>
    have notBalanced : ¬Balanced text.toList := by
      intro whole
      exact (parts ▸ whole).matched balanced unmatched
    rcases unmatched with rfl | ⟨rfl, backed⟩
    next =>
      have excess : ShortestExcess text.toList (front ++ [')']) :=
        parts ▸ shortestExcess_of_balanced balanced
      rw [balanceProblem?_unopened balanced parts]
      refine ⟨iff_of_false (by simp) notBalanced, fun position => ?_,
        fun _ noExcess => absurd excess (noExcess _)⟩
      constructor
      next =>
        intro same
        obtain rfl : front.length = position := by simpa using same
        exact ⟨_, excess, by simp⟩
      next =>
        rintro ⟨other, isShortest, length⟩
        obtain rfl : front.length = position := by
          simpa [length] using excess.length_eq isShortest
        rfl
    next =>
      have stays : StaysOpen text.toList front.length := parts ▸ staysOpen_of_backed balanced backed
      have noExcess := not_shortestExcess (parts ▸ backed_opening balanced backed)
      rw [balanceProblem?_unclosed balanced backed parts]
      refine ⟨iff_of_false (by simp) notBalanced, fun position => iff_of_false (by simp) ?_,
        fun _ _ => ⟨front.length, rfl, fun other => ⟨fun h => h.unique stays, ?_⟩⟩⟩
      · rintro ⟨other, excess, _⟩
        exact noExcess other excess
      · rintro rfl
        exact stays

end Calculator
