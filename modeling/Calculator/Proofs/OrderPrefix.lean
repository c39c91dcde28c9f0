import Calculator.Proofs.OrderSteps

set_option autoImplicit false

namespace Calculator

open SymbolClass (next)

/-- The order check passes over `front`, from the class `previous` to the class `last`, in view of
the rest behind it. -/
inductive Scans (rest : List Char) : SymbolClass → List Char → SymbolClass → Prop where
  | nothing {last : SymbolClass} : Scans rest last [] last
  | meaningless {previous last : SymbolClass} {c : Char} {front : List Char} :
      Meaningless c → Scans rest previous front last → Scans rest previous (c :: front) last
  | operator {previous last : SymbolClass} {c : Char} {front : List Char} :
      isOperator c → operatorFits c previous (next (front ++ rest)) →
      Scans rest .operator front last → Scans rest previous (c :: front) last
  | opening {previous last : SymbolClass} {front : List Char} :
      ¬(previous = .closing ∨ previous = .number) →
      Scans rest .opening front last → Scans rest previous ('(' :: front) last
  | closing {previous last : SymbolClass} {front : List Char} :
      ¬(previous = .operator ∨ previous = .opening) →
      Scans rest .closing front last → Scans rest previous (')' :: front) last
  | numeral {previous last : SymbolClass} {c : Char} {run front : List Char} :
      ¬(previous = .closing ∨ previous = .number) → c.isDigit → (∀ d ∈ run, isNumeric d) →
      (c :: run).countP isSeparator ≤ 1 → Detached (front ++ rest) →
      Scans rest .number front last → Scans rest previous (c :: run ++ front) last

def endsLookahead (c : Char) : Bool := c.isDigit || isOperator c || isBracket c

theorem next_of_endsLookahead {c : Char} (h : endsLookahead c) (rest : List Char) :
    next (c :: rest) = .of c := by
  rw [next]
  exact if_pos h

theorem next_eq_of_take {text text' : List Char} {n : Nat} (same : text'.take n = text.take n)
    (symbol : ∃ c ∈ text.take n, endsLookahead c) : next text' = next text := by
  induction n generalizing text text' with
  | zero => simp at symbol
  | succ n ih =>
      cases text with
      | nil => simp at symbol
      | cons c text =>
          cases text' with
          | nil => simp at same
          | cons c' text' =>
              rw [List.take_succ_cons, List.take_succ_cons] at same
              obtain ⟨rfl, others⟩ := List.cons.inj same
              rw [next, next]
              split
              next => rfl
              next passed =>
                refine ih others ?_
                obtain ⟨d, member, ends⟩ := symbol
                rw [List.take_succ_cons] at member
                rcases List.mem_cons.mp member with rfl | behind
                · exact absurd ends passed
                · exact ⟨d, behind, ends⟩

theorem operatorFits_opening {c : Char} {previous ahead : SymbolClass}
    (fits : operatorFits c previous ahead) : operatorFits c previous .opening := by
  simp only [operatorFits, Bool.and_eq_true] at fits ⊢
  exact ⟨⟨fits.1.1, by decide⟩, by simp⟩

theorem Detached.exchange {front rest rest' : List Char} (h : Detached (front ++ rest))
    (same : Detached rest → Detached rest') : Detached (front ++ rest') := by
  cases front with
  | nil => exact same h
  | cons c front => exact detached_cons (h c rfl)

section Scans

variable {previous last : SymbolClass} {front rest rest' : List Char}

theorem Scans.orderFrom_eq (h : Scans rest previous front last) (position : Nat) :
    orderFrom previous position (front ++ rest) =
      orderFrom last (position + front.length) rest := by
  induction h generalizing position with
  | nothing => rfl
  | meaningless none _ ih =>
      rw [List.cons_append, orderFrom_meaningless none, ih, List.length_cons, Nat.add_right_comm,
        Nat.add_assoc]
  | operator operator fits _ ih =>
      rw [List.cons_append, orderFrom_operator operator, if_pos fits, ih, List.length_cons,
        Nat.add_right_comm, Nat.add_assoc]
  | opening fits _ ih =>
      rw [List.cons_append, orderFrom_opening, if_neg fits, ih, List.length_cons,
        Nat.add_right_comm, Nat.add_assoc]
  | closing fits _ ih =>
      rw [List.cons_append, orderFrom_closing, if_neg fits, ih, List.length_cons,
        Nat.add_right_comm, Nat.add_assoc]
  | numeral fits digit numeric few detached _ ih =>
      rw [List.append_assoc, List.cons_append, orderFrom_digit digit, if_neg fits,
        takeWhile_run numeric detached, dropWhile_run numeric detached, if_neg (Nat.not_lt.mpr few),
        ih, List.length_append, Nat.add_assoc]

theorem Scans.ahead (h : Scans rest previous front last) :
    (∀ rest', next (front ++ rest') = next (front ++ rest)) ∨
      last = previous ∧ ∀ rest', next (front ++ rest') = next rest' := by
  have seen {c : Char} (ends : endsLookahead c) (front : List Char) (rest' : List Char) :
      next (c :: front ++ rest') = next (c :: front ++ rest) := by
    rw [List.cons_append, List.cons_append, next_of_endsLookahead ends, next_of_endsLookahead ends]
  induction h with
  | nothing => exact .inr ⟨rfl, fun _ => rfl⟩
  | meaningless none _ ih =>
      simp only [List.cons_append, next_of_meaningless none]
      exact ih
  | operator operator => exact .inl (seen (by simp [endsLookahead, operator]) _)
  | opening | closing => exact .inl (seen (by decide) _)
  | numeral _ digit =>
      simp only [List.append_assoc, List.cons_append]
      refine .inl fun rest' => ?_
      rw [next_of_endsLookahead (by simp [endsLookahead, digit]),
        next_of_endsLookahead (by simp [endsLookahead, digit])]

theorem Scans.exchange (h : Scans rest previous front last)
    (detached : Detached rest → Detached rest')
    (ahead : last = .operator → next rest' = next rest ∨ next rest' = .opening) :
    Scans rest' previous front last := by
  induction h with
  | nothing => exact .nothing
  | meaningless none _ ih => exact .meaningless none (ih ahead)
  | operator operator fits later ih =>
      refine .operator operator ?_ (ih ahead)
      rcases later.ahead with same | ⟨isLast, through⟩
      · rwa [same]
      · rw [through] at fits ⊢
        rcases ahead isLast with same | opens
        · rwa [same]
        · rw [opens]
          exact operatorFits_opening fits
  | opening fits _ ih => exact .opening fits (ih ahead)
  | closing fits _ ih => exact .closing fits (ih ahead)
  | numeral fits digit numeric few apart _ ih =>
      exact .numeral fits digit numeric few (apart.exchange detached) (ih ahead)

end Scans

inductive Blames (previous : SymbolClass) (position : Nat) (c : Char) (rest : List Char) :
    Problem → Prop where
  | separator : isSeparator c → Blames previous position c rest (.misplaced c position)
  | operator :
      isOperator c → ¬operatorFits c previous (next rest) →
      Blames previous position c rest (.misplaced c position)
  | operand :
      c.isDigit ∨ c = '(' → previous = .closing ∨ previous = .number →
      Blames previous position c rest (.misplaced c position)
  | closing :
      c = ')' → previous = .operator ∨ previous = .opening →
      Blames previous position c rest (.misplaced c position)
  | malformed :
      c.isDigit → ¬(previous = .closing ∨ previous = .number) →
      1 < (c :: rest.takeWhile isNumeric).countP isSeparator →
      Blames previous position c rest
        (.malformedNumber (String.ofList (c :: rest.takeWhile isNumeric)) position)

namespace Blames

variable {previous : SymbolClass} {position : Nat} {c : Char} {rest rest' : List Char}
  {problem : Problem}

theorem orderFrom_eq (h : Blames previous position c rest problem) :
    orderFrom previous position (c :: rest) = some problem := by
  cases h with
  | separator separator => exact orderFrom_separator separator
  | operator operator refused => rw [orderFrom_operator operator, if_neg refused]
  | operand begins refused =>
      rcases begins with digit | rfl
      · rw [orderFrom_digit digit, if_pos refused]
      · rw [orderFrom_opening, if_pos refused]
  | closing closes refused =>
      subst closes
      rw [orderFrom_closing, if_pos refused]
  | malformed digit fits many => rw [orderFrom_digit digit, if_neg fits, if_pos many]

theorem misplaced_exchange {symbol : Char} {place : Nat}
    (h : Blames previous position c rest (.misplaced symbol place))
    (same : next rest' = next rest) :
    Blames previous position c rest' (.misplaced symbol place) := by
  cases h with
  | separator separator => exact .separator separator
  | operator operator refused => exact .operator operator (same ▸ refused)
  | operand begins refused => exact .operand begins refused
  | closing closes refused => exact .closing closes refused

theorem malformed_exchange {literal : String} {place : Nat}
    (h : Blames previous position c rest (.malformedNumber literal place))
    (same : rest.takeWhile isNumeric <+: rest') :
    ∃ literal', Blames previous position c rest' (.malformedNumber literal' place) := by
  cases h with
  | malformed digit fits many =>
      obtain ⟨more, rfl⟩ := same
      have numeric : ∀ d ∈ rest.takeWhile isNumeric, isNumeric d :=
        List.all_eq_true.mp List.all_takeWhile
      have longer : (c :: rest.takeWhile isNumeric).countP isSeparator ≤
          (c :: (rest.takeWhile isNumeric ++ more).takeWhile isNumeric).countP isSeparator := by
        rw [List.takeWhile_append_of_pos numeric, ← List.cons_append, List.countP_append]
        exact Nat.le_add_right _ _
      exact ⟨_, .malformed digit fits (Nat.lt_of_lt_of_le many longer)⟩

end Blames

section Stopping

variable {previous : SymbolClass} {position : Nat} {text : List Char} {problem : Problem}

def StopsIn (previous : SymbolClass) (position : Nat) (text : List Char) (problem : Problem) :
    Prop :=
  ∃ front c rest last, text = front ++ c :: rest ∧ Scans (c :: rest) previous front last ∧
    problem.position = position + front.length ∧ Blames last problem.position c rest problem

theorem Blames.stopsIn {c : Char} {rest : List Char} (h : Blames previous position c rest problem) :
    StopsIn previous position (c :: rest) problem := by
  have place : problem.position = position := by
    cases h <;> rfl
  exact ⟨[], c, rest, previous, rfl, .nothing, place, place ▸ h⟩

theorem StopsIn.after {middle : SymbolClass} {part : List Char}
    (h : StopsIn middle (position + part.length) text problem)
    (passes : ∀ front rest last, text = front ++ rest → Scans rest middle front last →
      Scans rest previous (part ++ front) last) :
    StopsIn previous position (part ++ text) problem := by
  obtain ⟨front, c, rest, last, rfl, passed, place, blamed⟩ := h
  refine ⟨part ++ front, c, rest, last, by rw [List.append_assoc], passes _ _ _ rfl passed, ?_,
    blamed⟩
  rw [place, List.length_append, Nat.add_assoc]

theorem stopsIn_of_orderFrom (h : orderFrom previous position text = some problem) :
    StopsIn previous position text problem := by
  induction size : text.length using Nat.strongRecOn generalizing previous position text with
  | ind n ih =>
      cases text with
      | nil =>
          rw [orderFrom_nil] at h
          contradiction
      | cons c text =>
          have step {last : SymbolClass}
              (later : orderFrom last (position + 1) text = some problem) :
              StopsIn last (position + [c].length) text problem :=
            ih text.length (by rw [← size, List.length_cons]; omega) later rfl
          rw [← List.singleton_append]
          rcases meaning_cases c with none | digit | separator | operator | rfl | rfl
          · rw [orderFrom_meaningless none] at h
            exact (step h).after fun _ _ _ _ later => .meaningless none later
          · rw [orderFrom_digit digit] at h
            split at h
            next refused =>
              obtain rfl := Option.some.inj h
              exact (Blames.operand (.inl digit) refused).stopsIn
            split at h
            next fits many =>
              obtain rfl := Option.some.inj h
              exact (Blames.malformed digit fits many).stopsIn
            next fits few =>
              have shorter : (text.dropWhile isNumeric).length < n := by
                have := (List.dropWhile_sublist isNumeric (l := text)).length_le
                rw [← size, List.length_cons]
                omega
              have numeric : ∀ d ∈ text.takeWhile isNumeric, isNumeric d :=
                List.all_eq_true.mp List.all_takeWhile
              rw [← List.takeWhile_append_dropWhile (p := isNumeric) (l := text)]
              exact (ih _ shorter h rfl).after fun _ _ _ parts later =>
                .numeral fits digit numeric (Nat.not_lt.mp few)
                  (parts ▸ detached_dropWhile text) later
          · rw [orderFrom_separator separator] at h
            obtain rfl := Option.some.inj h
            exact (Blames.separator separator).stopsIn
          · rw [orderFrom_operator operator] at h
            split at h
            next fits =>
              exact (step h).after fun _ _ _ parts later => .operator operator (parts ▸ fits) later
            next refused =>
              obtain rfl := Option.some.inj h
              exact (Blames.operator operator refused).stopsIn
          · rw [orderFrom_opening] at h
            split at h
            next refused =>
              obtain rfl := Option.some.inj h
              exact (Blames.operand (.inr rfl) refused).stopsIn
            next fits => exact (step h).after fun _ _ _ _ later => .opening fits later
          · rw [orderFrom_closing] at h
            split at h
            next refused =>
              obtain rfl := Option.some.inj h
              exact (Blames.closing rfl refused).stopsIn
            next fits => exact (step h).after fun _ _ _ _ later => .closing fits later

end Stopping

def completion : SymbolClass → List Char
  | .operator => ['(', '1', ')']
  | _ => []

theorem orderFrom_completion (last : SymbolClass) (position : Nat) :
    orderFrom last position (completion last) = none := by
  cases last with
  | operator =>
      have behind : [')'].dropWhile isNumeric = [')'] := by decide
      rw [completion, orderFrom_opening, if_neg (by decide), orderFrom_digit (by decide)]
      rw [if_neg (by decide), if_neg (by decide)]
      rw [behind, orderFrom_closing, if_neg (by decide), orderFrom_nil]
  | number | opening | closing | other => exact orderFrom_nil

theorem Scans.exists_completed {rest front : List Char} {previous last : SymbolClass}
    (h : Scans rest previous front last) (position : Nat) :
    ∃ more, orderFrom previous position (front ++ more) = none := by
  have detached : Detached (completion last) := by
    cases last with
    | operator => exact detached_cons (by decide)
    | number | opening | closing | other => exact detached_nil
  have completed : Scans (completion last) previous front last := by
    refine h.exchange (fun _ => detached) fun isOperator => .inr ?_
    rw [isOperator]
    rfl
  exact ⟨completion last, by rw [completed.orderFrom_eq, orderFrom_completion]⟩

-- The part that has been passed is passed also before a rest that begins alike and, for a last
-- operator, offers it the same symbol.
theorem Scans.stops_again {front rest rest' : List Char} {c : Char} {last : SymbolClass}
    {problem : Problem} (passed : Scans (c :: rest) .opening front last)
    (ahead : next (c :: rest') = next (c :: rest))
    (blamed : Blames last front.length c rest' problem) :
    orderFrom .opening 0 (front ++ c :: rest') = some problem := by
  have again : Scans (c :: rest') .opening front last :=
    passed.exchange (fun detached => detached_cons (detached c rfl)) fun _ => .inl ahead
  rw [again.orderFrom_eq, Nat.zero_add]
  exact blamed.orderFrom_eq

theorem exists_rest_of_take {α : Type} {front rest other : List α} {a : α} {n : Nat}
    (same : other.take (front.length + 1 + n) = (front ++ a :: rest).take (front.length + 1 + n)) :
    ∃ rest', other = front ++ a :: rest' ∧ rest'.take n = rest.take n := by
  have size : (front ++ [a]).length = front.length + 1 := by simp
  rw [List.append_cons] at same
  have begins : other.take (front.length + 1) = front ++ [a] := by
    have shorter := congrArg (List.take (front.length + 1)) same
    rw [List.take_take, List.take_take, Nat.min_eq_left (Nat.le_add_right _ n)] at shorter
    rwa [List.take_left' size] at shorter
  have ends : (other.drop (front.length + 1)).take n = rest.take n := by
    have behind := congrArg (List.drop (front.length + 1)) same
    rw [← List.take_drop, ← List.take_drop] at behind
    rwa [List.drop_left' size] at behind
  refine ⟨_, ?_, ends⟩
  rw [List.append_cons, ← begins, List.take_append_drop]

theorem misplaced_again {text other : String} {c : Char} {p q : Nat}
    (h : orderProblem? text = some (.misplaced c p)) (behind : p < q)
    (symbol : ∃ d ∈ text.toList[q]?, endsLookahead d)
    (same : other.toList.take (q + 1) = text.toList.take (q + 1)) :
    orderProblem? other = some (.misplaced c p) := by
  obtain ⟨front, d, rest, last, parts, passed, place, blamed⟩ := stopsIn_of_orderFrom h
  obtain rfl : p = front.length := by simpa [Problem.position] using place
  obtain ⟨k, rfl⟩ : ∃ k, q = front.length + 1 + k := ⟨q - (front.length + 1), by omega⟩
  rw [parts] at symbol
  rw [parts, Nat.add_assoc _ k] at same
  obtain ⟨rest', parts', alike⟩ := exists_rest_of_take same
  have seen : ∃ e ∈ rest.take (k + 1), endsLookahead e := by
    obtain ⟨e, found, ends⟩ := symbol
    rw [List.append_cons, List.getElem?_append_right (by simp)] at found
    refine ⟨e, List.mem_of_getElem? (i := k) ?_, ends⟩
    rw [List.getElem?_take_of_lt (Nat.lt_succ_self k)]
    simpa using found
  have ahead := next_eq_of_take alike seen
  have aheadAll : next (d :: rest') = next (d :: rest) := by
    rw [next, next, ahead]
  rw [orderProblem?, parts']
  exact passed.stops_again aheadAll (blamed.misplaced_exchange ahead)

theorem malformed_again {text other : String} {literal : String} {p : Nat}
    (h : orderProblem? text = some (.malformedNumber literal p))
    (same : other.toList.take (p + ((text.toList.drop p).takeWhile isNumeric).length) =
      text.toList.take (p + ((text.toList.drop p).takeWhile isNumeric).length)) :
    ∃ literal', orderProblem? other = some (.malformedNumber literal' p) := by
  obtain ⟨front, d, rest, last, parts, passed, place, blamed⟩ := stopsIn_of_orderFrom h
  obtain rfl : p = front.length := by simpa [Problem.position] using place
  have digit : d.isDigit := by
    cases blamed with
    | malformed digit => exact digit
  have run : (text.toList.drop front.length).takeWhile isNumeric =
      d :: rest.takeWhile isNumeric := by
    rw [parts, List.drop_left, List.takeWhile_cons_of_pos (isNumeric_of_isDigit digit)]
  rw [run, parts, List.length_cons, Nat.add_comm _ 1, ← Nat.add_assoc] at same
  obtain ⟨rest', parts', alike⟩ := exists_rest_of_take same
  have begins : rest.takeWhile isNumeric <+: rest' := by
    have whole := List.prefix_iff_eq_take.mp (List.takeWhile_prefix isNumeric (l := rest))
    rw [whole, ← alike]
    exact List.take_prefix _ _
  obtain ⟨literal', again⟩ := blamed.malformed_exchange begins
  have ahead : next (d :: rest') = next (d :: rest) := by
    rw [SymbolClass.next_cons_of_isDigit digit, SymbolClass.next_cons_of_isDigit digit]
  refine ⟨literal', ?_⟩
  rw [orderProblem?, parts']
  exact passed.stops_again ahead again

/-- The check of the order blames the first place that could not be put right behind it: what stands
before the place can be continued to a text that is in order. Once the next symbol behind a
misplaced one is known, or a malformed number up to its end, the problem stays whatever follows. -/
theorem orderProblem?_earliest {text : String} {problem : Problem}
    (h : orderProblem? text = some problem) :
    (∃ more, orderProblem? (String.ofList (text.toList.take problem.position ++ more)) = none) ∧
      (∀ c p, problem = .misplaced c p →
        ∀ q, p < q → (∃ d ∈ text.toList[q]?, endsLookahead d) →
          ∀ other : String, other.toList.take (q + 1) = text.toList.take (q + 1) →
            orderProblem? other = some (.misplaced c p)) ∧
      (∀ literal p, problem = .malformedNumber literal p →
        ∀ other : String,
          other.toList.take (p + ((text.toList.drop p).takeWhile isNumeric).length) =
            text.toList.take (p + ((text.toList.drop p).takeWhile isNumeric).length) →
          ∃ literal', orderProblem? other = some (.malformedNumber literal' p)) := by
  refine ⟨?_, ?_, ?_⟩
  next =>
    obtain ⟨front, c, rest, last, parts, passed, place, _⟩ := stopsIn_of_orderFrom h
    obtain ⟨more, completed⟩ := passed.exists_completed 0
    refine ⟨more, ?_⟩
    rw [parts, place, Nat.zero_add, List.take_left, orderProblem?, String.toList_ofList, completed]
  next =>
    rintro c p rfl q behind symbol other same
    exact misplaced_again h behind symbol same
  next =>
    rintro literal p rfl other same
    exact malformed_again h same

-- Looking ahead passes over the separator, which is a problem of its own.
theorem orderProblem?_earliest_separator :
    orderProblem? "1 +(* .5" = some (.misplaced '*' 4) ∧
      (∃ more, orderProblem? (String.ofList (['1', ' ', '+', '('] ++ more)) = none) ∧
      ∀ other : String, other.toList.take 8 = "1 +(* .5".toList →
        orderProblem? other = some (.misplaced '*' 4) := by
  have found : orderProblem? "1 +(* .5" = some (.misplaced '*' 4) := by decide +kernel
  obtain ⟨completed, misplaced, _⟩ := orderProblem?_earliest found
  refine ⟨found, completed, fun other same => ?_⟩
  exact misplaced '*' 4 rfl 7 (by decide) ⟨'5', by decide, by decide⟩ other same

end Calculator
