import Calculator.Proofs.FailurePlace

set_option autoImplicit false

namespace Calculator

structure ByteRange where
  start : Nat
  stop : Nat
  depth : Nat
deriving DecidableEq, Repr

namespace ByteRange

def whole (text : String) : ByteRange := ⟨0, text.utf8ByteSize, 0⟩

def length (range : ByteRange) : Nat := range.stop - range.start

def between (range : ByteRange) (opening closing : Nat) : ByteRange :=
  ⟨opening + 1, closing, range.depth + 1⟩

end ByteRange

/-- The steps that could go wrong, and those that lead from one range to another. -/
inductive Event where
  | entered (range : ByteRange)
  | descended (outer inner : ByteRange)
  | sliced (start stop : Nat)
  | countedUp (count : Nat)
  | countedDown (count : Nat)
  | matched (opening closing : Nat)
  | resumed (closing stop : Nat) (left : List (Nat × Char))
deriving DecidableEq, Repr

/-- A run panics where it would leave the text or cut a character in two, or count below zero.
Numbers have no largest one here, so that counting up is noted but always goes on. -/
inductive Halt where
  | panicked
  | failed (cause : Failure)
deriving DecidableEq, Repr

structure Run (α : Type) where
  events : List Event
  outcome : Except Halt α

namespace Run

variable {α β : Type} {run : Run α} {next : α → Run β}

def bind (run : Run α) (next : α → Run β) : Run β :=
  match run.outcome with
  | .error halt => ⟨run.events, .error halt⟩
  | .ok a => ⟨run.events ++ (next a).events, (next a).outcome⟩

instance : Monad Run where
  pure a := ⟨[], .ok a⟩
  bind := bind

theorem bind_ok {a : α} (h : run.outcome = .ok a) :
    run >>= next = ⟨run.events ++ (next a).events, (next a).outcome⟩ := by
  simp only [Bind.bind, bind, h]

theorem bind_error {halt : Halt} (h : run.outcome = .error halt) :
    run >>= next = ⟨run.events, .error halt⟩ := by
  simp only [Bind.bind, bind, h]

def ofResult (result : Except Failure α) : Run α := ⟨[], result.mapError .failed⟩

def note (event : Event) : Run Unit := ⟨[event], .ok ()⟩

def countDown : Nat → Run Nat
  | 0 => ⟨[.countedDown 0], .error .panicked⟩
  | count + 1 => ⟨[.countedDown (count + 1)], .ok count⟩

end Run

structure IsSlice (text : String) (start stop : Nat) : Prop where
  ordered : start ≤ stop
  inside : stop ≤ text.utf8ByteSize
  start_isValid : (⟨start⟩ : String.Pos.Raw).IsValid text
  stop_isValid : (⟨stop⟩ : String.Pos.Raw).IsValid text

namespace IsSlice

variable {text : String} {start stop : Nat}

instance : Decidable (IsSlice text start stop) :=
  decidable_of_iff
    (start ≤ stop ∧ stop ≤ text.utf8ByteSize ∧ (⟨start⟩ : String.Pos.Raw).IsValid text ∧
      (⟨stop⟩ : String.Pos.Raw).IsValid text)
    ⟨fun ⟨ordered, inside, first, last⟩ => ⟨ordered, inside, first, last⟩,
      fun ⟨ordered, inside, first, last⟩ => ⟨ordered, inside, first, last⟩⟩

def part (h : IsSlice text start stop) : String :=
  (text.slice ⟨⟨start⟩, h.start_isValid⟩ ⟨⟨stop⟩, h.stop_isValid⟩ h.ordered).copy

theorem utf8Length_part (h : IsSlice text start stop) :
    start + utf8Length h.part.toList = stop := by
  rw [← utf8ByteSize_ofList, String.ofList_toList, part, String.Slice.utf8ByteSize_copy,
    String.utf8ByteSize_slice]
  exact Nat.add_sub_of_le h.ordered

end IsSlice

def numbered (offset : Nat) : List Char → List (Nat × Char)
  | [] => []
  | c :: rest => (offset, c) :: numbered (offset + c.utf8Size) rest

theorem mem_numbered {offset : Nat} {part : List Char} {entry : Nat × Char}
    (member : entry ∈ numbered offset part) :
    offset ≤ entry.1 ∧ entry.1 < offset + utf8Length part := by
  induction part generalizing offset with
  | nil => contradiction
  | cons c rest ih =>
      have size := c.utf8Size_pos
      rw [utf8Length]
      rcases List.mem_cons.mp member with rfl | later
      · exact ⟨Nat.le_refl offset, by omega⟩
      · obtain ⟨above, below⟩ := ih later
        omega

theorem numbered_append (offset : Nat) (a b : List Char) :
    numbered offset (a ++ b) = numbered offset a ++ numbered (offset + utf8Length a) b := by
  induction a generalizing offset with
  | nil => rfl
  | cons c a ih =>
      rw [List.cons_append, numbered, numbered, ih, utf8Length, Nat.add_assoc, List.cons_append]

theorem map_snd_numbered (offset : Nat) (part : List Char) :
    (numbered offset part).map Prod.snd = part := by
  induction part generalizing offset with
  | nil => rfl
  | cons c part ih => rw [numbered, List.map_cons, ih]

structure Placed (start stop : Nat) where
  offset : Nat
  char : Char
  start_le : start ≤ offset
  lt_stop : offset < stop

def Placed.entry {start stop : Nat} (symbol : Placed start stop) : Nat × Char :=
  (symbol.offset, symbol.char)

def slice (text : String) (start stop : Nat) :
    Run {part : List Char // start + utf8Length part = stop} :=
  if h : IsSlice text start stop then
    ⟨[.sliced start stop], .ok ⟨h.part.toList, h.utf8Length_part⟩⟩
  else ⟨[.sliced start stop], .error .panicked⟩

def placedIn (text : String) (start stop : Nat) : Run (List (Placed start stop)) := do
  let ⟨part, size⟩ ← slice text start stop
  return (numbered start part).pmap
    (fun entry inside => ⟨entry.1, entry.2, inside.1, inside.2⟩)
    (fun _ member => size ▸ mem_numbered member)

def closingFrom {opening stop : Nat} (balance : Nat) :
    List (Placed opening stop) → Run (Placed opening stop)
  | [] => .ofResult (.error (.unbalancedBracket opening))
  | symbol :: rest =>
      if symbol.char = '(' then do
        .note (.countedUp (balance + 1))
        closingFrom (balance + 1) rest
      else if symbol.char = ')' then do
        let fewer ← .countDown balance
        if fewer = 0 then return symbol else closingFrom fewer rest
      else closingFrom balance rest

def closingOf (text : String) (opening stop : Nat) : Run (Placed opening stop) := do
  closingFrom 0 (← placedIn text opening stop)

def descend (text : String) (range : ByteRange) (opening : Placed range.start range.stop) :
    Run (Placed opening.offset range.stop) := do
  let closing ← closingOf text opening.offset range.stop
  .note (.matched opening.offset closing.offset)
  .note (.countedUp (range.depth + 1))
  .note (.descended range (range.between opening.offset closing.offset))
  return closing

theorem ByteRange.length_between_lt (range : ByteRange) (opening : Placed range.start range.stop)
    (closing : Placed opening.offset range.stop) :
    (range.between opening.offset closing.offset).length < range.length := by
  have first := opening.start_le
  have last := closing.lt_stop
  have inside := opening.lt_stop
  simp only [length, between]
  omega

-- What a bracket encloses is shorter than the range, so the reading comes to an end.
mutual

def readRange (limit : Nat) (text : String) (range : ByteRange) : Run Expr := do
  .note (.entered range)
  if limit < range.depth then .ofResult (.error (.nestedTooDeep limit))
  else do
    let symbols ← placedIn text range.start range.stop
    let items ← readPlaced limit text range symbols
    .ofResult (Item.group items)
termination_by (range.length, 1, 0)
decreasing_by
  exact Prod.Lex.right _ (Prod.Lex.left _ _ Nat.zero_lt_one)

def readPlaced (limit : Nat) (text : String) (range : ByteRange) :
    List (Placed range.start range.stop) → Run (List Item)
  | [] => return []
  | symbol :: rest =>
      if symbol.char = '(' then do
        let closing ← descend text range symbol
        let e ← readRange limit text (range.between symbol.offset closing.offset)
        let left := rest.dropWhile (·.offset ≤ closing.offset)
        .note (.resumed closing.offset range.stop (left.map Placed.entry))
        let items ← readPlaced limit text range left
        return .operand (.bracketed e) :: items
      else if symbol.char = ')' then .ofResult (.error (.unbalancedBracket symbol.offset))
      else if isNumeric symbol.char then do
        let others := (rest.takeWhile (isNumeric ·.char)).map Placed.char
        let numeral ← slice text symbol.offset
          (symbol.offset + symbol.char.utf8Size + utf8Length others)
        let value ← .ofResult (readNumber numeral)
        let items ← readPlaced limit text range (rest.dropWhile (isNumeric ·.char))
        return .operand (.number value) :: items
      else
        match Operator.ofSymbol? symbol.char with
        | none => .ofResult (.error (.unexpectedSymbol symbol.char symbol.offset))
        | some op => do
            let items ← readPlaced limit text range rest
            return .operator op :: items
termination_by symbols => (range.length, 0, symbols.length)
decreasing_by
  · exact Prod.Lex.left _ _ (ByteRange.length_between_lt ..)
  all_goals
    refine Prod.Lex.right _ (Prod.Lex.right _ (Nat.lt_succ_of_le ?_))
  · exact (List.dropWhile_sublist _).length_le
  · exact (List.dropWhile_sublist _).length_le
  · exact Nat.le_refl _

end

section Equations

variable {limit : Nat} {text : String} {range : ByteRange}
  {symbol : Placed range.start range.stop} {rest : List (Placed range.start range.stop)}

theorem readPlaced_nil : readPlaced limit text range [] = pure [] := by rw [readPlaced]

theorem readPlaced_opening (isOpening : symbol.char = '(') :
    readPlaced limit text range (symbol :: rest) = do
      let closing ← descend text range symbol
      let e ← readRange limit text (range.between symbol.offset closing.offset)
      let left := rest.dropWhile (·.offset ≤ closing.offset)
      .note (.resumed closing.offset range.stop (left.map Placed.entry))
      let items ← readPlaced limit text range left
      return .operand (.bracketed e) :: items := by
  rw [readPlaced, if_pos isOpening]

theorem readPlaced_closing (isClosing : symbol.char = ')') :
    readPlaced limit text range (symbol :: rest) =
      .ofResult (.error (.unbalancedBracket symbol.offset)) := by
  rw [readPlaced, if_neg (by rw [isClosing]; decide), if_pos isClosing]

theorem readPlaced_numeral (numeric : isNumeric symbol.char) :
    readPlaced limit text range (symbol :: rest) = do
      let others := (rest.takeWhile (isNumeric ·.char)).map Placed.char
      let numeral ← slice text symbol.offset
        (symbol.offset + symbol.char.utf8Size + utf8Length others)
      let value ← .ofResult (readNumber numeral)
      let items ← readPlaced limit text range (rest.dropWhile (isNumeric ·.char))
      return .operand (.number value) :: items := by
  obtain ⟨notOpening, notClosing⟩ := ne_brackets_of_isNumeric numeric
  rw [readPlaced, if_neg notOpening, if_neg notClosing, if_pos numeric]

theorem readPlaced_operator {op : Operator} (known : Operator.ofSymbol? symbol.char = some op) :
    readPlaced limit text range (symbol :: rest) = do
      let items ← readPlaced limit text range rest
      return .operator op :: items := by
  have isSymbol := Operator.symbol_of_ofSymbol? known
  obtain ⟨notOpening, notClosing⟩ := ne_brackets_of_isOperator (isOperator_symbol op)
  rw [isSymbol] at notOpening notClosing
  have notNumeric : ¬isNumeric symbol.char := by simp [← isSymbol, not_isNumeric_symbol]
  rw [readPlaced, if_neg notOpening, if_neg notClosing, if_neg notNumeric, known]

theorem readPlaced_stray (notBracket : symbol.char ≠ '(' ∧ symbol.char ≠ ')')
    (notNumeric : ¬isNumeric symbol.char) (unknown : Operator.ofSymbol? symbol.char = none) :
    readPlaced limit text range (symbol :: rest) =
      .ofResult (.error (.unexpectedSymbol symbol.char symbol.offset)) := by
  rw [readPlaced, if_neg notBracket.1, if_neg notBracket.2, if_neg notNumeric, unknown]

end Equations

def readByRanges (limit : Nat) (text : String) : Run Expr :=
  readRange limit text (.whole text)

end Calculator
