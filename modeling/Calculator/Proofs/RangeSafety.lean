import Calculator.Proofs.ByteRanges

set_option autoImplicit false

namespace Calculator

section Parts

variable {text : String} {before part a b : List Char} {start stop : Nat}

structure StandsAt (text : String) (before part : List Char) (start stop : Nat) : Prop where
  isFront : before ++ part <+: text.toList
  start_eq : utf8Length before = start
  stop_eq : utf8Length (before ++ part) = stop

theorem standsAt_whole (text : String) : StandsAt text [] text.toList 0 text.utf8ByteSize := by
  refine ⟨List.prefix_rfl, rfl, ?_⟩
  rw [List.nil_append, ← utf8ByteSize_ofList, String.ofList_toList]

theorem rawEndPos_ofList {front : List Char} {offset : Nat} (h : utf8Length front = offset) :
    (⟨offset⟩ : String.Pos.Raw) = (String.ofList front).rawEndPos := by
  apply String.Pos.Raw.ext
  rw [String.byteIdx_rawEndPos, utf8ByteSize_ofList, h]

namespace StandsAt

theorem size (h : StandsAt text before part start stop) : start + utf8Length part = stop := by
  rw [← h.start_eq, ← h.stop_eq, utf8Length_append]

theorem front (h : StandsAt text before (a ++ b) start stop) :
    StandsAt text before a start (start + utf8Length a) := by
  have shorter : before ++ a <+: before ++ (a ++ b) := ⟨b, List.append_assoc ..⟩
  exact ⟨shorter.trans h.isFront, h.start_eq, by rw [utf8Length_append, h.start_eq]⟩

theorem back (h : StandsAt text before (a ++ b) start stop) :
    StandsAt text (before ++ a) b (start + utf8Length a) stop := by
  refine ⟨?_, by rw [utf8Length_append, h.start_eq], ?_⟩
  · rw [List.append_assoc]
    exact h.isFront
  · rw [List.append_assoc]
    exact h.stop_eq

theorem count_le (h : StandsAt text before part start stop) (c : Char) :
    (before ++ part).count c ≤ text.toList.count c :=
  h.isFront.sublist.count_le c

theorem stop_le (h : StandsAt text before part start stop) : stop ≤ text.utf8ByteSize := by
  obtain ⟨after, parts⟩ := h.isFront
  have size := utf8ByteSize_ofList text.toList
  rw [String.ofList_toList, ← parts, utf8Length_append, h.stop_eq] at size
  exact Nat.le_of_add_right_le (Nat.le_of_eq size.symm)

theorem text_eq (h : StandsAt text before part start stop) :
    ∃ after, text = String.ofList before ++ (String.ofList part ++ String.ofList after) ∧
      text = String.ofList (before ++ part) ++ String.ofList after := by
  obtain ⟨after, parts⟩ := h.isFront
  refine ⟨after, ?_, ?_⟩
  · rw [← String.ofList_append, ← String.ofList_append, ← List.append_assoc, parts,
      String.ofList_toList]
  · rw [← String.ofList_append, parts, String.ofList_toList]

theorem isSlice (h : StandsAt text before part start stop) : IsSlice text start stop where
  ordered := Nat.le_of_add_right_le (Nat.le_of_eq h.size)
  inside := h.stop_le
  start_isValid := by
    obtain ⟨after, first, _⟩ := h.text_eq
    exact String.Pos.Raw.isValid_iff_exists_append.mpr ⟨_, _, first, rawEndPos_ofList h.start_eq⟩
  stop_isValid := by
    obtain ⟨after, _, last⟩ := h.text_eq
    exact String.Pos.Raw.isValid_iff_exists_append.mpr ⟨_, _, last, rawEndPos_ofList h.stop_eq⟩

theorem part_eq (h : StandsAt text before part start stop) (isSlice : IsSlice text start stop) :
    isSlice.part.toList = part := by
  obtain ⟨after, first, last⟩ := h.text_eq
  rw [String.ofList_append] at last
  have lastAt := rawEndPos_ofList h.stop_eq
  rw [String.ofList_append] at lastAt
  have found : ∃ ordered, (text.slice ⟨⟨start⟩, isSlice.start_isValid⟩
      ⟨⟨stop⟩, isSlice.stop_isValid⟩ ordered).copy = String.ofList part :=
    String.copy_slice_eq_iff_splits.mpr
      ⟨_, _, ⟨first, rawEndPos_ofList h.start_eq⟩, ⟨last, lastAt⟩⟩
  obtain ⟨_, same⟩ := found
  rw [IsSlice.part, same, String.toList_ofList]

end StandsAt

end Parts

/-- A counter that is no greater than the number of the bytes of a text fits in a word. -/
def Event.Safe (text : String) : Event → Prop
  | entered range => range.start ≤ range.stop ∧ range.depth ≤ text.toList.count '('
  | descended outer inner => inner.length < outer.length
  | sliced start stop => IsSlice text start stop
  | countedUp count => count ≤ text.utf8ByteSize
  | countedDown count => 0 < count
  | matched opening closing => ∃ before inside,
      StandsAt text before ('(' :: (inside ++ [')'])) opening (closing + 1) ∧ Balanced inside
  | resumed closing stop left => ∃ before rest,
      StandsAt text before rest (closing + 1) stop ∧ left = numbered (closing + 1) rest

section Runs

variable {α β : Type} {text : String}

structure Run.Yields (text : String) (run : Run α) (result : Except Failure α) : Prop where
  safe : ∀ event ∈ run.events, event.Safe text
  outcome_eq : run.outcome = result.mapError .failed

namespace Run

variable {run : Run α} {next : α → Run β}

theorem yields_ofResult (result : Except Failure α) : (ofResult result).Yields text result :=
  ⟨by simp [ofResult], rfl⟩

theorem yields_pure (a : α) : (pure a : Run α).Yields text (.ok a) :=
  ⟨by simp [Pure.pure], rfl⟩

theorem yields_note {event : Event} (safe : event.Safe text) : (note event).Yields text (.ok ()) :=
  ⟨by simpa [note] using safe, rfl⟩

theorem yields_countDown (count : Nat) : (countDown (count + 1)).Yields text (.ok count) :=
  ⟨by simp [countDown, Event.Safe], rfl⟩

theorem Yields.bind_ok {a : α} {result : Except Failure β} (h : run.Yields text (.ok a))
    (later : (next a).Yields text result) : (run >>= next).Yields text result := by
  rw [Run.bind_ok h.outcome_eq]
  exact ⟨List.forall_mem_append.mpr ⟨h.safe, later.safe⟩, later.outcome_eq⟩

theorem Yields.bind_error {failure : Failure} (h : run.Yields text (.error failure)) :
    (run >>= next).Yields text (.error failure) := by
  rw [Run.bind_error h.outcome_eq]
  exact ⟨h.safe, rfl⟩

theorem Yields.bind {result : Except Failure α} {second : α → Except Failure β}
    (h : run.Yields text result) (later : ∀ a, (next a).Yields text (second a)) :
    (run >>= next).Yields text (result >>= second) := by
  cases result with
  | error failure => exact h.bind_error
  | ok a => exact h.bind_ok (later a)

end Run

end Runs

section Symbols

variable {text : String} {before part a b : List Char} {start stop offset : Nat}

def Places (symbols : List (Placed start stop)) (offset : Nat) (part : List Char) : Prop :=
  symbols.map Placed.entry = numbered offset part

theorem Places.map_char {symbols : List (Placed start stop)} (h : Places symbols offset part) :
    symbols.map Placed.char = part := by
  rw [← map_snd_numbered offset part, ← h, List.map_map]
  rfl

theorem Places.offset_lt {symbols : List (Placed start stop)} (h : Places symbols offset part)
    {symbol : Placed start stop} (member : symbol ∈ symbols) :
    offset ≤ symbol.offset ∧ symbol.offset < offset + utf8Length part :=
  mem_numbered (h ▸ List.mem_map_of_mem member)

theorem places_cons {c : Char} {symbols : List (Placed start stop)}
    (h : Places symbols offset (c :: part)) : ∃ symbol others, symbols = symbol :: others ∧
      symbol.offset = offset ∧ symbol.char = c ∧ Places others (offset + c.utf8Size) part := by
  obtain ⟨symbol, others, rfl, first, rest⟩ := List.map_eq_cons_iff.mp h
  obtain ⟨rfl, rfl⟩ := Prod.mk.inj first
  exact ⟨symbol, others, rfl, rfl, rfl, rest⟩

theorem places_append {symbols : List (Placed start stop)} (h : Places symbols offset (a ++ b)) :
    ∃ front back, symbols = front ++ back ∧ Places front offset a ∧
      Places back (offset + utf8Length a) b := by
  rw [Places, numbered_append] at h
  exact List.map_eq_append_iff.mp h

theorem yields_slice (stands : StandsAt text before part start stop) :
    (slice text start stop).Yields text (.ok ⟨part, stands.size⟩) := by
  have isSlice := stands.isSlice
  have cut : slice text start stop = ⟨[.sliced start stop], .ok ⟨part, stands.size⟩⟩ := by
    simp only [slice, dif_pos isSlice, stands.part_eq]
  rw [cut]
  exact ⟨by simpa [Event.Safe] using isSlice, rfl⟩

theorem yields_placedIn (stands : StandsAt text before part start stop) :
    ∃ symbols, Places symbols start part ∧
      (placedIn text start stop).Yields text (.ok symbols) := by
  refine ⟨_, ?_, (yields_slice stands).bind_ok (Run.yields_pure _)⟩
  rw [Places, List.map_pmap]
  exact List.pmap_eq_self.mpr fun _ _ => rfl

end Symbols

section Closing

variable {text : String} {opening stop offset : Nat}

def Finds (text : String) (run : Run (Placed opening stop)) (offset : Nat) :
    Option (List Char × List Char) → Prop
  | none => run.Yields text (.error (.unbalancedBracket opening))
  | some (inside, _) => ∃ closing, closing.offset = offset + utf8Length inside ∧
      run.Yields text (.ok closing)

theorem Finds.after {α : Type} {run : Run α} {next : α → Run (Placed opening stop)} {a : α}
    {split : Option (List Char × List Char)} (first : run.Yields text (.ok a))
    (h : Finds text (next a) offset split) : Finds text (run >>= next) offset split := by
  cases split with
  | none => exact first.bind_ok h
  | some parts =>
      obtain ⟨closing, place, found⟩ := h
      exact ⟨closing, place, first.bind_ok found⟩

theorem Finds.behind {run : Run (Placed opening stop)} {c : Char}
    {split : Option (List Char × List Char)} (h : Finds text run (offset + c.utf8Size) split) :
    Finds text run offset (split.map (Prod.map (c :: ·) id)) := by
  cases split with
  | none => exact h
  | some parts =>
      obtain ⟨closing, place, found⟩ := h
      exact ⟨closing, by rw [place, utf8Length, Nat.add_assoc], found⟩

-- The run counts one bracket more than the split, so that what it counts down is not zero.
theorem finds_closingFrom {rest : List Char} (depth : Nat) {symbols : List (Placed opening stop)}
    (places : Places symbols offset rest) (room : depth + 1 + utf8Length rest ≤ text.utf8ByteSize) :
    Finds text (closingFrom (depth + 1) symbols) offset (splitClosing depth rest) := by
  induction rest generalizing depth offset symbols with
  | nil =>
      obtain rfl := List.map_eq_nil_iff.mp places
      exact Run.yields_ofResult _
  | cons c rest ih =>
      obtain ⟨symbol, others, rfl, place, rfl, places⟩ := places_cons places
      have size := symbol.char.utf8Size_pos
      rw [utf8Length] at room
      by_cases isOpening : symbol.char = '('
      · rw [closingFrom, if_pos isOpening, isOpening, splitClosing_opening]
        rw [isOpening] at places
        have counted : (Event.countedUp (depth + 1 + 1)).Safe text := by
          simp only [Event.Safe]
          omega
        exact (ih (depth + 1) places (by omega)).behind.after (Run.yields_note counted)
      by_cases isClosing : symbol.char = ')'
      · rw [closingFrom, if_neg isOpening, if_pos isClosing, isClosing]
        rw [isClosing] at places
        apply Finds.after (Run.yields_countDown depth)
        cases depth with
        | zero =>
            rw [splitClosing_closing]
            exact ⟨symbol, place, Run.yields_pure symbol⟩
        | succ depth =>
            rw [splitClosing_inner, if_neg (Nat.succ_ne_zero depth)]
            exact (ih depth places (by omega)).behind
      · rw [closingFrom, if_neg isOpening, if_neg isClosing,
          splitClosing_plain ⟨isOpening, isClosing⟩]
        exact (ih depth places (by omega)).behind

theorem finds_closingOf {before rest : List Char}
    (stands : StandsAt text before ('(' :: rest) opening stop) :
    Finds text (closingOf text opening stop) (opening + 1) (splitClosing 0 rest) := by
  obtain ⟨symbols, places, placed⟩ := yields_placedIn stands
  obtain ⟨symbol, others, rfl, _, isOpening, places⟩ := places_cons places
  have size := stands.size
  have inside := stands.stop_le
  rw [utf8Length, show '('.utf8Size = 1 from rfl] at size
  apply Finds.after placed
  rw [closingFrom, if_pos isOpening]
  have counted : (Event.countedUp (0 + 1)).Safe text := by
    simp only [Event.Safe]
    omega
  exact (finds_closingFrom 0 places (by omega)).after (Run.yields_note counted)

end Closing

section Skipping

variable {start stop offset : Nat} {symbols : List (Placed start stop)}

theorem takeWhile_dropWhile_append {α : Type} {p : α → Bool} {front back : List α}
    (passed : ∀ a ∈ front, p a) (stops : ∀ a ∈ back.head?, p a = false) :
    (front ++ back).takeWhile p = front ∧ (front ++ back).dropWhile p = back := by
  rw [List.takeWhile_append_of_pos passed, List.dropWhile_append_of_pos passed]
  cases back with
  | nil => simp
  | cons a back => simp [stops a rfl]

theorem places_behind_closing {inside after : List Char} {closing : Nat}
    (places : Places symbols offset (inside ++ ')' :: after))
    (place : closing = offset + utf8Length inside) :
    Places (symbols.dropWhile (·.offset ≤ closing)) (closing + 1) after := by
  rw [← List.singleton_append, ← List.append_assoc] at places
  obtain ⟨front, back, rfl, passed, left⟩ := places_append places
  have size : offset + utf8Length (inside ++ [')']) = closing + 1 := by
    rw [utf8Length_append, place]
    rfl
  rw [size] at left
  have skipped : ∀ symbol ∈ front, decide (symbol.offset ≤ closing) = true := by
    intro symbol member
    have below := (passed.offset_lt member).2
    rw [size] at below
    exact decide_eq_true (Nat.le_of_lt_succ below)
  have stops : ∀ symbol ∈ back.head?, decide (symbol.offset ≤ closing) = false := by
    intro symbol isHead
    have above := (left.offset_lt (List.mem_of_mem_head? isHead)).1
    exact decide_eq_false (Nat.not_le_of_lt above)
  rw [(takeWhile_dropWhile_append skipped stops).2]
  exact left

theorem places_behind_run {run after : List Char} (places : Places symbols offset (run ++ after))
    (numeric : ∀ c ∈ run, isNumeric c) (detached : Detached after) :
    (symbols.takeWhile (isNumeric ·.char)).map Placed.char = run ∧
      Places (symbols.dropWhile (isNumeric ·.char)) (offset + utf8Length run) after := by
  obtain ⟨front, back, rfl, passed, left⟩ := places_append places
  have first : ∀ symbol ∈ front, isNumeric symbol.char := by
    intro symbol member
    exact numeric _ (passed.map_char ▸ List.mem_map_of_mem member)
  have stops : ∀ symbol ∈ back.head?, isNumeric symbol.char = false := by
    intro symbol isHead
    apply detached
    rw [← left.map_char, List.head?_map, isHead]
    rfl
  obtain ⟨taken, dropped⟩ := takeWhile_dropWhile_append first stops
  rw [taken, dropped]
  exact ⟨passed.map_char, left⟩

end Skipping

section Reading

variable {limit levels offset : Nat} {text : String} {before inside after rest a b : List Char}
  {range : ByteRange}

theorem count_le_utf8Length (c : Char) (part : List Char) : part.count c ≤ utf8Length part := by
  induction part with
  | nil => exact Nat.le_refl 0
  | cons d part ih =>
      have size := d.utf8Size_pos
      rw [List.count_cons, utf8Length]
      split <;> omega

-- At least the brackets around the range have been opened before what is left of it.
structure Remains (text : String) (range : ByteRange) (before rest : List Char) (offset : Nat) :
    Prop extends StandsAt text before rest offset range.stop where
  shallow : range.depth ≤ before.count '('

namespace Remains

theorem behind (h : Remains text range before (a ++ b) offset) :
    Remains text range (before ++ a) b (offset + utf8Length a) := by
  refine ⟨h.back, ?_⟩
  rw [List.count_append]
  exact Nat.le_add_right_of_le h.shallow

theorem entered_safe (h : Remains text range before rest range.start) :
    (Event.entered range).Safe text := by
  have few := h.count_le '('
  rw [List.count_append] at few
  exact ⟨h.isSlice.ordered, h.shallow.trans (Nat.le_of_add_right_le few)⟩

section Brackets

variable {opening : Placed range.start range.stop} {closing : Placed opening.offset range.stop}

theorem inner (h : Remains text range before ('(' :: (inside ++ ')' :: after)) opening.offset)
    (place : closing.offset = opening.offset + 1 + utf8Length inside) :
    Remains text (range.between opening.offset closing.offset) (before ++ ['(']) inside
      (opening.offset + 1) := by
  constructor
  next =>
    rw [← List.singleton_append] at h
    rw [ByteRange.between, place]
    exact h.back.front
  next =>
    rw [List.count_append]
    exact Nat.add_le_add_right h.shallow 1

theorem bracket (h : Remains text range before ('(' :: (inside ++ ')' :: after)) opening.offset)
    (place : closing.offset = opening.offset + 1 + utf8Length inside) :
    StandsAt text before ('(' :: (inside ++ [')'])) opening.offset (closing.offset + 1) ∧
      Remains text range (before ++ '(' :: (inside ++ [')'])) after (closing.offset + 1) := by
  have size : opening.offset + utf8Length ('(' :: (inside ++ [')'])) = closing.offset + 1 := by
    rw [utf8Length_enclosed, place]
    omega
  rw [← List.singleton_append (x := ')'), ← List.append_assoc, ← List.cons_append] at h
  rw [← size]
  exact ⟨h.front, h.behind⟩

end Brackets

end Remains

theorem yields_descend {opening : Placed range.start range.stop}
    (remains : Remains text range before ('(' :: (inside ++ ')' :: after)) opening.offset)
    (found : splitClosing 0 (inside ++ ')' :: after) = some (inside, after)) :
    ∃ closing, closing.offset = opening.offset + 1 + utf8Length inside ∧
      (descend text range opening).Yields text (.ok closing) := by
  have finds := finds_closingOf remains.toStandsAt
  rw [found] at finds
  obtain ⟨closing, place, yields⟩ := finds
  have matched : (Event.matched opening.offset closing.offset).Safe text :=
    ⟨before, inside, (remains.bracket place).1, balanced_of_splitClosing found⟩
  have counted : (Event.countedUp (range.depth + 1)).Safe text := by
    have few := remains.shallow.trans (count_le_utf8Length '(' before)
    have atMost := opening.lt_stop.trans_le remains.stop_le
    rw [remains.start_eq] at few
    exact Nat.succ_le_of_lt (Nat.lt_of_le_of_lt few atMost)
  have descended :
      (Event.descended range (range.between opening.offset closing.offset)).Safe text :=
    range.length_between_lt opening closing
  refine ⟨closing, place, ?_⟩
  apply yields.bind_ok
  apply (Run.yields_note matched).bind_ok
  apply (Run.yields_note counted).bind_ok
  exact (Run.yields_note descended).bind_ok (Run.yields_pure closing)

theorem yields_readRange {result : Except Failure (List Item)}
    (remains : Remains text range before inside range.start) (allowed : range.depth ≤ limit)
    (itemsRead : ∀ symbols, Places symbols range.start inside →
      (readPlaced limit text range symbols).Yields text result) :
    (readRange limit text range).Yields text (result >>= Item.group) := by
  obtain ⟨symbols, places, placed⟩ := yields_placedIn remains.toStandsAt
  rw [readRange, if_neg (Nat.not_lt_of_le allowed)]
  apply (Run.yields_note remains.entered_safe).bind_ok
  apply placed.bind_ok
  exact (itemsRead symbols places).bind fun items => Run.yields_ofResult _

theorem yields_readRange_tooDeep (remains : Remains text range before inside range.start)
    (exceeded : limit < range.depth) :
    (readRange limit text range).Yields text (.error (.nestedTooDeep limit)) := by
  rw [readRange, if_pos exceeded]
  exact (Run.yields_note remains.entered_safe).bind_ok (Run.yields_ofResult _)

theorem yields_readPlaced {symbols : List (Placed range.start range.stop)}
    (remains : Remains text range before rest offset) (deep : range.depth + levels = limit)
    (places : Places symbols offset rest) :
    (readPlaced limit text range symbols).Yields text (readItems limit levels offset rest) := by
  induction levels, offset, rest using reading_induction generalizing range before symbols with
  | nil =>
      obtain rfl := List.map_eq_nil_iff.mp places
      rw [readItems_nil, readPlaced_nil]
      exact Run.yields_pure []
  | unclosed _ _ _ missing =>
      obtain ⟨symbol, others, rfl, rfl, isOpening, _⟩ := places_cons places
      have unclosed := finds_closingOf remains.toStandsAt
      rw [missing] at unclosed
      rw [readItems_unclosed missing, readPlaced_opening isOpening]
      exact Run.Yields.bind_error (Run.Yields.bind_error unclosed)
  | tooDeep _ inside after found =>
      obtain ⟨symbol, others, rfl, rfl, isOpening, _⟩ := places_cons places
      obtain ⟨closing, place, descends⟩ := yields_descend remains found
      have exceeded : limit < (range.between symbol.offset closing.offset).depth :=
        Nat.lt_succ_of_le deep.ge
      rw [readItems_tooDeep found, readPlaced_opening isOpening]
      apply descends.bind_ok
      exact (yields_readRange_tooDeep (remains.inner place) exceeded).bind_error
  | bracket levels _ inside after found insideStep afterStep =>
      obtain ⟨symbol, others, rfl, rfl, isOpening, places⟩ := places_cons places
      obtain ⟨closing, place, descends⟩ := yields_descend remains found
      have inner := remains.inner place
      have deeper : (range.between symbol.offset closing.offset).depth + levels = limit := by
        rw [ByteRange.between, ← deep, Nat.add_assoc, Nat.add_comm 1]
      have allowed : (range.between symbol.offset closing.offset).depth ≤ limit := by omega
      have insideRead := yields_readRange inner allowed fun symbols places =>
        insideStep inner deeper places
      have next : symbol.offset + utf8Length inside + 2 = closing.offset + 1 := by omega
      have behind := (remains.bracket place).2
      have left := places_behind_closing places place
      have resumed : (Event.resumed closing.offset range.stop _).Safe text :=
        ⟨_, after, behind.toStandsAt, left⟩
      rw [readItems_bracket found, readPlaced_opening isOpening, next]
      rw [next] at afterStep
      apply descends.bind_ok
      rw [← bind_assoc]
      apply insideRead.bind
      intro e
      apply (Run.yields_note resumed).bind_ok
      exact (afterStep behind deep left).bind fun items => Run.yields_pure _
  | closing =>
      obtain ⟨symbol, others, rfl, rfl, isClosing, _⟩ := places_cons places
      rw [readItems_closing, readPlaced_closing isClosing]
      exact Run.yields_ofResult _
  | numeral _ _ run after nonempty numeric detached step =>
      rw [readItems_run nonempty numeric detached]
      obtain ⟨c, run, rfl⟩ := List.exists_cons_of_ne_nil nonempty
      obtain ⟨symbol, others, rfl, rfl, rfl, places⟩ := places_cons places
      obtain ⟨first, more⟩ := List.forall_mem_cons.mp numeric
      obtain ⟨taken, left⟩ := places_behind_run places more detached
      have runEnd : symbol.offset + utf8Length (symbol.char :: run) =
          symbol.offset + symbol.char.utf8Size + utf8Length run := by
        rw [utf8Length, Nat.add_assoc]
      have stands := remains.front
      have behind := remains.behind
      rw [runEnd] at stands behind step ⊢
      rw [readPlaced_numeral first, taken]
      apply (yields_slice stands).bind_ok
      apply (Run.yields_ofResult (readNumber _)).bind
      intro value
      exact (step behind deep left).bind fun items => Run.yields_pure _
  | operator _ _ op rest step =>
      obtain ⟨symbol, others, rfl, rfl, isOperator, places⟩ := places_cons places
      have known : Operator.ofSymbol? symbol.char = some op := by
        rw [isOperator, Operator.ofSymbol?_symbol]
      have size : utf8Length [op.symbol] = 1 := utf8Size_symbol op
      rw [← List.singleton_append] at remains
      have behind := remains.behind
      rw [size] at behind
      rw [utf8Size_symbol] at places
      rw [readItems_operator, readPlaced_operator known]
      exact (step behind deep places).bind fun items => Run.yields_pure _
  | stray _ _ c rest notBracket notNumeric unknown =>
      obtain ⟨symbol, others, rfl, rfl, rfl, places⟩ := places_cons places
      rw [readItems_stray notBracket notNumeric unknown,
        readPlaced_stray notBracket (by simp [notNumeric]) unknown]
      exact Run.yields_ofResult _

end Reading

theorem yields_readByRanges (limit : Nat) (text : String) :
    (readByRanges limit text).Yields text (Expr.read limit text) := by
  have remains : Remains text (.whole text) [] text.toList 0 :=
    ⟨standsAt_whole text, Nat.zero_le _⟩
  exact yields_readRange remains (Nat.zero_le limit) fun symbols places =>
    yields_readPlaced remains (Nat.zero_add limit) places

/-- Reading by ranges of bytes comes to the same end as reading by characters, so it never panics.
Every step on the way is safe. -/
theorem Expr.read_by_ranges (limit : Nat) (text : String) :
    (readByRanges limit text).outcome = (Expr.read limit text).mapError .failed ∧
      ∀ event ∈ (readByRanges limit text).events, event.Safe text :=
  ⟨(yields_readByRanges limit text).outcome_eq, (yields_readByRanges limit text).safe⟩

end Calculator
