import Calculator.Proofs.RangeSafety
import Calculator.Proofs.ReadTree

set_option autoImplicit false

namespace Calculator

namespace Run

variable {α β : Type} {run : Run α} {next : α → Run β}

theorem bind_pure_ok {a : α} (h : run.outcome = .ok a) (f : α → β) :
    (run >>= fun a => pure (f a)) = ⟨run.events, .ok (f a)⟩ := by
  rw [bind_ok h]
  simp [Pure.pure]

theorem bind_outcome_ok_iff {b : β} : (run >>= next).outcome = .ok b ↔
    ∃ a, run.outcome = .ok a ∧ (next a).outcome = .ok b := by
  cases h : run.outcome with
  | error halt => simp [bind_error h]
  | ok a => simp [bind_ok h]

theorem pure_outcome_ok_iff {a value : α} : (pure a : Run α).outcome = .ok value ↔ a = value := by
  simp [Pure.pure]

theorem ofResult_outcome_ok_iff {result : Except Failure α} {a : α} :
    (ofResult result).outcome = .ok a ↔ result = .ok a := by
  cases result <;> simp [ofResult, Except.mapError]

end Run

namespace Event

def isCount : Event → Bool
  | countedUp _ | countedDown _ => true
  | _ => false

def entrance? : Event → Option ByteRange
  | entered range => some range
  | _ => none

def descent? : Event → Option ByteRange
  | descended _ inner => some inner
  | _ => none

end Event

section Search

variable {text : String} {opening stop balance : Nat}

theorem isCount_of_mem_closingFrom {symbols : List (Placed opening stop)} :
    ∀ event ∈ (closingFrom balance symbols).events, event.isCount := by
  induction symbols generalizing balance with
  | nil => simp [closingFrom, Run.ofResult]
  | cons symbol rest ih =>
      rw [closingFrom]
      split
      next =>
        rw [Run.bind_ok rfl]
        simpa [Run.note, Event.isCount] using ih
      split
      next =>
        cases balance with
        | zero => simp [Run.countDown, Run.bind_error, Event.isCount]
        | succ fewer =>
            rw [Run.bind_ok rfl]
            split
            next => simp [Run.countDown, Event.isCount, Pure.pure]
            next => simpa [Run.countDown, Event.isCount] using ih
      next => exact ih

theorem events_slice (text : String) (start stop : Nat) :
    (slice text start stop).events = [.sliced start stop] := by
  rw [slice]
  split <;> rfl

theorem events_placedIn (text : String) (start stop : Nat) :
    (placedIn text start stop).events = [.sliced start stop] := by
  by_cases isSlice : IsSlice text start stop
  · simp [placedIn, slice, isSlice, Run.bind_ok, Pure.pure]
  · simp [placedIn, slice, isSlice, Run.bind_error]

theorem exists_counts_closingOf (text : String) (opening stop : Nat) :
    ∃ counts, (∀ event ∈ counts, Event.isCount event) ∧
      (closingOf text opening stop).events = .sliced opening stop :: counts := by
  have slice := events_placedIn text opening stop
  cases placed : (placedIn text opening stop).outcome with
  | error halt => exact ⟨[], by simp, by rw [closingOf, Run.bind_error placed, slice]⟩
  | ok symbols =>
      refine ⟨(closingFrom 0 symbols).events, isCount_of_mem_closingFrom, ?_⟩
      rw [closingOf, Run.bind_ok placed, slice]
      rfl

theorem descend_cases (text : String) (range : ByteRange)
    (opening : Placed range.start range.stop) :
    ∃ counts, (∀ event ∈ counts, Event.isCount event) ∧
      ((∃ halt, descend text range opening =
          ⟨.sliced opening.offset range.stop :: counts, .error halt⟩) ∨
        ∃ closing, descend text range opening =
          ⟨.sliced opening.offset range.stop :: (counts ++
            [.matched opening.offset closing.offset, .countedUp (range.depth + 1),
              .descended range (range.between opening.offset closing.offset)]), .ok closing⟩) := by
  obtain ⟨counts, isCount, search⟩ := exists_counts_closingOf text opening.offset range.stop
  refine ⟨counts, isCount, ?_⟩
  cases found : (closingOf text opening.offset range.stop).outcome with
  | error halt =>
      refine .inl ⟨halt, ?_⟩
      rw [descend, Run.bind_error found, search]
  | ok closing =>
      refine .inr ⟨closing, ?_⟩
      rw [descend, Run.bind_ok found, search]
      rfl

end Search

theorem ranges_induction {ofRange : ByteRange → Prop}
    {ofPlaced : (range : ByteRange) → List (Placed range.start range.stop) → Prop}
    (range : ∀ range, (∀ symbols, ofPlaced range symbols) → ofRange range)
    (nil : ∀ range, ofPlaced range [])
    (opening : ∀ (range : ByteRange) (symbol : Placed range.start range.stop) rest,
      symbol.char = '(' →
      (∀ closing : Placed symbol.offset range.stop,
        ofRange (range.between symbol.offset closing.offset)) →
      (∀ closing : Placed symbol.offset range.stop,
        ofPlaced range (rest.dropWhile (·.offset ≤ closing.offset))) →
      ofPlaced range (symbol :: rest))
    (closing : ∀ (range : ByteRange) (symbol : Placed range.start range.stop) rest,
      symbol.char = ')' → ofPlaced range (symbol :: rest))
    (numeral : ∀ (range : ByteRange) (symbol : Placed range.start range.stop) rest,
      isNumeric symbol.char → ofPlaced range (rest.dropWhile (isNumeric ·.char)) →
      ofPlaced range (symbol :: rest))
    (operator : ∀ (range : ByteRange) (symbol : Placed range.start range.stop) rest op,
      Operator.ofSymbol? symbol.char = some op → ofPlaced range rest →
      ofPlaced range (symbol :: rest))
    (stray : ∀ (range : ByteRange) (symbol : Placed range.start range.stop) rest,
      symbol.char ≠ '(' ∧ symbol.char ≠ ')' → ¬isNumeric symbol.char →
      Operator.ofSymbol? symbol.char = none → ofPlaced range (symbol :: rest)) :
    (∀ range, ofRange range) ∧ ∀ range symbols, ofPlaced range symbols :=
  readRange.mutual_induct ofRange ofPlaced range nil opening
    (fun range symbol rest _ => closing range symbol rest)
    (fun range symbol rest _ _ => numeral range symbol rest)
    (fun range symbol rest notOpening notClosing =>
      stray range symbol rest ⟨notOpening, notClosing⟩)
    (fun range symbol rest _ _ _ => operator range symbol rest)

section Order

variable {α β : Type} {run : Run α} {next : α → Run β} {ahead : List ByteRange}

/-- The ranges that are entered are those ahead and those that the run itself leads to, in order. -/
def Run.Follows (run : Run α) (ahead : List ByteRange) : Prop :=
  run.events.filterMap Event.entrance? = ahead ++ run.events.filterMap Event.descent?

theorem Run.Follows.bind (h : run.Follows ahead) (later : ∀ a, (next a).Follows []) :
    (run >>= next).Follows ahead := by
  cases ended : run.outcome with
  | error halt =>
      rw [Run.bind_error ended]
      exact h
  | ok a =>
      have h' := later a
      simp only [Run.Follows, List.nil_append] at h h' ⊢
      rw [Run.bind_ok ended, List.filterMap_append, List.filterMap_append, h, h', List.append_assoc]

theorem Run.follows_pure (a : α) : (pure a : Run α).Follows [] := rfl

theorem Run.follows_ofResult (result : Except Failure α) : (ofResult result).Follows [] := rfl

theorem follows_slice (text : String) (start stop : Nat) : (slice text start stop).Follows [] := by
  rw [Run.Follows, events_slice]
  rfl

theorem filterMap_counts {counts : List Event} (h : ∀ event ∈ counts, event.isCount) :
    counts.filterMap Event.entrance? = [] ∧ counts.filterMap Event.descent? = [] := by
  simp only [List.filterMap_eq_nil_iff, ← forall_and]
  intro event member
  have isCount := h event member
  cases event <;> first | contradiction | exact ⟨rfl, rfl⟩

variable {limit : Nat} {text : String} {range : ByteRange}
  {opening : Placed range.start range.stop}

theorem follows_descend {next : Placed opening.offset range.stop → Run β}
    (later : ∀ closing, (next closing).Follows [range.between opening.offset closing.offset]) :
    (descend text range opening >>= next).Follows [] := by
  obtain ⟨counts, isCount, found⟩ := descend_cases text range opening
  obtain ⟨noEntrance, noDescent⟩ := filterMap_counts isCount
  rcases found with ⟨halt, found⟩ | ⟨closing, found⟩
  next =>
    rw [found]
    simp [Run.Follows, Run.bind_error, Event.entrance?, Event.descent?, List.filterMap_cons,
      noEntrance, noDescent]
  next =>
    have h := later closing
    simp only [Run.Follows, List.singleton_append] at h
    rw [found]
    simp [Run.Follows, Run.bind_ok, Event.entrance?, Event.descent?, List.filterMap_cons,
      noEntrance, noDescent, h]

theorem follows_read (limit : Nat) (text : String) :
    (∀ range, (readRange limit text range).Follows [range]) ∧
      ∀ range symbols, (readPlaced limit text range symbols).Follows [] := by
  apply ranges_induction
  case range =>
    intro range itemsRead
    have entered : (Run.note (.entered range)).Follows [range] := rfl
    rw [readRange]
    apply entered.bind
    intro _
    split
    next => exact Run.follows_ofResult _
    next =>
      apply ((follows_slice ..).bind fun _ => Run.follows_pure _).bind
      exact fun symbols => (itemsRead symbols).bind fun _ => Run.follows_ofResult _
  case nil =>
    intro range
    rw [readPlaced_nil]
    exact Run.follows_pure []
  case opening =>
    intro range symbol rest isOpening innerRead restRead
    rw [readPlaced_opening isOpening]
    apply follows_descend
    intro closing
    apply (innerRead closing).bind
    intro e
    have resumed (left : List (Nat × Char)) :
        (Run.note (.resumed closing.offset range.stop left)).Follows [] := rfl
    apply (resumed _).bind
    exact fun _ => (restRead closing).bind fun _ => Run.follows_pure _
  case closing =>
    intro range symbol rest isClosing
    rw [readPlaced_closing isClosing]
    exact Run.follows_ofResult _
  case numeral =>
    intro range symbol rest numeric restRead
    rw [readPlaced_numeral numeric]
    apply (follows_slice ..).bind
    intro numeral
    apply (Run.follows_ofResult _).bind
    exact fun value => restRead.bind fun _ => Run.follows_pure _
  case stray =>
    intro range symbol rest notBracket notNumeric unknown
    rw [readPlaced_stray notBracket notNumeric unknown]
    exact Run.follows_ofResult _
  case operator =>
    intro range symbol rest op known restRead
    rw [readPlaced_operator known]
    exact restRead.bind fun _ => Run.follows_pure _

end Order

section Tallies

variable {events later counts : List Event} {items others : List Item} {e : Expr}

/-- One slice for each range that is entered, for each bracket that is closed and for each
numeral. -/
structure Tally (events : List Event) (lexemes : List Lexeme) (ranges : Nat) : Prop where
  entered : events.countP (· matches .entered _) = ranges
  descended : events.countP (· matches .descended _ _) = lexemes.count .opening
  matched : events.countP (· matches .matched _ _) = lexemes.count .opening
  resumed : events.countP (· matches .resumed _ _ _) = lexemes.count .opening
  sliced : events.countP (· matches .sliced _ _) =
    ranges + lexemes.count .opening + lexemes.countP (· matches .number _)

theorem tally_counts (isCount : ∀ event ∈ counts, event.isCount) : Tally counts [] 0 := by
  constructor
  all_goals
    refine List.countP_eq_zero.mpr fun event member => ?_
    have := isCount event member
    cases event <;> first | contradiction | exact Bool.false_ne_true

structure Expr.Recorded (events : List Event) (e : Expr) : Prop where
  wellGrouped : e.WellGrouped
  tally : Tally events e.inOrder (e.inOrder.count .opening + 1)

structure Item.Recorded (events : List Event) (items : List Item) : Prop where
  ready : ∀ item ∈ items, item.Ready
  tally : Tally events (items.flatMap inOrder) ((items.flatMap inOrder).count .opening)

namespace Item.Recorded

theorem range (h : Recorded events items) (grouped : group items = .ok e) (range : ByteRange) :
    e.Recorded (.entered range :: .sliced range.start range.stop :: events) := by
  obtain ⟨rfl, wellGrouped⟩ := group_ok h.ready grouped
  have tally := h.tally
  rw [e.inOrder_items] at tally
  refine ⟨wellGrouped, ?_⟩
  constructor
  all_goals
    simp [tally.entered, tally.descended, tally.matched, tally.resumed, tally.sliced]
  omega

theorem nil : Recorded [] [] := ⟨by simp, ⟨rfl, rfl, rfl, rfl, rfl⟩⟩

theorem operator (h : Recorded events items) (op : Operator) :
    Recorded events (.operator op :: items) := by
  refine ⟨List.forall_mem_cons.mpr ⟨trivial, h.ready⟩, ?_⟩
  have tally := h.tally
  constructor
  all_goals
    simp [inOrder, tally.entered, tally.descended, tally.matched, tally.resumed, tally.sliced]

theorem numeral (h : Recorded events items) (start stop : Nat) (value : Float) :
    Recorded (.sliced start stop :: events) (.operand (.number value) :: items) := by
  refine ⟨List.forall_mem_cons.mpr ⟨⟨rfl, trivial⟩, h.ready⟩, ?_⟩
  have tally := h.tally
  constructor
  all_goals
    simp [inOrder, Expr.inOrder, tally.entered, tally.descended, tally.matched, tally.resumed,
      tally.sliced]
  omega

theorem bracket {start stop opening closing depth resumption last : Nat} {outer inner : ByteRange}
    {left : List (Nat × Char)} (isCount : ∀ event ∈ counts, event.isCount)
    (inside : e.Recorded events)
    (h : Recorded later items) :
    Recorded (.sliced start stop :: (counts ++ [.matched opening closing, .countedUp depth,
        .descended outer inner]) ++ (events ++ .resumed resumption last left :: later))
      (.operand (.bracketed e) :: items) := by
  refine ⟨List.forall_mem_cons.mpr ⟨⟨rfl, inside.wellGrouped⟩, h.ready⟩, ?_⟩
  have tally := h.tally
  have inner := inside.tally
  have none := tally_counts isCount
  constructor
  all_goals
    simp [inOrder, Expr.inOrder, none.entered, none.descended, none.matched, none.resumed,
      none.sliced, inner.entered, inner.descended, inner.matched, inner.resumed, inner.sliced,
      tally.entered, tally.descended, tally.matched, tally.resumed, tally.sliced]
  all_goals omega

end Item.Recorded

theorem recorded_of_read (limit : Nat) (text : String) :
    (∀ range e, (readRange limit text range).outcome = .ok e →
      e.Recorded (readRange limit text range).events) ∧
    ∀ range symbols items, (readPlaced limit text range symbols).outcome = .ok items →
      Item.Recorded (readPlaced limit text range symbols).events items := by
  apply ranges_induction
  case range =>
    intro range itemsRead e read
    rw [readRange, Run.bind_ok rfl] at read ⊢
    split at read
    next => contradiction
    next fits =>
      obtain ⟨symbols, placed, read⟩ := Run.bind_outcome_ok_iff.mp read
      obtain ⟨items, itemsDone, read⟩ := Run.bind_outcome_ok_iff.mp read
      have grouped := Run.ofResult_outcome_ok_iff.mp read
      have recorded := (itemsRead symbols items itemsDone).range grouped range
      rw [if_neg fits, Run.bind_ok placed, Run.bind_ok itemsDone, events_placedIn]
      simpa [Run.note, Run.ofResult] using recorded
  case nil =>
    intro range items read
    rw [readPlaced_nil] at read ⊢
    obtain rfl := Run.pure_outcome_ok_iff.mp read
    exact .nil
  case opening =>
    intro range symbol rest isOpening innerRead restRead items read
    obtain ⟨counts, isCount, ⟨halt, found⟩ | ⟨closing, found⟩⟩ := descend_cases text range symbol
    next =>
      rw [readPlaced_opening isOpening, found, Run.bind_error rfl] at read
      contradiction
    next =>
      rw [readPlaced_opening isOpening, found, Run.bind_ok rfl] at read ⊢
      obtain ⟨e, innerDone, read⟩ := Run.bind_outcome_ok_iff.mp read
      obtain ⟨_, _, read⟩ := Run.bind_outcome_ok_iff.mp read
      obtain ⟨others, restDone, read⟩ := Run.bind_outcome_ok_iff.mp read
      obtain rfl := Run.pure_outcome_ok_iff.mp read
      rw [Run.bind_ok innerDone, Run.bind_ok rfl, Run.bind_pure_ok restDone]
      exact (restRead closing others restDone).bracket isCount (innerRead closing e innerDone)
  case closing =>
    intro range symbol rest isClosing items read
    rw [readPlaced_closing isClosing] at read
    contradiction
  case numeral =>
    intro range symbol rest numeric restRead items read
    rw [readPlaced_numeral numeric] at read ⊢
    obtain ⟨numeral, cut, read⟩ := Run.bind_outcome_ok_iff.mp read
    obtain ⟨value, known, read⟩ := Run.bind_outcome_ok_iff.mp read
    obtain ⟨others, restDone, read⟩ := Run.bind_outcome_ok_iff.mp read
    obtain rfl := Run.pure_outcome_ok_iff.mp read
    rw [Run.bind_ok cut, Run.bind_ok known, Run.bind_pure_ok restDone, events_slice]
    exact (restRead others restDone).numeral _ _ value
  case stray =>
    intro range symbol rest notBracket notNumeric unknown items read
    rw [readPlaced_stray notBracket notNumeric unknown] at read
    contradiction
  case operator =>
    intro range symbol rest op known restRead items read
    rw [readPlaced_operator known] at read ⊢
    obtain ⟨others, restDone, read⟩ := Run.bind_outcome_ok_iff.mp read
    obtain rfl := Run.pure_outcome_ok_iff.mp read
    rw [Run.bind_pure_ok restDone]
    exact (restRead others restDone).operator op

end Tallies

/-- The ranges that are entered are the whole text and those that a bracket leads to, in order. If
the reading succeeds, each bracket of the tree has been matched, entered and left once, and what was
sliced are the ranges, the searches for closing brackets and the numerals. -/
theorem readByRanges_events (limit : Nat) (text : String) :
    (readByRanges limit text).Follows [.whole text] ∧
      ∀ e, Expr.read limit text = .ok e → e.Recorded (readByRanges limit text).events := by
  refine ⟨(follows_read limit text).1 _, fun e read => ?_⟩
  apply (recorded_of_read limit text).1
  rw [← readByRanges, (yields_readByRanges limit text).outcome_eq, read]
  rfl

example : (readByRanges 1 "(+)-(,)").events =
    [.entered ⟨0, 7, 0⟩, .sliced 0 7, .sliced 0 7, .countedUp 1, .countedDown 1, .matched 0 2,
      .countedUp 1, .descended ⟨0, 7, 0⟩ ⟨1, 2, 1⟩, .entered ⟨1, 2, 1⟩, .sliced 1 2,
      .resumed 2 7 [(3, '-'), (4, '('), (5, ','), (6, ')')], .sliced 4 7, .countedUp 1,
      .countedDown 1, .matched 4 6, .countedUp 1, .descended ⟨0, 7, 0⟩ ⟨5, 6, 1⟩,
      .entered ⟨5, 6, 1⟩, .sliced 5 6, .sliced 5 6] := by
  cbv

end Calculator
