import Mathlib.Control.Monad.Basic
import Calculator.Proofs.CanonicalText
import Calculator.Proofs.Drawing
import Calculator.Proofs.FirstLine
import Calculator.Proofs.FixedText
import Calculator.Proofs.PostOrder

set_option autoImplicit false

namespace Calculator.CommandLine

/-- Bytes that are valid UTF-8 are read as a text, and a drawing is laid out in memory. -/
structure Libraries.Documented (libraries : Libraries) : Prop where
  textOf (text : String) : libraries.textOf text.toUTF8 = .ok text
  layOut (drawing : Drawing) : libraries.layOut drawing = some drawing.lines

theorem documented_usual : Libraries.usual.Documented where
  textOf text := by
    have read : String.fromUTF8? text.toUTF8 = some text := dif_pos text.isValidUTF8
    simp only [Libraries.usual, read]
  layOut drawing := rfl

def Note.description? : Note → Option String
  | record .. => none
  | problem description => some description

structure Outcome (α : Type) where
  output : List String
  descriptions : List String
  ending : Except Stop α

def Course.outcome (course : Course) : Outcome Unit :=
  ⟨course.output, course.notes.filterMap Note.description?, course.ending⟩

-- Log records may stand among the descriptions of problems.
inductive Told (libraries : Libraries) : List String → List String → Prop where
  | nothing : Told libraries [] []
  | record {descriptions lines : List String} (level : LogLevel) (message : String) :
      Told libraries descriptions lines →
      Told libraries descriptions (libraries.recordLines level message ++ lines)
  | problem {descriptions lines : List String} (description : String) :
      Told libraries descriptions lines →
      Told libraries (description :: descriptions) (description :: lines)

structure Report.Shows (report : Report) (libraries : Libraries) (outcome : Outcome Unit) :
    Prop where
  code_iff : report.code = 0 ↔ outcome.ending = .ok ()
  stdout : report.stdout = unlines outcome.output
  stderr : ∃ lines, Told libraries outcome.descriptions lines ∧
    report.stderr = unlines (lines ++
      match outcome.ending with
      | .ok () => []
      | .error stop => libraries.stopLines stop)

theorem told_notes (libraries : Libraries) (notes : List Note) :
    Told libraries (notes.filterMap Note.description?)
      (notes.flatMap fun
        | .record level message => libraries.recordLines level message
        | .problem description => [description]) := by
  induction notes with
  | nil => exact .nothing
  | cons note notes ih =>
      cases note with
      | record level message => exact .record level message ih
      | problem description => exact .problem description ih

theorem Course.report_shows (course : Course) (libraries : Libraries) :
    (course.report libraries).Shows libraries course.outcome where
  code_iff := by
    show course.code = 0 ↔ course.ending = .ok ()
    rw [Course.code]
    split
    next ended => simp [ended]
    next ended => simp [ended]
    next ended => simp [ended]
  stdout := rfl
  stderr := ⟨_, told_notes libraries course.notes, rfl⟩

section Actions

variable {α β : Type}

def Action.Yields (action : Action α) (outcome : Outcome α) : Prop :=
  ∀ written, ∃ notes,
    action.run.run written =
      (outcome.ending, ⟨written.output ++ outcome.output, written.notes ++ notes⟩) ∧
    notes.filterMap Note.description? = outcome.descriptions

namespace Action

theorem yields_pure (a : α) : (pure a : Action α).Yields ⟨[], [], .ok a⟩ := fun written =>
  ⟨[], by simp only [List.append_nil]; rfl, rfl⟩

theorem yields_throw (stop : Stop) : (throw stop : Action α).Yields ⟨[], [], .error stop⟩ :=
  fun written => ⟨[], by simp only [List.append_nil]; rfl, rfl⟩

theorem yields_print (line : String) : (print line).Yields ⟨[line], [], .ok ()⟩ := fun written =>
  ⟨[], by simp only [List.append_nil]; rfl, rfl⟩

theorem yields_note (item : Note) :
    (note item).Yields ⟨[], item.description?.toList, .ok ()⟩ := by
  intro written
  refine ⟨[item], by simp only [List.append_nil]; rfl, ?_⟩
  cases item <;> rfl

section Bind

variable {action : Action α} {next : α → Action β}
  {output output' descriptions descriptions' : List String}

theorem Yields.bind {a : α} {ending : Except Stop β}
    (first : action.Yields ⟨output, descriptions, .ok a⟩)
    (later : (next a).Yields ⟨output', descriptions', ending⟩) :
    (action >>= next).Yields ⟨output ++ output', descriptions ++ descriptions', ending⟩ := by
  intro written
  obtain ⟨notes, ran, described⟩ := first written
  obtain ⟨notes', ran', described'⟩ := later ⟨written.output ++ output, written.notes ++ notes⟩
  refine ⟨notes ++ notes', ?_, ?_⟩
  next =>
    rw [List.append_assoc, List.append_assoc] at ran'
    rw [ExceptT.run_bind, StateT.run_bind, ran]
    exact ran'
  next => rw [List.filterMap_append, described, described']

theorem Yields.silently {a : α} {outcome : Outcome β} (first : action.Yields ⟨[], [], .ok a⟩)
    (later : (next a).Yields outcome) : (action >>= next).Yields outcome :=
  first.bind later

theorem Yields.bind_error {stop : Stop}
    (first : action.Yields ⟨output, descriptions, .error stop⟩) :
    (action >>= next).Yields ⟨output, descriptions, .error stop⟩ := by
  intro written
  obtain ⟨notes, ran, described⟩ := first written
  refine ⟨notes, ?_, described⟩
  rw [ExceptT.run_bind, StateT.run_bind, ran]
  rfl

end Bind

theorem yields_forM {action : α → Action Unit} {output descriptions : α → List String}
    (each : ∀ a, (action a).Yields ⟨output a, descriptions a, .ok ()⟩) (items : List α) :
    (items.forM action).Yields ⟨items.flatMap output, items.flatMap descriptions, .ok ()⟩ := by
  induction items with
  | nil => exact yields_pure ()
  | cons item items ih =>
      rw [List.flatMap_cons, List.flatMap_cons]
      exact (each item).bind ih

theorem yields_printLines (lines : List String) :
    (lines.forM print).Yields ⟨lines, [], .ok ()⟩ := by
  have printed := yields_forM yields_print lines
  have silent : lines.flatMap (fun _ => ([] : List String)) = [] := by simp
  rwa [silent, List.flatMap_singleton'] at printed

theorem yields_describe (text : String) (problems : List Problem) :
    (problems.forM fun problem => note (.problem (problem.describe text))).Yields
      ⟨[], problems.map (·.describe text), .ok ()⟩ := by
  have described := yields_forM
    (fun problem : Problem => yields_note (.problem (problem.describe text))) problems
  have unprinted : problems.flatMap (fun _ => ([] : List String)) = [] := by simp
  rw [unprinted] at described
  rwa [List.map_eq_flatMap]

end Action

end Actions

theorem Action.yields_inContext {α : Type} (message : String) (result : Except Failure α) :
    (inContext message result).Yields
      ⟨[], [], result.mapError fun failure => .failed message (some failure.message)⟩ := by
  cases result with
  | ok a => exact yields_pure a
  | error failure => exact yields_throw _

def Options.shownTree (options : Options) (canonicalText : String) : List String :=
  match Expr.read options.maxDepth canonicalText with
  | .ok tree => if options.showTree then tree.outline else []
  | .error _ => []

def Options.outcomeOf (options : Options) (text : String) :
    Except CalculationError Float → Outcome Unit
  | .error (.incorrect _) =>
      ⟨[], (diagnose text).map (·.describe text), .error (.failed "Incorrect expression" none)⟩
  | .error (.failed canonicalText cause) =>
      let error := CalculationError.failed canonicalText cause
      if options.checkOnly then ⟨["Correct expression"], [], .ok ()⟩
      else ⟨canonical text :: options.shownTree (canonical text), [],
        .error (.failed error.message (some error.cause))⟩
  | .ok value =>
      if options.checkOnly then ⟨["Correct expression"], [], .ok ()⟩
      else ⟨canonical text :: options.shownTree (canonical text) ++
        [s!"result = {fixedText options.precision value}"], [], .ok ()⟩

namespace Options

variable {libraries : Libraries} (options : Options) (text : String)

theorem yields_log (level : LogLevel) (message : String) :
    (options.log level message).Yields ⟨[], [], .ok ()⟩ := by
  unfold log
  split
  next => exact Action.yields_note (.record level message)
  next => exact Action.yields_pure ()

theorem yields_reject (problems : List Problem) :
    (options.reject text problems).Yields
      ⟨[], problems.map (·.describe text), .error (.failed "Incorrect expression" none)⟩ := by
  have stopped := Action.yields_throw (α := Unit) (.failed "Incorrect expression" none)
  rw [← List.append_nil (problems.map _)]
  apply (options.yields_log .warn _).silently
  exact (Action.yields_describe text problems).bind stopped

section Documented

variable (documented : libraries.Documented) (tree : Expr)
include documented

theorem yields_logGrouping : (options.logGrouping libraries tree).Yields ⟨[], [], .ok ()⟩ := by
  unfold logGrouping
  split
  next =>
    have built : (Action.infixText libraries tree).Yields ⟨[], [], .ok tree.infixText⟩ := by
      rw [Action.infixText, documented.textOf]
      exact Action.yields_pure _
    exact built.bind (Action.yields_note (.record ..))
  next => exact Action.yields_pure ()

theorem yields_printTree :
    (options.printTree libraries tree).Yields
      ⟨if options.showTree then tree.outline else [], [], .ok ()⟩ := by
  unfold printTree
  split
  next =>
    rw [Action.printTree, documented.layOut, Expr.lines_draw]
    exact Action.yields_printLines tree.outline
  next => exact Action.yields_pure ()

theorem yields_compute (inFull : options.checkOnly = false) :
    (options.compute libraries (canonical text)).Yields (options.outcomeOf text
      ((evaluate options.maxDepth (canonical text)).mapError (.failed (canonical text)))) := by
  have printed := Action.yields_print (canonical text)
  unfold compute outcomeOf shownTree evaluate
  rw [inFull]
  cases read : Expr.read options.maxDepth (canonical text) with
  | error cause => exact printed.bind (Action.yields_inContext _ (.error cause)).bind_error
  | ok tree =>
      have readTree := Action.yields_inContext s!"Failed to evaluate {canonical text}" (.ok tree)
      have grouped := options.yields_logGrouping documented tree
      have shown := options.yields_printTree documented tree
      have evaluated :=
        Action.yields_inContext s!"Failed to evaluate {canonical text}" tree.evaluate
      cases result : tree.evaluate with
      | error cause =>
          rw [result] at evaluated
          have all := List.append_nil (if options.showTree then tree.outline else [])
          simp only [ok_bind, result, Except.mapError, Bool.false_eq_true, if_false]
          rw [← all]
          apply printed.bind
          apply readTree.silently
          apply grouped.silently
          apply shown.bind
          rw [result]
          exact evaluated.bind_error
      | ok value =>
          rw [result] at evaluated
          simp only [ok_bind, result, Except.mapError, Bool.false_eq_true, if_false]
          apply printed.bind
          apply readTree.silently
          apply grouped.silently
          apply shown.bind
          rw [result]
          apply evaluated.silently
          exact Action.yields_print _

end Documented

theorem yields_respond (documented : libraries.Documented) :
    (options.respond libraries text).Yields
      (options.outcomeOf text (calculate options.maxDepth text)) := by
  unfold respond calculate
  rw [firstProblem?_eq_head?_diagnose]
  apply (options.yields_log .info _).silently
  cases found : diagnose text with
  | nil =>
      simp only [List.head?_nil]
      split
      next checked =>
        have outcome : options.outcomeOf text ((evaluate options.maxDepth (canonical text)).mapError
            (.failed (canonical text))) = ⟨["Correct expression"], [], .ok ()⟩ := by
          cases evaluate options.maxDepth (canonical text) <;> exact if_pos checked
        rw [outcome]
        exact Action.yields_print _
      next inFull =>
        exact options.yields_compute text documented (Bool.eq_false_iff.mpr inFull)
  | cons problem problems =>
      simp only [List.head?_cons, outcomeOf, found]
      exact options.yields_reject text (problem :: problems)

end Options

def IsResultLine (line : String) : Prop := "result = ".toList <+: line.toList

theorem not_isResultLine {line : String} {c : Char} (starts : line.toList.head? = some c)
    (other : c ≠ 'r') : ¬ IsResultLine line := by
  rintro ⟨shown, parts⟩
  rw [← parts] at starts
  exact other (Option.some.inj starts).symm

theorem not_isResultLine_branch {last : Bool} {lines : List String} {line : String}
    (member : line ∈ Expr.branch last lines) : ¬ IsResultLine line := by
  cases lines with
  | nil => exact absurd member List.not_mem_nil
  | cons own below =>
      rcases List.mem_cons.mp member with rfl | inBelow
      next => cases last <;> exact not_isResultLine (by simp; rfl) (by decide)
      next =>
        obtain ⟨shown, _, rfl⟩ := List.mem_map.mp inBelow
        cases last <;> exact not_isResultLine (by simp; rfl) (by decide)

theorem not_isResultLine_shownTree {options : Options} {canonicalText line : String}
    (member : line ∈ options.shownTree canonicalText) : ¬ IsResultLine line := by
  unfold Options.shownTree at member
  split at member
  next tree read =>
    split at member
    next =>
      rcases List.mem_cons.mp member with rfl | inBranch
      next => exact not_isResultLine rfl (by decide)
      next => exact not_isResultLine_branch inBranch
    next => exact absurd member List.not_mem_nil
  next => exact absurd member List.not_mem_nil

theorem not_isResultLine_canonical {text : String} (valid : isValid text) :
    ¬ IsResultLine (canonical text) := by
  intro result
  have symbols := ((isValid_iff_passes _).mp (isValid_canonical valid)).symbols
  have letter : 'r' ∈ (canonical text).toList := result.subset List.mem_cons_self
  exact absurd (symbols 'r' letter) (by decide)

theorem calculate_incorrect_iff {limit : Nat} {text : String} {problem : Problem} :
    calculate limit text = .error (.incorrect problem) ↔ firstProblem? text = some problem := by
  unfold calculate
  split
  next found => simp [found]
  next found => cases evaluate limit (canonical text) <;> simp [found, Except.mapError]

theorem evaluate_of_calculate {limit : Nat} {text : String} {value : Float}
    (h : calculate limit text = .ok value) : evaluate limit (canonical text) = .ok value := by
  unfold calculate at h
  split at h
  next => contradiction
  next =>
    cases evaluated : evaluate limit (canonical text) with
    | error cause =>
        rw [evaluated] at h
        contradiction
    | ok value =>
        rw [evaluated, Except.mapError, Except.ok.injEq] at h
        rw [h]

structure Course.Evaluates (course : Course) (options : Options) (text : String) : Prop where
  code_iff : course.code = 0 ↔ ∃ value, calculate options.maxDepth text = .ok value
  success : ∀ value, calculate options.maxDepth text = .ok value →
    ∃ tree shown, Expr.read options.maxDepth (canonical text) = .ok tree ∧
      IsFixedText options.precision value shown ∧
      course.outcome = ⟨canonical text :: (if options.showTree then tree.outline else []) ++
        [s!"result = {shown}"], [], .ok ()⟩
  failure : ∀ error, calculate options.maxDepth text = .error error →
    (∀ problem, error ≠ .incorrect problem) →
      course.outcome = ⟨canonical text :: options.shownTree (canonical text), [],
        .error (.failed error.message (some error.cause))⟩ ∧
      ∀ line ∈ course.output, ¬ IsResultLine line

structure Course.Checks (course : Course) (options : Options) (text : String) : Prop where
  code_iff : course.code = 0 ↔
    ∀ problem, calculate options.maxDepth text ≠ .error (.incorrect problem)
  correct : course.code = 0 → course.outcome = ⟨["Correct expression"], [], .ok ()⟩

def Course.FailsWith (course : Course) (message : String) : Prop :=
  ∃ cause, course.ending = .error (.failed message cause)

structure Course.Agrees (course : Course) (libraries : Libraries) (options : Options)
    (text : String) : Prop where
  shows : (course.report libraries).Shows libraries course.outcome
  incorrect_iff : course.FailsWith "Incorrect expression" ↔
    ∃ problem, calculate options.maxDepth text = .error (.incorrect problem)
  incorrect : ∀ problem, calculate options.maxDepth text = .error (.incorrect problem) →
    (diagnose text).head? = some problem ∧
      course.outcome = ⟨[], (diagnose text).map (·.describe text),
        .error (.failed "Incorrect expression" none)⟩
  evaluates : options.checkOnly = false → course.Evaluates options text
  checks : options.checkOnly = true → course.Checks options text

section

variable {options : Options} (text : String)

theorem outcomeOf_checked (checked : options.checkOnly = true)
    {calculated : Except CalculationError Float}
    (correct : ∀ problem, calculated ≠ .error (.incorrect problem)) :
    options.outcomeOf text calculated = ⟨["Correct expression"], [], .ok ()⟩ := by
  match calculated with
  | .error (.incorrect problem) => exact absurd rfl (correct problem)
  | .error (.failed _ _) | .ok _ => exact if_pos checked

variable (inFull : options.checkOnly = false)
include inFull

theorem outcomeOf_failed (canonicalText : String) (cause : Failure) :
    options.outcomeOf text (.error (.failed canonicalText cause)) =
      ⟨canonical text :: options.shownTree (canonical text), [],
        .error (.failed (CalculationError.failed canonicalText cause).message
          (some (CalculationError.failed canonicalText cause).cause))⟩ :=
  if_neg (Bool.eq_false_iff.mp inFull)

theorem outcomeOf_value (value : Float) :
    options.outcomeOf text (.ok value) =
      ⟨canonical text :: options.shownTree (canonical text) ++
        [s!"result = {fixedText options.precision value}"], [], .ok ()⟩ :=
  if_neg (Bool.eq_false_iff.mp inFull)

end

theorem message_failed_ne (canonicalText : String) (failure : Failure) :
    (CalculationError.failed canonicalText failure).message ≠ "Incorrect expression" := by
  have written : (CalculationError.failed canonicalText failure).message =
      "Failed to evaluate " ++ canonicalText := rfl
  intro same
  have first := congrArg (·.toList.head?) (written.symm.trans same)
  simp at first

section Agreement

variable {course : Course} {options : Options} {text : String}
  (h : course.outcome = options.outcomeOf text (calculate options.maxDepth text))
include h

theorem Course.ending_eq_of_outcome :
    course.ending = (options.outcomeOf text (calculate options.maxDepth text)).ending :=
  congrArg Outcome.ending h

theorem Course.failsWith_iff_of_outcome :
    course.FailsWith "Incorrect expression" ↔
      ∃ problem, calculate options.maxDepth text = .error (.incorrect problem) := by
  have ended := course.ending_eq_of_outcome h
  constructor
  next =>
    rintro ⟨cause, fails⟩
    rw [fails] at ended
    by_contra correct
    have noProblem : ∀ problem, calculate options.maxDepth text ≠ .error (.incorrect problem) :=
      not_exists.mp correct
    cases checked : options.checkOnly with
    | true =>
        rw [outcomeOf_checked text checked noProblem] at ended
        contradiction
    | false =>
        match calculated : calculate options.maxDepth text with
        | .error (.incorrect problem) => exact absurd calculated (noProblem problem)
        | .error (.failed canonicalText failure) =>
            rw [calculated, outcomeOf_failed text checked, Except.error.injEq,
              Stop.failed.injEq] at ended
            exact absurd ended.1.symm (message_failed_ne canonicalText failure)
        | .ok value =>
            rw [calculated, outcomeOf_value text checked] at ended
            contradiction
  next =>
    rintro ⟨problem, calculated⟩
    rw [calculated] at ended
    exact ⟨none, ended⟩

theorem Course.evaluates_of_outcome (inFull : options.checkOnly = false) :
    course.Evaluates options text where
  code_iff := by
    rw [Course.code, course.ending_eq_of_outcome h]
    constructor
    next =>
      intro code
      match calculated : calculate options.maxDepth text with
      | .error (.incorrect problem) =>
          rw [calculated] at code
          contradiction
      | .error (.failed canonicalText cause) =>
          rw [calculated, outcomeOf_failed text inFull] at code
          contradiction
      | .ok value => exact ⟨value, rfl⟩
    next =>
      rintro ⟨value, calculated⟩
      rw [calculated, outcomeOf_value text inFull]
  success value calculated := by
    have evaluated := evaluate_of_calculate calculated
    have finite := isFinite_of_evaluate evaluated
    obtain ⟨tree, read, -⟩ := bind_ok_iff.mp evaluated
    rw [calculated, outcomeOf_value text inFull, Options.shownTree, read] at h
    exact ⟨tree, _, read, isFixedText_fixedText finite options.precision, h⟩
  failure error calculated other := by
    have valid : isValid text := by
      refine Option.isNone_iff_eq_none.mpr (Option.eq_none_iff_forall_ne_some.mpr ?_)
      intro problem found
      rw [calculate_incorrect_iff.mpr found, Except.error.injEq] at calculated
      exact other problem calculated.symm
    cases error with
    | incorrect problem => exact absurd rfl (other problem)
    | failed canonicalText cause =>
        rw [calculated, outcomeOf_failed text inFull] at h
        refine ⟨h, fun line member => ?_⟩
        rw [show course.output = _ from congrArg Outcome.output h] at member
        rcases List.mem_cons.mp member with rfl | inTree
        next => exact not_isResultLine_canonical valid
        next => exact not_isResultLine_shownTree inTree

theorem Course.checks_of_outcome (checked : options.checkOnly = true) :
    course.Checks options text := by
  have code_iff : course.code = 0 ↔
      ∀ problem, calculate options.maxDepth text ≠ .error (.incorrect problem) := by
    rw [Course.code, course.ending_eq_of_outcome h]
    constructor
    next =>
      intro code problem calculated
      rw [calculated] at code
      contradiction
    next =>
      intro correct
      rw [outcomeOf_checked text checked correct]
  refine ⟨code_iff, fun code => ?_⟩
  rw [h, outcomeOf_checked text checked (code_iff.mp code)]

theorem Course.agrees_of_outcome (libraries : Libraries) :
    course.Agrees libraries options text where
  shows := course.report_shows libraries
  incorrect_iff := course.failsWith_iff_of_outcome h
  incorrect problem calculated := by
    rw [calculated] at h
    rw [← firstProblem?_eq_head?_diagnose]
    exact ⟨calculate_incorrect_iff.mp calculated, h⟩
  evaluates := course.evaluates_of_outcome h
  checks := course.checks_of_outcome h

end Agreement

inductive Given (options : Options) (input : ByteArray) (text : String) : Prop
  | argument (named : options.expression = some text)
  | firstLine (absent : options.expression = none) (line : FirstLine input text)

theorem Given.outcome_eq {options : Options} {input : ByteArray} {text : String}
    (given : Given options input text) {libraries : Libraries} (documented : libraries.Documented) :
    (options.course libraries input).outcome =
      options.outcomeOf text (calculate options.maxDepth text) := by
  have responds := options.yields_respond text documented
  have answers : (options.answer libraries input).Yields
      (options.outcomeOf text (calculate options.maxDepth text)) := by
    unfold Options.answer
    cases given with
    | argument named => rwa [named]
    | firstLine absent line =>
        rw [absent, Action.readText, firstLine?_eq_some_iff.mpr line]
        exact (Action.yields_pure text).silently responds
  obtain ⟨notes, ran, described⟩ := answers ⟨[], []⟩
  rw [Course.outcome, Options.course, ran]
  simp only [List.nil_append, described]

theorem Given.verbosity {options : Options} {input : ByteArray} {text : String}
    (given : Given options input text) (verbosity : Int) :
    Given { options with verbosity } input text := by
  cases given with
  | argument named => exact .argument named
  | firstLine absent line => exact .firstLine absent line

/-- A run agrees with the calculation of its expression, and its verbosity changes only the log. -/
theorem run_agrees {libraries : Libraries} (documented : libraries.Documented) {options : Options}
    {input : ByteArray} {text : String} (given : Given options input text) :
    (options.course libraries input).Agrees libraries options text ∧
      ∀ verbosity, let other := { options with verbosity }.course libraries input
        other.Agrees libraries options text ∧
          other.outcome = (options.course libraries input).outcome := by
  have outcome := given.outcome_eq documented
  refine ⟨Course.agrees_of_outcome outcome libraries, fun verbosity => ?_⟩
  have other : ({ options with verbosity }.course libraries input).outcome =
      options.outcomeOf text (calculate options.maxDepth text) :=
    (given.verbosity verbosity).outcome_eq documented
  exact ⟨Course.agrees_of_outcome other libraries, other.trans outcome.symm⟩

theorem run_agrees_quotient :
    let options : Options :=
      { expression := none, precision := 3, maxDepth := 16, checkOnly := false, showTree := true,
        verbosity := 3 }
    let input := "1 / 3\r\n2".toUTF8
    Libraries.usual.Documented ∧ Given options input "1 / 3" ∧
      (options.run input).stdout =
        "1/3\nexpression\n└─ /\n   ├─ 1\n   └─ 3\nresult = 0.333\n" ∧
      (options.course .usual input).Agrees .usual options "1 / 3" ∧
      ∀ verbosity, let other := { options with verbosity }.course .usual input
        other.Agrees .usual options "1 / 3" ∧
          other.outcome = (options.course .usual input).outcome := by
  intro options input
  have given : Given options input "1 / 3" :=
    .firstLine rfl (firstLine?_eq_some_iff.mp (by decide +kernel))
  have printed : (options.run input).stdout =
      "1/3\nexpression\n└─ /\n   ├─ 1\n   └─ 3\nresult = 0.333\n" := by
    decide +kernel
  exact ⟨documented_usual, given, printed, run_agrees documented_usual given⟩

end Calculator.CommandLine
