import Calculator.CommandLine.Options
import Calculator.Decimal.Style
import Calculator.Expr.Functional

set_option autoImplicit false

namespace Calculator.CommandLine

inductive LogLevel where
  | warn
  | info
  | debug
deriving DecidableEq, Repr

namespace LogLevel

def verbosity : LogLevel → Int
  | warn => 1
  | info => 2
  | debug => 3

def label : LogLevel → String
  | warn => "WARN "
  | info => "INFO "
  | debug => "DEBUG"

end LogLevel

inductive Note where
  | record (level : LogLevel) (message : String)
  | problem (description : String)
deriving DecidableEq, Repr

inductive Stop where
  | failed (message : String) (cause : Option String)
  | panicked
deriving DecidableEq, Repr

structure Written where
  output : List String
  notes : List Note
deriving DecidableEq, Repr

abbrev Action := ExceptT Stop (StateM Written)

/-- The libraries that a run depends on and that are not part of it. A text is read from bytes, and
a drawing laid out in lines, where that does not fail. A log record and the reason for a stop have
lines of their own. -/
structure Libraries where
  textOf : ByteArray → Except String String
  layOut : Drawing → Option (List String)
  recordLines : LogLevel → String → List String
  stopLines : Stop → List String

namespace Action

def print (line : String) : Action Unit :=
  modify fun written => { written with output := written.output ++ [line] }

def note (note : Note) : Action Unit :=
  modify fun written => { written with notes := written.notes ++ [note] }

def inContext {α : Type} (message : String) (result : Except Failure α) : Action α :=
  match result with
  | .ok a => pure a
  | .error failure => throw (.failed message (some failure.message))

def infixText (libraries : Libraries) (tree : Expr) : Action String :=
  match libraries.textOf tree.infixText.toUTF8 with
  | .ok text => pure text
  | .error cause => throw (.failed "Failed to build infix expression" (some cause))

def printTree (libraries : Libraries) (tree : Expr) : Action Unit :=
  match libraries.layOut (tree.draw (.start "expression")) with
  | some lines => lines.forM print
  | none => throw .panicked

end Action

namespace Options

def logs (options : Options) (level : LogLevel) : Bool := level.verbosity ≤ options.verbosity

def log (options : Options) (level : LogLevel) (message : String) : Action Unit := do
  if options.logs level then .note (.record level message)

def reject (options : Options) (text : String) (problems : List Problem) : Action Unit := do
  options.log .warn s!"Found {problems.length} problem(s)"
  problems.forM fun problem => .note (.problem (problem.describe text))
  throw (.failed "Incorrect expression" none)

-- The infix text is built only where it is logged.
def logGrouping (libraries : Libraries) (options : Options) (tree : Expr) : Action Unit := do
  if options.logs .debug then
    .note (.record .debug s!"Grouped as {← .infixText libraries tree}")

def printTree (libraries : Libraries) (options : Options) (tree : Expr) : Action Unit := do
  if options.showTree then .printTree libraries tree

def compute (libraries : Libraries) (options : Options) (canonicalText : String) :
    Action Unit := do
  .print canonicalText
  let tree ← .inContext s!"Failed to evaluate {canonicalText}"
    (Expr.read options.maxDepth canonicalText)
  options.logGrouping libraries tree
  options.printTree libraries tree
  let value ← .inContext s!"Failed to evaluate {canonicalText}" tree.evaluate
  .print s!"result = {fixedText options.precision value}"

def respond (libraries : Libraries) (options : Options) (text : String) : Action Unit := do
  options.log .info s!"Checking {Text.quotedString text}"
  match diagnose text with
  | [] =>
      if options.checkOnly then .print "Correct expression"
      else options.compute libraries (canonical text)
  | problems => options.reject text problems

end Options

def firstLine? (input : ByteArray) : Option String := do
  let line ← String.fromUTF8? (input.toList.takeWhile (· ≠ 10)).toByteArray
  return String.ofList (line.toList.reverse.dropWhile (· == '\r')).reverse

def Action.readText (input : ByteArray) : Action String :=
  match firstLine? input with
  | some text => pure text
  | none =>
      throw (.failed "Failed to read the expression from standard input"
        (some "stream did not contain valid UTF-8"))

structure Course extends Written where
  ending : Except Stop Unit

def unlines (lines : List String) : String := String.join (lines.map (· ++ "\n"))

structure Report where
  code : Nat
  stdout : String
  stderr : String
deriving DecidableEq, Repr

namespace Course

def code (course : Course) : Nat :=
  match course.ending with
  | .ok () => 0
  | .error (.failed ..) => 1
  | .error .panicked => 101

def report (libraries : Libraries) (course : Course) : Report where
  code := course.code
  stdout := unlines course.output
  stderr :=
    let noteLines : Note → List String
      | .record level message => libraries.recordLines level message
      | .problem description => [description]
    let endLines : Except Stop Unit → List String
      | .ok () => []
      | .error stop => libraries.stopLines stop
    unlines (course.notes.flatMap noteLines ++ endLines course.ending)

end Course

namespace Options

def answer (libraries : Libraries) (options : Options) (input : ByteArray) : Action Unit := do
  match options.expression with
  | some text => options.respond libraries text
  | none => options.respond libraries (← .readText input)

def course (libraries : Libraries) (options : Options) (input : ByteArray) : Course :=
  let (ending, written) := (options.answer libraries input).run.run ⟨[], []⟩
  { written with ending }

end Options

/-- Log records without a time, and a cause below the message of a failure. -/
def Libraries.usual : Libraries where
  textOf bytes :=
    match String.fromUTF8? bytes with
    | some text => .ok text
    | none => .error "invalid utf-8 sequence"
  layOut drawing := some drawing.lines
  recordLines level message := [s!"[{level.label} arithmetic_evaluator_cli] {message}"]
  stopLines
    | .failed message none => [s!"Error: {message}"]
    | .failed message (some cause) => [s!"Error: {message}", "", "Caused by:", s!"    {cause}"]
    | .panicked => []

def Options.run (options : Options) (input : ByteArray) : Report :=
  (options.course .usual input).report .usual

end Calculator.CommandLine
