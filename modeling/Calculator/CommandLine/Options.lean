import Calculator.Calculation

set_option autoImplicit false

namespace Calculator.CommandLine

inductive Argument where
  | expression (text : String)
  | precision (places : Nat)
  | maxDepth (levels : Nat)
  | check
  | tree
  | verbose
  | quiet
deriving DecidableEq, Repr

def readSize? (text : List Char) : Option Nat :=
  let digits := match text with
    | '+' :: rest => rest
    | _ => text
  let size := Nat.ofDigitChars 10 digits 0
  if !digits.isEmpty && digits.all Char.isDigit && size < UInt64.size then some size else none

inductive Valued where
  | precision
  | maxDepth
deriving DecidableEq, Repr

def Valued.read? (option : Valued) (value : List Char) : Option Argument :=
  match option with
  | precision => (readSize? value).map .precision
  | maxDepth => (readSize? value).map .maxDepth

def shortFlag? : Char → Option Argument
  | 'c' => some .check
  | 't' => some .tree
  | 'v' => some .verbose
  | 'q' => some .quiet
  | _ => none

def longFlag? : String → Option Argument
  | "check" => some .check
  | "tree" => some .tree
  | "verbose" => some .verbose
  | "quiet" => some .quiet
  | _ => none

def longValued? : String → Option Valued
  | "precision" => some .precision
  | "max-depth" => some .maxDepth
  | _ => none

abbrev Reading := List Argument × Option Valued

def shortArguments? : List Char → Option Reading
  | [] => some ([], none)
  | ['p'] => some ([], some .precision)
  | 'p' :: '=' :: value => (Valued.precision.read? value).map fun argument => ([argument], none)
  | 'p' :: value => (Valued.precision.read? value).map fun argument => ([argument], none)
  | c :: rest => do
      let flag ← shortFlag? c
      let (arguments, waiting) ← shortArguments? rest
      return (flag :: arguments, waiting)

def longArgument? (word : List Char) : Option Reading :=
  let name := String.ofList (word.takeWhile (· ≠ '='))
  match word.dropWhile (· ≠ '=') with
  | [] =>
      match longFlag? name with
      | some flag => some ([flag], none)
      | none => (longValued? name).map fun option => ([], some option)
  | _ :: value => do
      let argument ← (← longValued? name).read? value
      return ([argument], none)

def wordArguments? (word : String) : Option Reading :=
  match word.toList with
  | '-' :: '-' :: long => longArgument? long
  | '-' :: c :: rest => shortArguments? (c :: rest)
  | _ => some ([.expression word], none)

/-- An option that waits for its value takes the whole next word; a word that looks like a flag is
no size and therefore refused. After two dashes all words are expressions. -/
def readArguments? : Option Valued → List String → Option (List Argument)
  | none, [] => some []
  | some _, [] => none
  | some option, word :: rest => do
      let argument ← option.read? word.toList
      return argument :: (← readArguments? none rest)
  | none, word :: rest =>
      if word = "--" then some (rest.map .expression)
      else do
        let (arguments, waiting) ← wordArguments? word
        return arguments ++ (← readArguments? waiting rest)

structure Options where
  expression : Option String
  precision : Nat
  maxDepth : Nat
  checkOnly : Bool
  showTree : Bool
  verbosity : Int
deriving DecidableEq, Repr

/-- Only `verbose` and `quiet` may be repeated, and not both used. Their count is kept in a signed
byte. -/
def Options.ofArguments? (arguments : List Argument) : Option Options :=
  let expressions := arguments.filterMap fun | .expression text => some text | _ => none
  let precisions := arguments.filterMap fun | .precision places => some places | _ => none
  let maxDepths := arguments.filterMap fun | .maxDepth levels => some levels | _ => none
  let verbose := arguments.count .verbose
  let quiet := arguments.count .quiet
  if expressions.length ≤ 1 ∧ precisions.length ≤ 1 ∧ maxDepths.length ≤ 1 ∧
      arguments.count .check ≤ 1 ∧ arguments.count .tree ≤ 1 ∧ (verbose = 0 ∨ quiet = 0) then
    some {
      expression := expressions.head?
      precision := precisions.head?.getD 2
      maxDepth := maxDepths.head?.getD defaultLimit
      checkOnly := arguments.contains .check
      showTree := arguments.contains .tree
      verbosity := Int.bmod (verbose - quiet) 256 }
  else none

def Options.ofWords? (words : List String) : Option Options := do
  Options.ofArguments? (← readArguments? none words)

end Calculator.CommandLine
