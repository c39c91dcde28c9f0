import Calculator.Text

set_option autoImplicit false

namespace Calculator

def isSeparator (c : Char) : Bool := c == '.' || c == ','
def isNumeric (c : Char) : Bool := c.isDigit || isSeparator c

def isAdditive (c : Char) : Bool := c == '+' || c == '-'
def isMultiplicative (c : Char) : Bool := c == '*' || c == '/'
def isOperator (c : Char) : Bool := isAdditive c || isMultiplicative c

def isBracket (c : Char) : Bool := c == '(' || c == ')'
def isSpace (c : Char) : Bool := c == ' '

def isAcceptable (c : Char) : Bool :=
  isNumeric c || isOperator c || isBracket c || isSpace c

inductive SymbolClass where
  | number
  | opening
  | closing
  | operator
  | other
deriving DecidableEq, Repr

def SymbolClass.of (c : Char) : SymbolClass :=
  if c = '(' then .opening
  else if c = ')' then .closing
  else if isOperator c then .operator
  else if isNumeric c then .number
  else .other

/-- Separators are passed over like spaces, and the end of the text closes the bracket around it. -/
def SymbolClass.next : List Char → SymbolClass
  | [] => .closing
  | c :: rest =>
      if c.isDigit || isOperator c || isBracket c then .of c else next rest

def canonicalChar (c : Char) : Char := if isSeparator c then '.' else c

def canonical (text : String) : String :=
  String.ofList ((text.toList.filter (!Text.isBlank ·)).map canonicalChar)

end Calculator
