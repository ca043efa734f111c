import Calculator.Operator
import Calculator.Value.Text

/-!
# Programs

A program is an expression in postfix order: every operator, index marker and function marker
follows its operands.  Running a program leaves exactly one operand if its depth is one.
-/

namespace Calculator

/-- An element of a program. -/
inductive Token
  | number (x : Float)
  /-- A string, with its escapes resolved. -/
  | string (text : String)
  /-- An array or object literal, which is read when it is evaluated. -/
  | literal (raw : String)
  /-- A keyword's value, or the value of a variable at the time a function was defined. -/
  | value (value : Value)
  | var (name : String)
  /-- A capture variable; the name begins with its dollar sign. -/
  | capture (name : String)
  | regex (source flags : String)
  | op (op : Op)
  /-- A call of a function with so many arguments. -/
  | call (name : String) (count : Nat)
  | index

def Token.text : Token → String
  | number x => (Value.number x).display
  | string text => Text.quote text
  | literal raw => raw
  | value v => v.listing
  | var name => name
  | capture name => name
  | regex source flags => "/" ++ source ++ "/" ++ flags
  | op o => o.symbol
  | call name count => name ++ "(" ++ Decimal.naturalText count ++ ")"
  | index => "[]"

/-- The number of operands that a token adds to the stack, less those that it takes. -/
def Token.stackEffect : Token → Int
  | op (.unary _) => 0
  | op (.binary _) => -1
  | index => -1
  | call _ count => 1 - count
  | _ => 1

/-- An expression in postfix order. -/
abbrev Program := List Token

namespace Program

/-- The written form of a program: its tokens with spaces between them. -/
def text (program : Program) : String :=
  " ".intercalate (program.map Token.text)

/-- The number of operands that a run leaves on the stack. -/
def stackDepth (program : Program) : Int :=
  program.foldl (fun depth token => depth + token.stackEffect) 0

end Program

end Calculator
