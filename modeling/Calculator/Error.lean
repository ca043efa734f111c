import Calculator.Literal.Fault
import Calculator.Pattern.Basic
import Calculator.Program

/-!
# Errors

Every failure of converting or running an expression has one cause.  Syntax errors come from the
text alone, semantic errors from names and values, and internal errors from a program whose tokens
do not fit together.
-/

namespace Calculator

/-- Something that stands where it cannot stand. -/
inductive Stray
  | token (token : Token)
  | operator (symbol : String)
  | mark (c : Char)

/-- Constructs that must be closed. -/
inductive Construct
  | string
  | regex
  | literal
  deriving Repr, DecidableEq

/-- Ways in which the tokens of a program do not fit together. -/
inductive Inconsistency
  /-- An operator or a call found no operand. -/
  | missingOperand (operator : String)
  /-- A call found fewer operands than it has arguments. -/
  | missingArguments (name : String)
  /-- The program did not leave exactly one operand. -/
  | leftover (count : Nat)
  /-- An argument list ended that no call had opened. -/
  | strayArgumentList
  /-- An operator was applied to two values although it means nothing on values. -/
  | notBinary (operator : String)
  deriving Repr, DecidableEq

/-- The cause of a failure. -/
inductive Error
  | emptyExpression
  | unexpected (stray : Stray)
  | illegalCharacter (c : Char)
  | unbalancedParenthesis
  | missingOperand (op : Op)
  | unterminated (construct : Construct)
  | malformedIndex (text : String)
  | argumentCount (name : String) (given expected : Nat)
  | undefinedVariable (name : String)
  | undefinedInDefinition (name : String)
  | undefinedFunction (name : String)
  | invalidName (name : String)
  | reservedConstant (name : String)
  | assignToFunction (name : String)
  | builtinRedefinition (name : String)
  | duplicateParameter (name : String)
  | divisionByZero
  | invalidRegex (fault : PatternFault)
  | invalidLiteral (text : String) (fault : Literal.Fault)
  | invalidSelector
  | typeMismatch (operation : String) (found : Kind)
  | hostFunction (name message : String)
  | recursionLimit (limit : Nat)
  | stepLimit (limit : Nat)
  | internal (inconsistency : Inconsistency)

/-- The three origins of errors. -/
inductive ErrorCategory
  | syntactic
  | semantic
  | internal
  deriving Repr, DecidableEq

/-- The wording of what stands in the wrong place. -/
def Stray.message : Stray → String
  | token t => "token " ++ t.text
  | operator symbol => "operator '" ++ symbol ++ "'"
  | mark c => "'" ++ c.toString ++ "'"

def Construct.name : Construct → String
  | string => "string"
  | regex => "regex"
  | literal => "array or object literal"

def Inconsistency.message : Inconsistency → String
  | missingOperand operator => "missing operand for '" ++ operator ++ "'"
  | missingArguments name => "missing operand while binding arguments of '" ++ name ++ "'"
  | leftover count =>
    "evaluation ended with " ++ Decimal.naturalText count ++ " values on the stack"
  | strayArgumentList => "argument list without a call"
  | notBinary operator => "'" ++ operator ++ "' is not a binary operator"

namespace Error

def category : Error → ErrorCategory
  | emptyExpression | unexpected _ | illegalCharacter _ | unbalancedParenthesis
  | missingOperand _ | unterminated _ | malformedIndex _ => .syntactic
  | internal _ => .internal
  | _ => .semantic

def message : Error → String
  | emptyExpression => "empty expression"
  | unexpected stray => "unexpected " ++ stray.message
  | illegalCharacter c => "illegal character '" ++ c.toString ++ "'"
  | unbalancedParenthesis => "unbalanced parenthesis"
  | missingOperand op => "operator '" ++ op.sourceSymbol ++ "' lacks operand"
  | unterminated construct => "unterminated " ++ construct.name
  | malformedIndex text => "malformed index: " ++ text
  | argumentCount name given expected =>
    "wrong number of arguments to '" ++ name ++ "' (" ++ Decimal.naturalText given ++
      " given, " ++ Decimal.naturalText expected ++ " expected)"
  | undefinedVariable name => "undefined variable '" ++ name ++ "'"
  | undefinedInDefinition name =>
    "undefined variable '" ++ name ++ "' in function definition"
  | undefinedFunction name => "undefined function '" ++ name ++ "'"
  | invalidName name => "invalid name '" ++ name ++ "'"
  | reservedConstant name => "cannot assign to constant '" ++ name ++ "'"
  | assignToFunction name => "cannot assign to function '" ++ name ++ "'"
  | builtinRedefinition name => "cannot redefine built-in function '" ++ name ++ "'"
  | duplicateParameter name => "duplicate parameter '" ++ name ++ "'"
  | divisionByZero => "division by zero"
  | invalidRegex fault => "invalid regex: " ++ fault.message
  | invalidLiteral text fault => "invalid literal '" ++ text ++ "': " ++ fault.message
  | invalidSelector => "invalid object for selector"
  | typeMismatch operation found =>
    "unsupported operand for '" ++ operation ++ "': " ++ found.name
  | hostFunction name message => "host function '" ++ name ++ "' failed: " ++ message
  | recursionLimit limit => "recursion too deep (limit " ++ Decimal.naturalText limit ++ ")"
  | stepLimit limit => "step limit exceeded (limit " ++ Decimal.naturalText limit ++ ")"
  | internal inconsistency => "internal error: " ++ inconsistency.message

end Error

end Calculator
