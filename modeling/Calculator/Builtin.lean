import Calculator.Value.Operations

/-!
# Built-in functions

The built-in functions take one number each.  Inverse functions also go by names that begin with
`arc`, and the natural logarithm has two names.  Whether a name is taken and which function a name
means are two questions with answers of their own: an alias is resolved by rewriting its first
letters, so that a few unusual spellings have a meaning although they are not taken.
-/

namespace Calculator

/-- The built-in functions. -/
inductive Builtin
  | sin
  | sinh
  | asin
  | asinh
  | cos
  | cosh
  | acos
  | acosh
  | tan
  | tanh
  | atan
  | atanh
  | sqrt
  | abs
  | log
  deriving Repr, DecidableEq

namespace Builtin

/-- All names under which built-in functions can be called. -/
def names : List String :=
  ["sin", "sinh", "arcsin", "asin", "arcsinh", "asinh", "cos", "cosh", "arccos", "acos",
    "arccosh", "acosh", "tan", "tanh", "arctan", "atan", "arctanh", "atanh", "sqrt", "abs",
    "ln", "log"]

/-- Decide whether a name is taken by a built-in function. -/
def isName (name : String) : Bool :=
  names.contains name

/-- The main name of a built-in function. -/
def name : Builtin → String
  | sin => "sin"
  | sinh => "sinh"
  | asin => "asin"
  | asinh => "asinh"
  | cos => "cos"
  | cosh => "cosh"
  | acos => "acos"
  | acosh => "acosh"
  | tan => "tan"
  | tanh => "tanh"
  | atan => "atan"
  | atanh => "atanh"
  | sqrt => "sqrt"
  | abs => "abs"
  | log => "log"

def all : List Builtin :=
  [sin, sinh, asin, asinh, cos, cosh, acos, acosh, tan, tanh, atan, atanh, sqrt, abs, log]

/-- Shorten the beginning `arc` of a longer name to `a`. -/
def shorten (name : String) : String :=
  match name.toList with
  | 'a' :: 'r' :: 'c' :: first :: rest => String.ofList ('a' :: first :: rest)
  | _ => name

/-- The built-in function that a name means. -/
def ofName? (name : String) : Option Builtin :=
  let short := shorten name
  if short = "ln" then some log else all.find? (·.name == short)

def apply : Builtin → Float → Float
  | sin => Float.sin
  | sinh => Float.sinh
  | asin => Float.asin
  | asinh => Float.asinh
  | cos => Float.cos
  | cosh => Float.cosh
  | acos => Float.acos
  | acosh => Float.acosh
  | tan => Float.tan
  | tanh => Float.tanh
  | atan => Float.atan
  | atanh => Float.atanh
  | sqrt => Float.sqrt
  | abs => Float.abs
  | log => Float.log

/-- Call a built-in function with a value. -/
def call (builtin : Builtin) (argument : Value) : Except Error Value :=
  (argument.numberOperand builtin.name).map fun x => .number (builtin.apply x)

end Builtin

end Calculator
