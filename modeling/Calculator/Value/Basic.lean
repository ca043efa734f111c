import Calculator.Entries

/-!
# Values

Every expression evaluates to a value: null, a truth value, a double, a string, an array or an
object.  The entries of an object are sorted by key.
-/

namespace Calculator

/-- A value.  The entries of an object are in increasing order of their keys. -/
inductive Value
  | null
  | boolean (truth : Bool)
  | number (x : Float)
  | string (text : String)
  | array (items : List Value)
  | object (entries : List (String × Value))
  deriving Inhabited

/-- The kinds of things that an operator may find among its operands.  A regular expression is an
operand but no value. -/
inductive Kind
  | number
  | string
  | boolean
  | null
  | array
  | object
  | regex
  deriving Repr, DecidableEq

def Kind.name : Kind → String
  | .number => "number"
  | .string => "string"
  | .boolean => "boolean"
  | .null => "null"
  | .array => "array"
  | .object => "object"
  | .regex => "regex"

namespace Value

def kind : Value → Kind
  | null => .null
  | boolean _ => .boolean
  | number _ => .number
  | string _ => .string
  | array _ => .array
  | object _ => .object

/-- Decide whether a value is an array or an object. -/
def isStructured : Value → Bool
  | array _ | object _ => true
  | _ => false

/-- Decide whether a value is a string. -/
def isString : Value → Bool
  | string _ => true
  | _ => false

/-- Decide whether a value counts as true.  Zero, what is not a number, the empty string, the
string `0`, false, null, and empty arrays and objects do not. -/
def isTruthy : Value → Bool
  | null => false
  | boolean truth => truth
  | number x => !(x == 0) && !x.isNaN
  | string text => !(text == "" || text == "0")
  | array items => !items.isEmpty
  | object entries => !entries.isEmpty

mutual

/-- Structural equality, with doubles compared as numbers: what is not a number differs from
itself, and the two zeros are equal. -/
def same : Value → Value → Bool
  | null, null => true
  | boolean first, boolean second => first == second
  | number first, number second => first == second
  | string first, string second => first == second
  | array first, array second => sameItems first second
  | object first, object second => sameEntries first second
  | _, _ => false

/-- Structural equality of the items of two arrays. -/
def sameItems : List Value → List Value → Bool
  | [], [] => true
  | first :: firsts, second :: seconds => same first second && sameItems firsts seconds
  | _, _ => false

/-- Structural equality of the entries of two objects. -/
def sameEntries : List (String × Value) → List (String × Value) → Bool
  | [], [] => true
  | (key, first) :: firsts, (other, second) :: seconds =>
    key == other && same first second && sameEntries firsts seconds
  | _, _ => false

end

end Value

end Calculator
