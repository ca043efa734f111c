import Calculator.Error
import Calculator.Literal.Reader

/-!
# Operations on values

Arithmetic uses numeric forms, except that `+` joins texts as soon as one side is a string.
Equality compares arrays and objects structurally, texts if a string is involved, and numbers
otherwise.  An order exists between all values but arrays and objects.
-/

namespace Calculator.Value

/-- The number that an operation works on. -/
def numberOperand (operation : String) (operand : Value) : Except Error Float :=
  match operand.asNumber? with
  | some x => .ok x
  | none => .error (.typeMismatch operation operand.kind)

/-- The numbers of both operands; the left one is looked at first. -/
def numberOperands (operation : String) (left right : Value) : Except Error (Float × Float) :=
  match left.numberOperand operation with
  | .error error => .error error
  | .ok x =>
    match right.numberOperand operation with
    | .error error => .error error
    | .ok y => .ok (x, y)

/-- The sum of two numbers, or the joined texts if one operand is a string. -/
def add (left right : Value) : Except Error Value :=
  if left.isString || right.isString then .ok (string (left.asText ++ right.asText))
  else (numberOperands "+" left right).map fun (x, y) => number (x + y)

def subtract (left right : Value) : Except Error Value :=
  (numberOperands "-" left right).map fun (x, y) => number (x - y)

def multiply (left right : Value) : Except Error Value :=
  (numberOperands "*" left right).map fun (x, y) => number (x * y)

/-- The quotient of two numbers.  Both zeros are refused as divisors. -/
def divide (left right : Value) : Except Error Value :=
  match numberOperands "/" left right with
  | .error error => .error error
  | .ok (x, y) => if y == 0 then .error .divisionByZero else .ok (number (x / y))

/-- The remainder of the integer parts, cut off at 64 bits; it has the sign of the dividend. -/
def remainder (left right : Value) : Except Error Value :=
  match numberOperands "%" left right with
  | .error error => .error error
  | .ok (x, y) =>
    let divisor := Decimal.truncateToWord y
    if divisor = 0 then .error .divisionByZero
    else .ok (number (Float.ofInt ((Decimal.truncateToWord x).tmod divisor)))

def power (left right : Value) : Except Error Value :=
  (numberOperands "^" left right).map fun (x, y) => number (Float.pow x y)

def negate (operand : Value) : Except Error Value :=
  (operand.numberOperand "-").map fun x => number (-x)

def not (operand : Value) : Value :=
  boolean !operand.isTruthy

/-- Equality of numeric forms, where nothing equals what is not a number. -/
def equalNumbers : Option Float → Option Float → Bool
  | some x, some y => x == y
  | none, none => true
  | _, _ => false

/-- Equality across kinds: structural for arrays and objects, textual as soon as one side is a
string, numeric otherwise. -/
def looselyEqual (left right : Value) : Bool :=
  if left.isStructured || right.isStructured then
    left.isStructured && right.isStructured && left.same right
  else if left.isString || right.isString then left.asText == right.asText
  else equalNumbers left.asNumber? right.asNumber?

/-- The order of two doubles, which does not exist if one is not a number. -/
def orderNumbers? (x y : Float) : Option Ordering :=
  if x < y then some .lt
  else if x == y then some .eq
  else if y < x then some .gt
  else none

/-- The order of two texts by code points. -/
def orderTexts (first second : String) : Ordering :=
  if first < second then .lt else if first = second then .eq else .gt

/-- The order of two values for an operation: two strings compare as texts, other pairs as numbers
if both have one, and as texts if not. -/
def compare (operation : String) (left right : Value) : Except Error (Option Ordering) :=
  if left.isStructured then .error (.typeMismatch operation left.kind)
  else if right.isStructured then .error (.typeMismatch operation right.kind)
  else if left.isString && right.isString then
    .ok (some (orderTexts left.asText right.asText))
  else
    match left.asNumber?, right.asNumber? with
    | some x, some y => .ok (orderNumbers? x y)
    | _, _ => .ok (some (orderTexts left.asText right.asText))

/-- Decide a relation by the order of two values; it fails where there is no order. -/
def ordered (operation : String) (accepts : Ordering → Bool) (left right : Value) :
    Except Error Value :=
  (compare operation left right).map fun order => boolean ((order.map accepts).getD false)

/-- The item of an array at the integer part of a number, null if there is none. -/
def itemAt (items : List Value) (position : Float) : Value :=
  match Decimal.Reading.ofFloat position with
  | .finite negative significand exponent =>
    if negative && significand != 0 then null
    else items.getD (Decimal.integerPart significand exponent) null
  | _ => null

/-- The element that a key chooses from an array or an object, null if there is none. -/
def select (container key : Value) : Except Error Value :=
  match container with
  | array items => (key.numberOperand "[").map (itemAt items)
  | object entries => .ok ((Entries.get? entries key.asText).getD null)
  | _ => .error .invalidSelector

def ofLiteral (text : String) : Except Error Value :=
  (Literal.read text).mapError (.invalidLiteral text)

/-- Apply a binary operator other than `=~` to two values. -/
def apply (op : BinaryOp) (left right : Value) : Except Error Value :=
  match op with
  | .add => left.add right
  | .subtract => left.subtract right
  | .multiply => left.multiply right
  | .divide => left.divide right
  | .remainder => left.remainder right
  | .power => left.power right
  | .equal => .ok (boolean (left.looselyEqual right))
  | .notEqual => .ok (boolean !(left.looselyEqual right))
  | .less => ordered op.symbol (· == .lt) left right
  | .lessEqual => ordered op.symbol (· != .gt) left right
  | .greater => ordered op.symbol (· == .gt) left right
  | .greaterEqual => ordered op.symbol (· != .lt) left right
  | .and => .ok (if left.isTruthy then right else left)
  | .or => .ok (if left.isTruthy then left else right)
  | .regexMatch => .error (.internal (.notBinary op.symbol))

def applyUnary (op : UnaryOp) (operand : Value) : Except Error Value :=
  match op with
  | .negate => operand.negate
  | .not => .ok operand.not

end Calculator.Value
