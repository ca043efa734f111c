import Calculator.Decimal.Layout
import Calculator.Value.Basic

/-!
# Writing array and object literals

The literal form of a value is compact JSON: no blanks, the entries of an object in order of
their keys, and `null` for numbers that are not finite.  In strings only the quotation mark, the
backslash and the control characters below the space are escaped.
-/

namespace Calculator.Literal

def hexDigit (n : Nat) : Char :=
  if n < 10 then Char.ofNat (48 + n) else Char.ofNat (87 + n)

/-- The literal form of one character of a string. -/
def escapeChar (c : Char) : List Char :=
  if c = '"' then ['\\', '"']
  else if c = '\\' then ['\\', '\\']
  else if c = '\x08' then ['\\', 'b']
  else if c = '\x0c' then ['\\', 'f']
  else if c = '\n' then ['\\', 'n']
  else if c = '\r' then ['\\', 'r']
  else if c = '\t' then ['\\', 't']
  else if c.toNat < 32 then
    ['\\', 'u', '0', '0', hexDigit (c.toNat / 16), hexDigit (c.toNat % 16)]
  else [c]

def stringChars (text : String) : List Char :=
  '"' :: text.toList.flatMap escapeChar ++ ['"']

def numberChars (x : Float) : List Char :=
  (Decimal.literalChars? x).getD ['n', 'u', 'l', 'l']

mutual

def chars : Value → List Char
  | .null => ['n', 'u', 'l', 'l']
  | .boolean true => ['t', 'r', 'u', 'e']
  | .boolean false => ['f', 'a', 'l', 's', 'e']
  | .number x => numberChars x
  | .string text => stringChars text
  | .array items => '[' :: itemsChars items
  | .object entries => '\x7b' :: entriesChars entries

/-- The items of an array, with commas between them and the closing bracket. -/
def itemsChars : List Value → List Char
  | [] => [']']
  | [item] => chars item ++ [']']
  | item :: rest => chars item ++ ',' :: itemsChars rest

/-- The entries of an object, with commas between them and the closing brace. -/
def entriesChars : List (String × Value) → List Char
  | [] => ['\x7d']
  | [(key, value)] => stringChars key ++ ':' :: chars value ++ ['\x7d']
  | (key, value) :: rest => stringChars key ++ ':' :: chars value ++ ',' :: entriesChars rest

end

/-- The literal form of a value, as a string. -/
def text (value : Value) : String :=
  String.ofList (chars value)

end Calculator.Literal
