import Calculator.Text.Extender
import Calculator.Text.Printable

/-!
# Quoted text

Listings and program text write a string between double quotes.  Quotes, backslashes and the
four control characters with a short name are escaped by a letter; every other character
without a visible form of its own is written as its code point.
-/

namespace Calculator.Text

/-- The digits of a number in lower-case hexadecimal. -/
def hexDigits (n : Nat) : List Char :=
  Nat.toDigits 16 n

def quoteChar (c : Char) : List Char :=
  match c with
  | '"' => ['\\', '"']
  | '\\' => ['\\', '\\']
  | '\n' => ['\\', 'n']
  | '\r' => ['\\', 'r']
  | '\t' => ['\\', 't']
  | '\x00' => ['\\', '0']
  | c =>
    if isPrintable c && !isExtender c then [c]
    else ['\\', 'u', '\x7b'] ++ hexDigits c.toNat ++ ['\x7d']

/-- The quoted form of a list of characters. -/
def quoteChars (chars : List Char) : List Char :=
  '"' :: chars.flatMap quoteChar ++ ['"']

def quote (text : String) : String :=
  String.ofList (quoteChars text.toList)

end Calculator.Text
