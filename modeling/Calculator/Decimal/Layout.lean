import Calculator.Decimal.Shortest

/-!
# Decimal layouts of doubles

Two layouts are in use.  The plain layout never has an exponent, and writes an integral number
without a fraction.  The literal layout is that of array and object literals: it writes numbers
of ordinary size in positional form and all others with an exponent, and has no form for what is
not a finite number.  Both write integers below `10 ^ 15` digit by digit, so that negative zero
is written as zero.
-/

namespace Calculator.Decimal

/-- Integers of smaller magnitude are written as integers in every layout. -/
def integerBound : Nat := Nat.pow 10 15

/-- The digits before and after the decimal point in positional form. -/
def Digits.positional (decimal : Digits) : List Char × List Char :=
  let chars := decimal.digits.map digitChar
  if decimal.exponent < 0 then
    (['0'], List.replicate (decimal.exponent.natAbs - 1) '0' ++ chars)
  else
    let whole := decimal.exponent.natAbs + 1
    (chars.take whole ++ List.replicate (whole - chars.length) '0', chars.drop whole)

/-- Write digits in positional form, the point only before a fraction. -/
def Digits.plainChars (decimal : Digits) : List Char :=
  match decimal.positional with
  | (whole, []) => whole
  | (whole, fraction) => whole ++ '.' :: fraction

/-- Write digits in positional form with at least one digit after the point. -/
def Digits.pointedChars (decimal : Digits) : List Char :=
  match decimal.positional with
  | (whole, []) => whole ++ ['.', '0']
  | (whole, fraction) => whole ++ '.' :: fraction

/-- Write digits with one digit before the point and a signed exponent. -/
def Digits.exponentChars (decimal : Digits) : List Char :=
  let mantissa :=
    match decimal.digits.map digitChar with
    | [] => ['0']
    | [digit] => [digit]
    | digit :: fraction => digit :: '.' :: fraction
  let sign := if decimal.exponent < 0 then '-' else '+'
  mantissa ++ 'e' :: sign :: naturalChars decimal.exponent.natAbs

/-- Put a minus sign before the characters of a negative number. -/
def signed (negative : Bool) (chars : List Char) : List Char :=
  if negative then '-' :: chars else chars

def plainChars (x : Float) : List Char :=
  match integerBelow? integerBound x with
  | some n => integerChars n
  | none =>
    match Reading.ofFloat x with
    | .notANumber => ['N', 'a', 'N']
    | .infinite negative => signed negative ['i', 'n', 'f']
    | .finite negative significand exponent =>
      signed negative (shortest .up significand exponent).plainChars

/-- The literal layout, which has no form for infinities and for what is not a number. -/
def literalChars? (x : Float) : Option (List Char) :=
  match integerBelow? integerBound x with
  | some n => some (integerChars n)
  | none =>
    match Reading.ofFloat x with
    | .finite negative significand exponent =>
      let decimal := shortest .even significand exponent
      let chars :=
        if -5 ≤ decimal.exponent && decimal.exponent ≤ 15 then decimal.pointedChars
        else decimal.exponentChars
      some (signed negative chars)
    | _ => none

end Calculator.Decimal
