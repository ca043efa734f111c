import Calculator.Literal.Fault

/-!
# Reading the numbers of a literal

The digits of a number are gathered in a significand of 64 bits.  A digit that does not fit is
dropped, and counts as a factor of ten if it stands before the decimal point.  The significand
is rounded to a double and then scaled by powers of ten in double arithmetic, so that the last
digit of the result may differ from that of the nearest double.
-/

namespace Calculator.Literal

/-- Significands are smaller than this. -/
def significandBound : Nat := 1 <<< 64

/-- Exponents are smaller than this. -/
def exponentBound : Nat := 1 <<< 31

/-- The largest power of ten that is a double. -/
def largestPower : Nat := 308

/-- A power of ten with an exponent of at most 308. -/
def powerOfTen (exponent : Nat) : Float :=
  Float.ofScientific 1 false exponent

/-- Add digits to a number while it stays below a bound.  The text that is left starts with a
digit exactly if that digit did not fit. -/
def gather (bound : Nat) : Nat → List Char → Nat × List Char
  | value, [] => (value, [])
  | value, c :: rest =>
    if c.isDigit && value * 10 + Decimal.digitValue c < bound then
      gather bound (value * 10 + Decimal.digitValue c) rest
    else (value, c :: rest)

/-- Scale a double by a power of ten, if the result is finite.  Exponents below -308 are applied
in steps. -/
def scale? (x : Float) (exponent : Int) : Option Float :=
  if exponent.natAbs ≤ largestPower then
    if 0 ≤ exponent then
      let scaled := x * powerOfTen exponent.natAbs
      if scaled.isInf then none else some scaled
    else some (x / powerOfTen exponent.natAbs)
  else if x == 0 then some x
  else if 0 ≤ exponent then none
  else scale? (x / powerOfTen largestPower) (exponent + largestPower)
termination_by exponent.natAbs
decreasing_by
  simp only [largestPower] at *
  omega

def signedFloat (negative : Bool) (x : Float) : Float :=
  if negative then -x else x

/-- The number with a given sign, significand and exponent, read up to the text that is left. -/
def finishNumber (negative : Bool) (significand : Nat) (exponent : Int) (rest : List Char) :
    Except Stop (Float × List Char) :=
  match scale? significand.toUInt64.toFloat exponent with
  | some x => .ok (signedFloat negative x, rest)
  | none => .error (stopBefore .numberOutOfRange rest)

/-- Read an exponent after its letter.  An exponent that is too large makes the number zero if it
is negative or the significand is zero. -/
def readExponent (negative : Bool) (significand : Nat) (exponent : Int) (chars : List Char) :
    Except Stop (Float × List Char) :=
  let down := chars.head? == some '-'
  let digits := if down || chars.head? == some '+' then chars.tail else chars
  match digits with
  | [] => .error (stopBefore .endInValue [])
  | c :: _ =>
    if !c.isDigit then .error (stopAt .invalidNumber digits)
    else
      match gather exponentBound 0 digits with
      | (magnitude, next :: rest) =>
        if next.isDigit then
          if significand = 0 || down then
            .ok (signedFloat negative 0, rest.dropWhile Char.isDigit)
          else .error (stopBefore .numberOutOfRange rest)
        else
          finishNumber negative significand
            (if down then exponent - magnitude else exponent + magnitude) (next :: rest)
      | (magnitude, []) =>
        finishNumber negative significand
          (if down then exponent - magnitude else exponent + magnitude) []

/-- Finish a number that may have an exponent. -/
def readScale (negative : Bool) (significand : Nat) (exponent : Int) (chars : List Char) :
    Except Stop (Float × List Char) :=
  match chars with
  | letter :: rest =>
    if letter = 'e' ∨ letter = 'E' then readExponent negative significand exponent rest
    else finishNumber negative significand exponent chars
  | [] => finishNumber negative significand exponent chars

/-- Read the fraction of a number after its point.  At least one digit must follow. -/
def readFraction (negative : Bool) (significand : Nat) (exponent : Int) (chars : List Char) :
    Except Stop (Float × List Char) :=
  match chars with
  | [] => .error (stopBefore .endInValue [])
  | c :: _ =>
    if !c.isDigit then .error (stopAt .invalidNumber chars)
    else
      let (value, rest) := gather significandBound significand chars
      readScale negative value (exponent - (chars.length - rest.length : Nat))
        (rest.dropWhile Char.isDigit)

/-- Read what may follow the digits before the point. -/
def readTail (negative : Bool) (significand : Nat) (exponent : Int) (chars : List Char) :
    Except Stop (Float × List Char) :=
  match chars with
  | '.' :: rest => readFraction negative significand exponent rest
  | _ => readScale negative significand exponent chars

/-- Read a number after its sign.  A leading zero must be the only digit before the point. -/
def readNumber (negative : Bool) (chars : List Char) : Except Stop (Float × List Char) :=
  match chars with
  | '0' :: rest =>
    if (rest.head?.map Char.isDigit).getD false then .error (stopAt .invalidNumber rest)
    else readTail negative 0 0 rest
  | c :: _ =>
    if c.isDigit then
      let (value, rest) := gather significandBound 0 chars
      let dropped := rest.takeWhile Char.isDigit
      readTail negative value dropped.length (rest.dropWhile Char.isDigit)
    else .error (stopAt .invalidNumber chars)
  | [] => .error (stopBefore .endInValue [])

end Calculator.Literal
