/-!
# Doubles as scaled integers

A finite double is a sign and a product of a natural number with a power of two.  Everything
that writes a double in decimal, or takes its integer part, starts from this form and goes on
in exact integer arithmetic.
-/

namespace Calculator.Decimal

/-- What a double stands for: nothing, an infinity, or the number `± significand · 2 ^ exponent`. -/
inductive Reading
  | notANumber
  | infinite (negative : Bool)
  | finite (negative : Bool) (significand : Nat) (exponent : Int)
  deriving Repr, DecidableEq

/-- Read the bits of a double: a sign bit, eleven bits of exponent, and fifty-two bits of
fraction, before which a leading one is implied unless the exponent bits are all zero. -/
def Reading.ofBits (bits : Nat) : Reading :=
  let negative := (bits >>> 63) % 2 == 1
  let exponentBits : Nat := (bits >>> 52) % (1 <<< 11)
  let fraction : Nat := bits % (1 <<< 52)
  if exponentBits == 2047 then
    if fraction == 0 then .infinite negative else .notANumber
  else if exponentBits == 0 then .finite negative fraction (-1074)
  else .finite negative ((1 <<< 52) + fraction) (Int.ofNat exponentBits - 1075)

def Reading.ofFloat (x : Float) : Reading :=
  .ofBits x.toBits.toNat

/-- The integer part of `significand · 2 ^ exponent`. -/
def integerPart (significand : Nat) (exponent : Int) : Nat :=
  if exponent < 0 then significand >>> exponent.natAbs else significand <<< exponent.natAbs

/-- Decide whether `significand · 2 ^ exponent` is an integer. -/
def isIntegral (significand : Nat) (exponent : Int) : Bool :=
  exponent ≥ 0 || significand % (1 <<< exponent.natAbs) == 0

def withSign (negative : Bool) (magnitude : Nat) : Int :=
  if negative then -(magnitude : Int) else magnitude

/-- The integer that a double equals, if it equals one and lies strictly within `bound` of
zero. -/
def integerBelow? (bound : Nat) (x : Float) : Option Int :=
  match Reading.ofFloat x with
  | .finite negative significand exponent =>
    if isIntegral significand exponent && integerPart significand exponent < bound then
      some (withSign negative (integerPart significand exponent))
    else none
  | _ => none

/-- The signed integers of 64 bits lie between minus this, which is one of them, and this. -/
def wordBound : Int := Int.ofNat (1 <<< 63)

/-- The signed integer of 64 bits that is closest. -/
def clampToWord (n : Int) : Int :=
  max (-wordBound) (min (wordBound - 1) n)

/-- The integer part of a double, cut off at the bounds of a signed integer of 64 bits; what is
not a number counts as zero. -/
def truncateToWord (x : Float) : Int :=
  match Reading.ofFloat x with
  | .notANumber => 0
  | .infinite negative => if negative then -wordBound else wordBound - 1
  | .finite negative significand exponent =>
    clampToWord (withSign negative (integerPart significand exponent))

end Calculator.Decimal
