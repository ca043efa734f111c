import Calculator.Decimal.Binary
import Calculator.Decimal.Digits

/-!
# The shortest decimal that reads back as a double

The reals that round to a positive double form an interval around it, whose ends belong to it
exactly if the significand is even.  For one digit, two digits and so on up to seventeen, the
double lies between two neighbouring decimals with that many digits.  The first count for which
one of the two neighbours lies in the interval gives the shortest decimal; if both do, the
nearer one is taken, and a parameter decides between two equally near ones.
-/

namespace Calculator.Decimal

/-- Which of two equally near decimals stands for a double. -/
inductive Tie
  | up
  | even
  deriving Repr, DecidableEq

/-- A positive decimal `0.d₁d₂… · 10 ^ (exponent + 1)`: the digits start with a nonzero one, and
`exponent` is the power of ten of that first digit. -/
structure Digits where
  digits : List Nat
  exponent : Int
  deriving Repr, DecidableEq

/-- Remove the zeros at the end of a list of digits. -/
def dropTrailingZeros (digits : List Nat) : List Nat :=
  (digits.reverse.dropWhile (· == 0)).reverse

/-- The power of ten of the first digit of the positive fraction `numerator / denominator`. -/
def leadingExponent (numerator denominator : Nat) : Int :=
  if denominator ≤ numerator then digitCount (numerator / denominator) - 1
  else -(digitCount ((denominator - 1) / numerator) : Int)

/-- A double `center` with the ends `low` and `high` of the interval of reals that round to it, all
three over one denominator. -/
structure Interval where
  low : Nat
  center : Nat
  high : Nat
  denominator : Nat
  closed : Bool

/-- The interval of reals that round to `significand · 2 ^ exponent`.  The gap below a power of two
is half as wide as the gap above it. -/
def Interval.around (significand : Nat) (exponent : Int) : Interval :=
  let scale := if exponent < 2 then 1 else 1 <<< (exponent - 2).natAbs
  let denominator := if exponent < 2 then 1 <<< (exponent - 2).natAbs else 1
  let gapBelow := if significand == 1 <<< 52 && exponent > -1074 then 1 else 2
  { low := (4 * significand - gapBelow) * scale
    center := 4 * significand * scale
    high := (4 * significand + 2) * scale
    denominator
    closed := significand % 2 == 0 }

/-- Decide whether the fraction `numerator / denominator` lies in the interval. -/
def Interval.contains (interval : Interval) (numerator denominator : Nat) : Bool :=
  let position := numerator * interval.denominator
  let low := interval.low * denominator
  let high := interval.high * denominator
  if interval.closed then low ≤ position && position ≤ high
  else low < position && position < high

/-- The multiple of `10 ^ unit` in the interval that stands for its center, if there is one. -/
def Interval.onGrid? (interval : Interval) (tie : Tie) (unit : Int) : Option Nat :=
  let scale := if unit < 0 then 1 else Nat.pow 10 unit.natAbs
  let denominator := if unit < 0 then Nat.pow 10 unit.natAbs else 1
  let scaledCenter := interval.center * denominator
  let step := interval.denominator * scale
  let below := scaledCenter / step
  let above := below + 1
  let holdsBelow := interval.contains (below * scale) denominator
  let holdsAbove := interval.contains (above * scale) denominator
  if holdsBelow && holdsAbove then
    let twice := 2 * scaledCenter
    let middle := (below + above) * step
    if twice < middle then some below
    else if middle < twice then some above
    else match tie with
      | .up => some above
      | .even => if below % 2 == 0 then some below else some above
  else if holdsBelow then some below
  else if holdsAbove then some above
  else none

/-- Try the digit counts `tried + 1`, `tried + 2`, … in turn, `left` of them. -/
def shortestFrom (tie : Tie) (interval : Interval) (leading : Int) : Nat → Nat → Digits
  | _, 0 => { digits := [], exponent := leading }
  | tried, left + 1 =>
    match interval.onGrid? tie (leading - tried) with
    | some multiple =>
      { digits := dropTrailingZeros (digitsOf multiple)
        exponent := leading - tried + digitCount multiple - 1 }
    | none => shortestFrom tie interval leading (tried + 1) left

/-- The shortest digits that read back as the positive double `significand · 2 ^ exponent`.
Seventeen digits always suffice. -/
def shortest (tie : Tie) (significand : Nat) (exponent : Int) : Digits :=
  let interval := Interval.around significand exponent
  let leading := leadingExponent interval.center interval.denominator
  shortestFrom tie interval leading 0 17

end Calculator.Decimal
