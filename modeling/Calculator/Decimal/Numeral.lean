import Calculator.Decimal.Digits

/-!
# Reading decimal numerals

A numeral is a string of digits with at most one point, not both sides of it empty, and an
optional decimal exponent.  It stands for the double nearest to its exact value.  Texts that are
read as numbers may also carry a sign, and may name infinity or a value that is not a number.
-/

namespace Calculator.Decimal

/-- The double nearest to `significand · 10 ^ exponent`.  Far outside the range of doubles the
answer is infinity or zero, and no power is computed. -/
def nearest (significand : Nat) (exponent : Int) : Float :=
  if significand = 0 then 0
  else
    let leading := exponent + digitCount significand
    if 400 < leading then 1.0 / 0.0
    else if leading < -400 then 0
    else Float.ofScientific significand (exponent < 0) exponent.natAbs

/-- The parts of an unsigned numeral. -/
structure Numeral where
  whole : List Char
  fraction : List Char
  exponent : Int
  deriving Repr, DecidableEq

/-- The double that a numeral stands for. -/
def Numeral.value (numeral : Numeral) : Float :=
  nearest (digitsValue (numeral.whole ++ numeral.fraction))
    (numeral.exponent - numeral.fraction.length)

/-- Read decimal digits, of which there must be at least one. -/
def readDigits? (chars : List Char) : Option (List Char × List Char) :=
  match chars.takeWhile Char.isDigit with
  | [] => none
  | digits => some (digits, chars.dropWhile Char.isDigit)

/-- Read a sign and decimal digits, the exponent of a numeral. -/
def readExponent? (chars : List Char) : Option (Int × List Char) :=
  if chars.head? = some '-' then
    (readDigits? chars.tail).map fun (digits, rest) => (-(digitsValue digits : Int), rest)
  else if chars.head? = some '+' then
    (readDigits? chars.tail).map fun (digits, rest) => (digitsValue digits, rest)
  else
    (readDigits? chars).map fun (digits, rest) => (digitsValue digits, rest)

/-- Read the exponent of a numeral after its letter; without one it is zero. -/
def readScale (chars : List Char) : Int × List Char :=
  match chars with
  | letter :: rest =>
    if letter = 'e' ∨ letter = 'E' then (readExponent? rest).getD (0, chars) else (0, chars)
  | [] => (0, [])

/-- Read a point and the digits after it; without a point there are none. -/
def readFraction (chars : List Char) : List Char × List Char :=
  match chars with
  | c :: rest =>
    if c = '.' then (rest.takeWhile Char.isDigit, rest.dropWhile Char.isDigit) else ([], chars)
  | [] => ([], [])

/-- Read the longest unsigned numeral at the start of a text: digits, a point with digits on at
least one side of it, and an exponent if digits follow its letter. -/
def Numeral.scan? (chars : List Char) : Option (Numeral × List Char) :=
  let whole := chars.takeWhile Char.isDigit
  let fraction := readFraction (chars.dropWhile Char.isDigit)
  let scale := readScale fraction.2
  if whole.isEmpty && fraction.1.isEmpty then none
  else some ({ whole, fraction := fraction.1, exponent := scale.1 }, scale.2)

theorem length_dropWhile_le (test : Char → Bool) (chars : List Char) :
    (chars.dropWhile test).length ≤ chars.length :=
  (List.dropWhile_sublist test).length_le

theorem readDigits?_shorter {chars digits rest : List Char}
    (read : readDigits? chars = some (digits, rest)) : rest.length ≤ chars.length := by
  unfold readDigits? at read
  split at read
  · cases read
  · simp only [Option.some.injEq, Prod.mk.injEq] at read
    rw [← read.2]
    exact length_dropWhile_le _ _

theorem readExponent?_shorter {chars rest : List Char} {exponent : Int}
    (read : readExponent? chars = some (exponent, rest)) : rest.length ≤ chars.length := by
  have tailShorter : chars.tail.length ≤ chars.length := by simp
  unfold readExponent? at read
  split at read
  · obtain ⟨⟨digits, after⟩, digitsRead, equal⟩ := Option.map_eq_some_iff.mp read
    cases equal
    exact Nat.le_trans (readDigits?_shorter digitsRead) tailShorter
  · split at read
    · obtain ⟨⟨digits, after⟩, digitsRead, equal⟩ := Option.map_eq_some_iff.mp read
      cases equal
      exact Nat.le_trans (readDigits?_shorter digitsRead) tailShorter
    · obtain ⟨⟨digits, after⟩, digitsRead, equal⟩ := Option.map_eq_some_iff.mp read
      cases equal
      exact readDigits?_shorter digitsRead

theorem readScale_shorter (chars : List Char) : (readScale chars).2.length ≤ chars.length := by
  unfold readScale
  split
  · next letter rest =>
    split
    · cases found : readExponent? rest with
      | none => simp
      | some result =>
        have shorter : result.2.length ≤ rest.length := readExponent?_shorter found
        simp only [Option.getD_some, List.length_cons]
        omega
    · simp
  · simp

/-- Reading a fraction takes as many characters as there are digits, and the point. -/
theorem readFraction_shorter (chars : List Char) :
    (readFraction chars).2.length + (readFraction chars).1.length ≤ chars.length := by
  unfold readFraction
  split
  · next c rest =>
    split
    · have parts := congrArg List.length
        (List.takeWhile_append_dropWhile (p := Char.isDigit) (l := rest))
      simp only [List.length_append] at parts
      simp only [List.length_cons]
      omega
    · simp
  · simp

/-- A numeral takes at least one character. -/
theorem Numeral.scan?_shorter {chars rest : List Char} {numeral : Numeral}
    (read : Numeral.scan? chars = some (numeral, rest)) : rest.length < chars.length := by
  unfold Numeral.scan? at read
  simp only at read
  split at read
  · cases read
  · next filled =>
    simp only [Option.some.injEq, Prod.mk.injEq] at read
    rw [← read.2]
    have parts := congrArg List.length
      (List.takeWhile_append_dropWhile (p := Char.isDigit) (l := chars))
    simp only [List.length_append] at parts
    have fractionShorter := readFraction_shorter (chars.dropWhile Char.isDigit)
    have scaleShorter := readScale_shorter (readFraction (chars.dropWhile Char.isDigit)).2
    simp only [Bool.and_eq_true, List.isEmpty_iff, not_and] at filled
    by_cases noWhole : chars.takeWhile Char.isDigit = []
    · have fractionDigits := List.length_pos_iff.mpr (filled noWhole)
      omega
    · have wholeDigits := List.length_pos_iff.mpr noWhole
      omega

/-- Read a whole text as an unsigned number. -/
def unsignedNumber? (chars : List Char) : Option Float :=
  let word := chars.map Char.toLower
  if word = ['i', 'n', 'f'] ∨ word = ['i', 'n', 'f', 'i', 'n', 'i', 't', 'y'] then
    some (1.0 / 0.0)
  else if word = ['n', 'a', 'n'] then some (0.0 / 0.0)
  else
    match Numeral.scan? chars with
    | some (numeral, []) => some numeral.value
    | _ => none

/-- Read a whole text as a number with an optional sign. -/
def number? (chars : List Char) : Option Float :=
  match chars with
  | '-' :: rest => (unsignedNumber? rest).map (- ·)
  | '+' :: rest => unsignedNumber? rest
  | rest => unsignedNumber? rest

end Calculator.Decimal
