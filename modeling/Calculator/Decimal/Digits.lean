/-!
# Decimal digits of natural numbers

Writing a natural number in decimal and reading a string of digits.  The main statements are that
reading undoes writing, and that a number is written as the library writes it.
-/

namespace Calculator.Decimal

def digitChar (digit : Nat) : Char :=
  Char.ofNat (48 + digit)

/-- The digit that a character stands for. -/
def digitValue (c : Char) : Nat :=
  c.toNat - 48

/-- The decimal digits of a natural number, the most significant one first. -/
def digitsOf (n : Nat) : List Nat :=
  if n < 10 then [n] else digitsOf (n / 10) ++ [n % 10]
termination_by n
decreasing_by omega

/-- The number of decimal digits of a natural number, which is zero for zero. -/
def digitCount (n : Nat) : Nat :=
  if n = 0 then 0 else digitCount (n / 10) + 1
termination_by n
decreasing_by omega

def naturalChars (n : Nat) : List Char :=
  (digitsOf n).map digitChar

def integerChars (n : Int) : List Char :=
  if n < 0 then '-' :: naturalChars n.natAbs else naturalChars n.natAbs

/-- Write a natural number in decimal, as a string. -/
def naturalText (n : Nat) : String :=
  String.ofList (naturalChars n)

/-- The value of a string of decimal digits. -/
def digitsValue (digits : List Char) : Nat :=
  digits.foldl (fun value digit => 10 * value + digitValue digit) 0

theorem digitValue_digitChar {digit : Nat} (small : digit < 10) :
    digitValue (digitChar digit) = digit := by
  have table : ∀ digit < 10, digitValue (digitChar digit) = digit := by decide
  exact table digit small

theorem digitsOf_lt_ten (n : Nat) : ∀ digit ∈ digitsOf n, digit < 10 := by
  induction n using digitsOf.induct with
  | case1 n small =>
    rw [digitsOf, if_pos small]
    simpa using small
  | case2 n large ih =>
    rw [digitsOf, if_neg large]
    intro digit member
    rcases List.mem_append.mp member with early | last
    · exact ih digit early
    · have equal := List.mem_singleton.mp last
      omega

theorem digitsValue_append_digit (digits : List Char) (c : Char) :
    digitsValue (digits ++ [c]) = 10 * digitsValue digits + digitValue c := by
  simp [digitsValue]

/-- Reading the digits of a number gives the number back. -/
theorem digitsValue_naturalChars (n : Nat) : digitsValue (naturalChars n) = n := by
  induction n using digitsOf.induct with
  | case1 n small =>
    rw [naturalChars, digitsOf, if_pos small]
    simp [digitsValue, digitValue_digitChar small]
  | case2 n large ih =>
    rw [naturalChars, digitsOf, if_neg large, List.map_append, List.map_singleton,
      digitsValue_append_digit, ← naturalChars, ih,
      digitValue_digitChar (Nat.mod_lt n (by omega))]
    omega

theorem digitChar_eq {digit : Nat} (small : digit < 10) : digitChar digit = digit.digitChar := by
  have table : ∀ digit < 10, digitChar digit = digit.digitChar := by decide
  exact table digit small

theorem naturalChars_eq_toDigits (n : Nat) : naturalChars n = Nat.toDigits 10 n := by
  induction n using digitsOf.induct with
  | case1 n small =>
    rw [naturalChars, digitsOf, if_pos small, Nat.toDigits_of_lt_base small, ← digitChar_eq small]
    rfl
  | case2 n large ih =>
    have last : n % 10 < 10 := Nat.mod_lt n (by omega)
    rw [naturalChars, digitsOf, if_neg large, List.map_append, List.map_singleton, ← naturalChars,
      ih, digitChar_eq last, ← Nat.toDigits_of_base_le (by omega) (Nat.le_of_not_lt large)]

theorem naturalText_eq_toString (n : Nat) : naturalText n = toString n := by
  rw [naturalText, naturalChars_eq_toDigits, Nat.toString_eq_repr, Nat.repr_eq_ofList_toDigits]

end Calculator.Decimal
