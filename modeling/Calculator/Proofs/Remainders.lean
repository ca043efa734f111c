import Calculator.Proofs.WholeNumbers
import Calculator.Value.Operations

/-!
# Remainders

The remainder of two numbers is computed from their integer parts, which are first cut off at the
bounds of a signed integer of 64 bits.  Where nothing is cut off, the result is the exact remainder
of the integer parts: it has at most 53 significant bits, as both of them have, so that it is a
double.  Beyond these bounds the result is the remainder of other numbers, rounded to a double, and
need not be a remainder of the operands at all.
-/

namespace Calculator.Decimal

open Float.Model
open Float.Model.UnpackedFloat

/-! ## Numbers that doubles stand for -/

/-- The number that a reading stands for, if it is finite. -/
def Reading.rational? : Reading → Option ℚ
  | .finite negative significand exponent =>
    some (((withSign negative significand : ℤ) : ℚ) * 2 ^ exponent)
  | _ => none

/-- The number that a double equals, if it is finite. -/
def rational? (x : Float) : Option ℚ :=
  (Reading.ofFloat x).rational?

/-- The integer part of a number, which lies between zero and the number. -/
def truncate (p : ℚ) : ℤ :=
  if p < 0 then ⌈p⌉ else ⌊p⌋

theorem significand_lt {bits : Nat} {negative : Bool} {significand : Nat} {exponent : Int}
    (reading : Reading.ofBits bits = .finite negative significand exponent) :
    significand < 2 ^ 53 := by
  have fraction : bits % (1 <<< 52) < 2 ^ 52 := Nat.mod_lt _ (by decide)
  have leading : (1 <<< 52 : Nat) = 2 ^ 52 := rfl
  unfold Reading.ofBits at reading
  dsimp only at reading
  split at reading
  · split at reading <;> cases reading
  · split at reading
    · cases reading
      omega
    · cases reading
      omega

theorem exists_reading_of_rational? {x : Float} {p : ℚ} (finite : rational? x = some p) :
    ∃ negative significand exponent,
      Reading.ofFloat x = .finite negative significand exponent ∧ significand < 2 ^ 53 ∧
        p = withSign negative significand * 2 ^ exponent := by
  unfold rational? at finite
  cases reading : Reading.ofFloat x with
  | notANumber | infinite => rw [reading] at finite; cases finite
  | finite negative significand exponent =>
      rw [reading] at finite
      exact ⟨negative, significand, exponent, rfl, significand_lt reading,
        (Option.some.inj finite).symm⟩

theorem floor_eq_integerPart (significand : Nat) (exponent : Int) :
    ⌊(significand * 2 ^ exponent : ℚ)⌋ = integerPart significand exponent := by
  unfold integerPart
  split
  · next negative =>
    obtain ⟨count, rfl⟩ : ∃ count : Nat, exponent = -count := ⟨exponent.natAbs, by omega⟩
    have quotient : (significand * 2 ^ (-(count : Int)) : ℚ) =
        (significand : ℚ) / ((2 ^ count : Nat) : ℚ) := by
      rw [zpow_neg, zpow_natCast, div_eq_mul_inv]
      norm_cast
    rw [quotient, Int.natAbs_neg, Int.natAbs_natCast, Nat.shiftRight_eq_div_pow]
    exact Rat.floor_natCast_div_natCast _ _
  · next nonnegative =>
    obtain ⟨count, rfl⟩ : ∃ count : Nat, exponent = count := ⟨exponent.natAbs, by omega⟩
    rw [Int.natAbs_natCast, Nat.shiftLeft_eq, zpow_natCast]
    exact_mod_cast Int.floor_natCast (R := ℚ) (significand * 2 ^ count)

theorem truncate_withSign (negative : Bool) (significand : Nat) (exponent : Int) :
    truncate (withSign negative significand * 2 ^ exponent) =
      withSign negative (integerPart significand exponent) := by
  have nonnegative : (0 : ℚ) ≤ significand * 2 ^ exponent := by positivity
  have floor := floor_eq_integerPart significand exponent
  cases negative with
  | false =>
      have magnitude : ((withSign false significand : ℤ) : ℚ) = significand := by simp [withSign]
      rw [magnitude, truncate, if_neg nonnegative.not_gt, floor]
      rfl
  | true =>
      have magnitude : ((withSign true significand : ℤ) : ℚ) * 2 ^ exponent =
          -(significand * 2 ^ exponent) := by simp [withSign]
      rw [magnitude, truncate]
      split
      · rw [Int.ceil_neg, floor]
        rfl
      · next notNegative =>
        have zero : (significand * 2 ^ exponent : ℚ) = 0 := by linarith
        rw [zero, Int.floor_zero] at floor
        rw [zero, neg_zero, Int.floor_zero, withSign, ← floor]
        rfl

theorem pos_of_truncate_pos {p : ℚ} (positive : 0 < truncate p) : 0 < p := by
  unfold truncate at positive
  split at positive
  · next negative => exact absurd positive (Int.ceil_le.mpr (by exact_mod_cast negative.le)).not_gt
  · exact (by exact_mod_cast positive : (0 : ℚ) < ⌊p⌋).trans_le (Int.floor_le p)

theorem neg_of_truncate_neg {p : ℚ} (negative : truncate p < 0) : p < 0 := by
  unfold truncate at negative
  split at negative
  · assumption
  · next nonnegative =>
    exact absurd negative (Int.floor_nonneg.mpr (not_lt.mp nonnegative)).not_gt

/-! ## Numbers with few significant bits -/

/-- A number has at most 53 significant bits. -/
def Short (n : Nat) : Prop :=
  ∃ significand count, significand < 2 ^ 53 ∧ n = significand * 2 ^ count

theorem short_of_lt {n : Nat} (fits : n < 2 ^ 53) : Short n :=
  ⟨n, 0, fits, by simp⟩

theorem short_integerPart {significand : Nat} (fits : significand < 2 ^ 53) (exponent : Int) :
    Short (integerPart significand exponent) := by
  unfold integerPart
  split
  · rw [Nat.shiftRight_eq_div_pow]
    exact short_of_lt ((Nat.div_le_self _ _).trans_lt fits)
  · exact ⟨significand, exponent.natAbs, fits, Nat.shiftLeft_eq _ _⟩

/-- A remainder has no more significant bits than one of the two numbers. -/
theorem Short.mod {m n : Nat} (first : Short m) (second : Short n) : Short (m % n) := by
  obtain ⟨significand, count, fits, rfl⟩ := first
  obtain ⟨other, otherCount, otherFits, rfl⟩ := second
  rcases le_total count otherCount with below | above
  · obtain ⟨gap, rfl⟩ := Nat.exists_eq_add_of_le below
    refine ⟨significand % (other * 2 ^ gap), count, (Nat.mod_le _ _).trans_lt fits, ?_⟩
    rw [pow_add, mul_comm (2 ^ count), ← mul_assoc, Nat.mul_mod_mul_right]
  · obtain ⟨gap, rfl⟩ := Nat.exists_eq_add_of_le above
    by_cases none : other = 0
    · subst none
      exact ⟨significand, otherCount + gap, fits, by simp⟩
    · refine ⟨significand * 2 ^ gap % other, otherCount,
        (Nat.mod_lt _ (Nat.pos_of_ne_zero none)).trans otherFits, ?_⟩
      rw [pow_add, mul_comm (2 ^ otherCount), ← mul_assoc, Nat.mul_mod_mul_right]

/-- A short number beyond 53 bits ends with zeros, before which there are 53 bits. -/
theorem Short.exists_aligned {n : Nat} (short : Short n) (large : 2 ^ 53 ≤ n) :
    ∃ significand count, significand.log2 = 52 ∧ 0 < count ∧ n = significand <<< count := by
  obtain ⟨significand, count, fits, rfl⟩ := short
  have positive : 0 < significand := by
    by_contra none
    have isZero : significand = 0 := by omega
    subst isZero
    simp at large
  have short : headroom significand ≤ 52 := Nat.sub_le _ _
  have aligned := log2_aligned positive fits
  have wide : headroom significand < count := by
    by_contra narrow
    have bounded : significand * 2 ^ count ≤ significand <<< headroom significand := by
      rw [Nat.shiftLeft_eq]
      exact Nat.mul_le_mul_left _ (Nat.pow_le_pow_right (by decide) (by omega))
    have below : significand <<< headroom significand < 2 ^ 53 :=
      (Nat.log2_lt (aligned_pos positive).ne').mp (by omega)
    omega
  refine ⟨significand <<< headroom significand, count - headroom significand, aligned, by omega, ?_⟩
  rw [← Nat.shiftLeft_add, Nat.shiftLeft_eq]
  congr 2
  omega

/-! ## Integers that are doubles -/

theorem rational?_pack {significand : Nat} {exponent : Int} (sign : Sign)
    (positive : 0 < significand) (top : significand.log2 = 52) (above : -1074 ≤ exponent)
    (below : exponent ≤ 971) :
    rational? (.ofModel (.pack (.finite sign significand exponent positive))) =
      some (((withSign (isNegative sign) significand : ℤ) : ℚ) * 2 ^ exponent) := by
  have unpacked := unpack_pack sign positive top above below
  rw [rational?, Reading.ofFloat_eq_ofUnpacked]
  exact congrArg (fun unpacked => (Reading.ofUnpacked unpacked).rational?) unpacked

/-- An integer beyond 53 bits that ends with enough zeros is a double. -/
theorem ofNat_aligned {significand count : Nat} (positive : 0 < significand)
    (top : significand.log2 = 52) (shifted : 0 < count) (short : count ≤ 971) :
    Float.ofNat (significand <<< count) =
      .ofModel (.pack (.finite .positive significand count positive)) := by
  have large : ¬(significand <<< count < 2 ^ 53 ∧ 0 ≤ 22) := by
    rintro ⟨small, -⟩
    have bits := (Nat.log2_lt (by rw [Nat.shiftLeft_eq]; positivity)).mpr small
    rw [log2_shiftLeft positive, top] at bits
    omega
  have nonzero : significand <<< count ≠ 0 := by
    rw [Nat.shiftLeft_eq]
    positivity
  have place : (-53 : Int) + ((count + 53 : Nat) : Int) = count := by
    push_cast
    omega
  have rounded := @roundWithAccuracy_exact _ (-53) .positive (count + 53) positive top (by omega)
  rw [Nat.shiftLeft_add] at rounded
  simp only [place] at rounded
  have inRange : ¬2048 < -((significand <<< count).log2 : Int) := by omega
  change Float.ofScientific (significand <<< count) false 0 = _
  rw [Float.ofScientific, dif_neg large]
  have sameSign : Sign.positive * Sign.positive = Sign.positive := rfl
  have bits : Format.binary64.mantissaBits = 53 := rfl
  simp [Float.Model.ofScientific, UnpackedFloat.ofScientific, nonzero, UnpackedFloat.mul, inRange,
    sameSign, bits, rounded]

/-- The double that a short number within 64 bits is converted to equals the number. -/
theorem exists_packed_ofNat {n : Nat} (positive : 0 < n) (short : Short n)
    (bounded : n < 2 ^ 64) :
    ∃ (significand : Nat) (exponent : Int) (nonzero : 0 < significand), significand.log2 = 52 ∧
      -1074 ≤ exponent ∧ exponent ≤ 971 ∧ (significand : ℚ) * 2 ^ exponent = n ∧
      Float.ofNat n = .ofModel (.pack (.finite .positive significand exponent nonzero)) := by
  by_cases small : n < 2 ^ 53
  · have near : headroom n ≤ 52 := Nat.sub_le _ _
    have power : (2 : ℚ) ^ headroom n ≠ 0 := by positivity
    refine ⟨n <<< headroom n, -(headroom n : Int), aligned_pos positive,
      log2_aligned positive small, by omega, by omega, ?_, ?_⟩
    · rw [Nat.shiftLeft_eq, zpow_neg, zpow_natCast]
      push_cast
      exact mul_inv_cancel_right₀ power _
    · rw [ofNat_eq_wholeFloat small, wholeFloat, unpackedWhole, dif_pos positive]
  · obtain ⟨significand, count, top, shifted, rfl⟩ := short.exists_aligned (by omega)
    have nonzero : 0 < significand := by
      by_contra none
      have isZero : significand = 0 := by omega
      subst isZero
      simp at positive
    have near : count ≤ 971 := by
      have bits := (Nat.log2_lt positive.ne').mpr bounded
      rw [log2_shiftLeft nonzero, top] at bits
      omega
    refine ⟨significand, count, nonzero, top, by omega, by omega, ?_,
      ofNat_aligned nonzero top shifted near⟩
    rw [Nat.shiftLeft_eq, zpow_natCast]
    push_cast
    rfl

/-- A short integer within 64 bits is a double. -/
theorem rational?_ofInt {n : Int} (short : Short n.natAbs) (bounded : n.natAbs < 2 ^ 64) :
    rational? (Float.ofInt n) = some (n : ℚ) := by
  cases n with
  | ofNat n =>
      by_cases positive : 0 < n
      · obtain ⟨significand, exponent, nonzero, top, above, below, value, packed⟩ :=
          exists_packed_ofNat positive short bounded
        change rational? (Float.ofNat n) = _
        rw [packed, rational?_pack .positive nonzero top above below]
        exact congrArg some (by simpa [withSign, isNegative] using value)
      · have zero : n = 0 := by omega
        subst zero
        change rational? (Float.ofNat 0) = _
        rw [ofNat_eq_wholeFloat (by decide), rational?, Reading.ofFloat_eq_ofUnpacked,
          unpack_wholeFloat .positive (by decide)]
        simp [unpackedWhole, Reading.ofUnpacked, Reading.rational?, withSign]
  | negSucc n =>
      obtain ⟨significand, exponent, nonzero, top, above, below, value, packed⟩ :=
        exists_packed_ofNat n.succ_pos short bounded
      have unpacked := unpack_pack .positive nonzero top above below
      have negated : Float.ofInt (.negSucc n) =
          .ofModel (.pack (.finite .negative significand exponent nonzero)) := by
        change -Float.ofNat (n + 1) = _
        rw [packed]
        exact congrArg (fun unpacked => Float.ofModel (.pack (UnpackedFloat.neg unpacked))) unpacked
      rw [negated, rational?_pack .negative nonzero top above below]
      simp only [withSign, isNegative, if_true]
      push_cast at value ⊢
      rw [neg_mul, value]

/-! ## Words of 64 bits -/

/-- An integer lies within the bounds of a signed integer of 64 bits. -/
def FitsWord (n : Int) : Prop :=
  -wordBound ≤ n ∧ n < wordBound

theorem clampToWord_of_fitsWord {n : Int} (fits : FitsWord n) : clampToWord n = n := by
  unfold FitsWord at fits
  unfold clampToWord
  omega

theorem clampToWord_eq_zero_iff (n : Int) : clampToWord n = 0 ↔ n = 0 := by
  have bound : wordBound = 2 ^ 63 := rfl
  unfold clampToWord
  omega

theorem truncateToWord_of_rational? {x : Float} {p : ℚ} (finite : rational? x = some p) :
    truncateToWord x = clampToWord (truncate p) := by
  obtain ⟨negative, significand, exponent, reading, -, rfl⟩ := exists_reading_of_rational? finite
  rw [truncateToWord, reading, truncate_withSign]

theorem short_truncate {x : Float} {p : ℚ} (finite : rational? x = some p) :
    Short (truncate p).natAbs := by
  obtain ⟨negative, significand, exponent, -, fits, rfl⟩ := exists_reading_of_rational? finite
  rw [truncate_withSign]
  have magnitude : (withSign negative (integerPart significand exponent)).natAbs =
      integerPart significand exponent := by
    cases negative <;> simp [withSign]
  rw [magnitude]
  exact short_integerPart fits exponent

/-- No double lies just below a bound of the words of 64 bits. -/
theorem not_short_wordBound_pred : ¬Short (2 ^ 63 - 1) := by
  intro short
  obtain ⟨significand, count, -, shifted, equal⟩ := short.exists_aligned (by decide)
  obtain ⟨earlier, rfl⟩ := Nat.exists_eq_add_one.mpr shifted
  rw [Nat.shiftLeft_succ] at equal
  omega

theorem tmod_eq_self {m n : Int} (smaller : m.natAbs < n.natAbs) : m.tmod n = m := by
  have magnitude : (m.tmod n).natAbs = m.natAbs := by
    rw [Int.natAbs_tmod, Nat.mod_eq_of_lt smaller]
  have sign := Int.sign_tmod m n
  split at sign
  · next divides =>
    have zero : m.natAbs = 0 :=
      Nat.eq_zero_of_dvd_of_lt (Int.natAbs_dvd_natAbs.mpr divides) smaller
    omega
  · rw [← Int.sign_mul_natAbs (m.tmod n), sign, magnitude, Int.sign_mul_natAbs]

/-- Cutting off the divisor does not matter where it is larger in magnitude than the dividend, which
does not lie just below the bound. -/
theorem tmod_clampToWord {m n : Int} (fits : FitsWord m) (short : Short m.natAbs)
    (other : FitsWord n ∨ m ≠ -wordBound) : m.tmod (clampToWord n) = m.tmod n := by
  by_cases otherFits : FitsWord n
  · rw [clampToWord_of_fitsWord otherFits]
  · have bound : wordBound = 2 ^ 63 := rfl
    have inner : m ≠ -wordBound := other.resolve_left otherFits
    have noEdge : m.natAbs ≠ 2 ^ 63 - 1 := fun edge =>
      not_short_wordBound_pred (edge ▸ short)
    unfold FitsWord at fits otherFits
    have smaller : m.natAbs < (clampToWord n).natAbs := by
      unfold clampToWord
      omega
    have alsoSmaller : m.natAbs < n.natAbs := by omega
    rw [tmod_eq_self smaller, tmod_eq_self alsoSmaller]

/-- A double is exactly the remainder of the integer parts of two numbers: it is an integer that
differs from the first integer part by a multiple of the second one, it is smaller than the second
one in magnitude, and it is zero or has the sign of the first number. -/
def IsRemainder (r : Float) (p q : ℚ) : Prop :=
  ∃ n : ℤ, rational? r = some (n : ℚ) ∧ truncate q ∣ truncate p - n ∧ |n| < |truncate q| ∧
    (n = 0 ∨ 0 < n * p)

theorem isRemainder_ofInt {p q : ℚ} {n : ℤ} (value : rational? (Float.ofInt n) = some (n : ℚ))
    (isRemainder : n = (truncate p).tmod (truncate q)) (nonzero : truncate q ≠ 0) :
    IsRemainder (Float.ofInt n) p q := by
  subst isRemainder
  refine ⟨_, value, Int.dvd_self_sub_tmod, ?_, ?_⟩
  · rw [Int.abs_eq_natAbs, Int.abs_eq_natAbs, Int.natAbs_tmod]
    exact_mod_cast Nat.mod_lt _ (Int.natAbs_pos.mpr nonzero)
  · have sameSign := Int.sign_tmod (truncate p) (truncate q)
    split at sameSign
    · exact Or.inl (Int.sign_eq_zero_iff_zero.mp sameSign)
    · rcases lt_trichotomy (truncate p) 0 with negative | zero | positive
      · rw [Int.sign_eq_neg_one_of_neg negative, Int.sign_eq_neg_one_iff_neg] at sameSign
        have below : ((truncate p).tmod (truncate q) : ℚ) < 0 := by exact_mod_cast sameSign
        exact Or.inr (mul_pos_of_neg_of_neg below (neg_of_truncate_neg negative))
      · rw [zero, Int.zero_tmod]
        exact Or.inl rfl
      · rw [Int.sign_eq_one_of_pos positive, Int.sign_eq_one_iff_pos] at sameSign
        have above : (0 : ℚ) < ((truncate p).tmod (truncate q) : ℤ) := by exact_mod_cast sameSign
        exact Or.inr (mul_pos above (pos_of_truncate_pos positive))

end Calculator.Decimal

namespace Calculator.Value

open Decimal

/-- The remainder of finite numbers is a number, unless the divisor has the integer part zero: the
remainder of the integer parts that are cut off at the bounds of the words of 64 bits.  It is the
exact remainder where the integer parts lie within these bounds, and also where the divisor does
not, but is larger in magnitude than the dividend. -/
theorem remainder_isRemainder {left right : Value} {x y : Float} {p q : ℚ}
    (leftNumber : left.asNumber? = some x) (rightNumber : right.asNumber? = some y)
    (leftFinite : rational? x = some p) (rightFinite : rational? y = some q)
    (nonzero : truncate q ≠ 0) :
    ∃ r, left.remainder right = .ok (number r) ∧
      r = Float.ofInt ((clampToWord (truncate p)).tmod (clampToWord (truncate q))) ∧
      (FitsWord (truncate p) → FitsWord (truncate q) ∨ truncate p ≠ -wordBound →
        IsRemainder r p q) := by
  have operands : numberOperands "%" left right = .ok (x, y) := by
    simp [numberOperands, numberOperand, leftNumber, rightNumber]
  have divisor : clampToWord (truncate q) ≠ 0 :=
    fun zero => nonzero ((clampToWord_eq_zero_iff _).mp zero)
  refine ⟨_, ?_, rfl, fun fits other => ?_⟩
  · simp only [remainder, operands, truncateToWord_of_rational? leftFinite,
      truncateToWord_of_rational? rightFinite, if_neg divisor]
  · have short := (short_truncate leftFinite).mod (short_truncate rightFinite)
    rw [← Int.natAbs_tmod] at short
    have bounded : ((truncate p).tmod (truncate q)).natAbs < 2 ^ 64 := by
      have bound : wordBound = 2 ^ 63 := rfl
      have below : (truncate p).natAbs < 2 ^ 64 := by
        unfold FitsWord at fits
        omega
      rw [Int.natAbs_tmod]
      exact (Nat.mod_le _ _).trans_lt below
    rw [clampToWord_of_fitsWord fits, tmod_clampToWord fits (short_truncate leftFinite) other]
    exact isRemainder_ofInt (rational?_ofInt short bounded) rfl nonzero

/-- The least word of 64 bits has a remainder by a divisor with the integer part minus one. -/
theorem remainder_isRemainder_leastWord :
    rational? (-9223372036854775808) = some (-2 ^ 63) ∧ rational? (-1.5) = some (-3 / 2) ∧
      ∃ r, (number (-9223372036854775808)).remainder (number (-1.5)) = .ok (number r) ∧
        IsRemainder r (-2 ^ 63) (-3 / 2) := by
  have dividendReading : Reading.ofFloat (-9223372036854775808) = .finite true (2 ^ 52) 11 := by
    decide
  have divisorReading : Reading.ofFloat (-1.5) = .finite true (3 * 2 ^ 51) (-52) := by decide
  have dividend : rational? (-9223372036854775808) = some (-2 ^ 63) := by
    norm_num [rational?, dividendReading, Reading.rational?, withSign]
  have divisor : rational? (-1.5) = some (-3 / 2) := by
    norm_num [rational?, divisorReading, Reading.rational?, withSign]
  have least : truncate (-2 ^ 63) = -2 ^ 63 := by norm_num [truncate]
  have minusOne : truncate (-3 / 2) = -1 := by norm_num [truncate]
  obtain ⟨r, isNumber, -, exact⟩ := @remainder_isRemainder (number (-9223372036854775808))
    (number (-1.5)) _ _ _ _ rfl rfl dividend divisor (by rw [minusOne]; decide)
  rw [least, minusOne] at exact
  exact ⟨dividend, divisor, r, isNumber,
    exact ⟨by decide, by decide⟩ (Or.inl ⟨by decide, by decide⟩)⟩

/-- Beyond the words of 64 bits an even number leaves a remainder by two. -/
theorem not_isRemainder_beyondWord :
    rational? 9223372036854775808 = some (2 ^ 63) ∧ rational? 2 = some 2 ∧ truncate 2 ≠ 0 ∧
      (number 9223372036854775808).remainder (number 2) = .ok (number 1) ∧
      ¬IsRemainder 1 (2 ^ 63) 2 := by
  have dividendReading : Reading.ofFloat 9223372036854775808 = .finite false (2 ^ 52) 11 := by
    decide
  have divisorReading : Reading.ofFloat 2 = .finite false (2 ^ 52) (-51) := by decide
  have resultReading : Reading.ofFloat 1 = .finite false (2 ^ 52) (-52) := by decide
  have two : truncate 2 = 2 := by norm_num [truncate]
  have even : truncate (2 ^ 63) = 2 ^ 63 := by norm_num [truncate]
  refine ⟨?_, ?_, by rw [two]; decide, by with_unfolding_all rfl, ?_⟩
  · norm_num [rational?, dividendReading, Reading.rational?, withSign]
  · norm_num [rational?, divisorReading, Reading.rational?, withSign]
  · rintro ⟨n, value, divides, -⟩
    have one : (n : ℚ) = 1 := by
      norm_num [rational?, resultReading, Reading.rational?, withSign] at value
      exact value.symm
    have isOne : n = 1 := by exact_mod_cast one
    rw [two, even, isOne] at divides
    exact absurd divides (by decide)

end Calculator.Value
