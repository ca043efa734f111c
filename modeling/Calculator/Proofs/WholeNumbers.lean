import Calculator.Literal.Number
import Calculator.Literal.Printer
import Mathlib

/-!
# Whole numbers among the doubles

An integer of at most 53 bits is a double, and nothing is rounded on the way to it: its digits
are shifted to the top of the significand, and every later shift drops zeros only.  So the
digits that the literal layout writes for such a double are read as the same integer again.
Negative zero is the one case in which the bits differ: it is written like zero.
-/

namespace Calculator.Decimal

open Float.Model
open Float.Model.UnpackedFloat

/-! ## Bits of doubles -/

theorem toNat_implicitBit {width : Nat} (fraction : BitVec width) :
    (1#1 ++ fraction).toNat = 2 ^ width + fraction.toNat := by
  rw [BitVec.toNat_append, ← Nat.shiftLeft_add_eq_or_of_lt fraction.isLt]
  simp [Nat.shiftLeft_eq]

theorem pack_normal {significand biased : Nat} {exponent : Int} (sign : Sign)
    (positive : 0 < significand) (top : significand.log2 = 52)
    (place : (biased : Int) = exponent + 1075) (below : biased < 2047) :
    pack Format.binary64 (.finite sign significand exponent positive) =
      packComponents Format.binary64 sign (BitVec.ofNat 11 biased)
        (BitVec.ofNat 52 significand) := by
  have shifted : (exponent + 1023 + 52).toNat = biased := by omega
  have notInfinite : ¬2048 ≤ biased + 1 := by omega
  simp [UnpackedFloat.pack, Format.exponentBias, Format.mantissaBits, shifted, notInfinite, top]

theorem unpack_normal {biased : Nat} (sign : Sign) (fraction : BitVec 52) (nonzero : 0 < biased)
    (below : biased < 2047) :
    unpack Format.binary64
        (packComponents Format.binary64 sign (BitVec.ofNat 11 biased) fraction) =
      .finite sign (2 ^ 52 + fraction.toNat) ((biased : Int) - 1075) (by positivity) := by
  have value : (BitVec.ofNat 11 biased).toNat = biased := by
    rw [BitVec.toNat_ofNat]
    omega
  have notInfinity : BitVec.ofNat 11 biased ≠ -1#11 := by
    apply ne_of_apply_ne BitVec.toNat
    rw [value]
    exact below.ne
  have notZero : BitVec.ofNat 11 biased ≠ 0#11 := by
    apply ne_of_apply_ne BitVec.toNat
    rw [value]
    exact nonzero.ne'
  simp only [UnpackedFloat.unpack, unpackMantissa_packComponents, unpackExponent_packComponents,
    unpackSign_packComponents, Sign.ofBitVec_toBitVec, if_neg notInfinity, if_neg notZero, value,
    toNat_implicitBit]
  rfl

/-- A significand of 53 bits, and an exponent that fits, survive the packed form. -/
theorem unpack_pack {significand : Nat} {exponent : Int} (sign : Sign)
    (positive : 0 < significand) (top : significand.log2 = 52)
    (above : -1074 ≤ exponent) (below : exponent ≤ 971) :
    unpack Format.binary64 (pack Format.binary64 (.finite sign significand exponent positive)) =
      .finite sign significand exponent positive := by
  obtain ⟨normal, fits⟩ := (Nat.log2_eq_iff positive.ne').mp top
  obtain ⟨biased, place⟩ : ∃ biased : Nat, (biased : Int) = exponent + 1075 :=
    ⟨(exponent + 1075).toNat, by omega⟩
  -- The leading bit is implied in the packed form, and is added again.
  have significandValue : 2 ^ 52 + (BitVec.ofNat 52 significand).toNat = significand := by
    rw [BitVec.toNat_ofNat]
    omega
  have exponentValue : (biased : Int) - 1075 = exponent := by omega
  rw [pack_normal sign positive top place (by omega), unpack_normal sign _ (by omega) (by omega)]
  simp only [significandValue, exponentValue]

theorem unpack_pack_zero (sign : Sign) :
    unpack Format.binary64 (pack Format.binary64 (.zero sign)) = .zero sign := by
  cases sign <;> rfl

/-! ## Rounding -/

/-- Zeros at the end of a significand are shifted out without a trace. -/
theorem shiftRight_shiftLeft (significand count : Nat) :
    (⟨significand <<< count, false, false⟩ : ExtendedMantissa) >>> count =
      ⟨significand, false, false⟩ := by
  change count.repeat ExtendedMantissa.shiftRightOne _ = _
  induction count generalizing significand with
  | zero => rfl
  | succ count ih =>
    have step : significand <<< (count + 1) = (significand * 2) <<< count := by
      rw [Nat.shiftLeft_succ, Nat.shiftLeft_eq, Nat.shiftLeft_eq]
      ring
    rw [Nat.repeat, step, ih]
    simp [ExtendedMantissa.shiftRightOne]

theorem log2_shiftLeft {n : Nat} (positive : 0 < n) (count : Nat) :
    (n <<< count).log2 = n.log2 + count := by
  induction count with
  | zero => rfl
  | succ count ih =>
    have doubled : n <<< count ≠ 0 := by
      rw [Nat.shiftLeft_eq]
      positivity
    rw [Nat.shiftLeft_succ, Nat.log2_two_mul doubled, ih]
    omega

theorem roundWithAccuracy_exact {significand : Nat} {exponent : Int} (sign : Sign) (count : Nat)
    (positive : 0 < significand) (top : significand.log2 = 52)
    (above : -1074 ≤ exponent + count) :
    roundWithAccuracy Format.binary64 sign (significand <<< count) exponent .exact =
      .finite sign significand (exponent + count) positive := by
  have target (position : Nat) (place : Int) (sum : place + position = exponent + count) :
      Format.binary64.targetExponent (totalExponent (significand <<< position) place) =
        exponent + count := by
    rw [totalExponent, log2_shiftLeft positive, top]
    simp only [Format.targetExponent, Format.mantissaBits, Format.minExponent]
    omega
  have first : shiftToTargetExponent Format.binary64 (significand <<< count) exponent .exact =
      (⟨significand, false, false⟩, exponent + count) := by
    have shift : (exponent + count - exponent).toNat = count := by omega
    rw [shiftToTargetExponent, target count exponent rfl, shiftToExponent, shift,
      ExtendedMantissa.ofMantissaAndAccuracy, shiftRight_shiftLeft]
  have second : shiftToTargetExponent Format.binary64 significand (exponent + count) .exact =
      (⟨significand, false, false⟩, exponent + count) := by
    have noShift : (exponent + count - (exponent + count)).toNat = 0 := by omega
    have same := target 0 (exponent + count) (by omega)
    rw [Nat.shiftLeft_zero] at same
    rw [shiftToTargetExponent, same, shiftToExponent, noShift]
    simp only [Nat.cast_zero, add_zero]
    rfl
  have rounded : (⟨significand, false, false⟩ : ExtendedMantissa).roundedMantissa = significand :=
    rfl
  have nonzero : significand ≠ 0 := by omega
  simp [roundWithAccuracy, first, rounded, second, nonzero]

/-! ## Whole numbers -/

/-- How far the significand of a number stands to the left of the unit. -/
def headroom (n : Nat) : Nat :=
  52 - n.log2

theorem log2_aligned {n : Nat} (positive : 0 < n) (fits : n < 2 ^ 53) :
    (n <<< headroom n).log2 = 52 := by
  have nonzero : n ≠ 0 := by omega
  have short : n.log2 < 53 := (Nat.log2_lt nonzero).mpr fits
  rw [log2_shiftLeft positive, headroom]
  omega

theorem aligned_pos {n : Nat} (positive : 0 < n) : 0 < n <<< headroom n := by
  rw [Nat.shiftLeft_eq]
  positivity

/-- Rounding leaves a number as it is that has been shifted to the top of a significand, and
further by any number of bits. -/
theorem roundWithAccuracy_aligned (sign : Sign) {n : Nat} (positive : 0 < n) (fits : n < 2 ^ 53)
    (count : Nat) :
    roundWithAccuracy Format.binary64 sign (n <<< headroom n <<< count)
        (-(headroom n : Int) + -(count : Int)) .exact =
      .finite sign (n <<< headroom n) (-(headroom n : Int)) (aligned_pos positive) := by
  have short : headroom n ≤ 52 := Nat.sub_le _ _
  have place : -(headroom n : Int) + -(count : Int) + count = -(headroom n : Int) := by omega
  have above : -1074 ≤ -(headroom n : Int) + -(count : Int) + count := by omega
  rw [roundWithAccuracy_exact sign count (aligned_pos positive) (log2_aligned positive fits) above]
  simp only [place]

/-- A natural number of at most 53 bits as a float with a significand of 53 bits. -/
def unpackedWhole (sign : Sign) (n : Nat) : UnpackedFloat :=
  if positive : 0 < n then
    .finite sign (n <<< headroom n) (-(headroom n : Int)) (aligned_pos positive)
  else .zero sign

/-- A natural number of at most 53 bits as a double. -/
def wholeFloat (sign : Sign) (n : Nat) : Float :=
  .ofModel (.pack (unpackedWhole sign n))

theorem unpack_one : (Float.ofBits 0x3FF0000000000000).toModel.unpack = unpackedWhole .positive 1 :=
  rfl

theorem powerOfTen_zero : Literal.powerOfTen 0 = Float.ofBits 0x3FF0000000000000 := rfl

section Fitting

variable (sign : Sign) {n : Nat} (fits : n < 2 ^ 53)

include fits

theorem unpack_pack_unpackedWhole :
    unpack Format.binary64 (UnpackedFloat.pack Format.binary64 (unpackedWhole sign n)) =
      unpackedWhole sign n := by
  unfold unpackedWhole
  split
  · next positive =>
    have short : headroom n ≤ 52 := Nat.sub_le _ _
    exact unpack_pack sign _ (log2_aligned positive fits) (by omega) (by omega)
  · exact unpack_pack_zero sign

theorem ofNat_eq_unpackedWhole :
    UnpackedFloat.ofNat Format.binary64 n = unpackedWhole .positive n := by
  unfold unpackedWhole
  split
  · next positive =>
    have greater : compare (n : Int) 0 = .gt := by
      rw [Int.compare_eq_gt]
      omega
    have nonzero : n ≠ 0 := by omega
    have short : n.log2 < 53 := (Nat.log2_lt nonzero).mpr fits
    have target : Format.binary64.targetExponent (totalExponent n 0) = -(headroom n : Int) := by
      simp only [totalExponent, Format.targetExponent, Format.mantissaBits, Format.minExponent,
        headroom]
      omega
    have lowered : decreaseExponent n 0 (-(headroom n : Int)) =
        (n <<< headroom n, -(headroom n : Int)) := by
      have shift : (0 - -(headroom n : Int)).toNat = headroom n := by omega
      rw [decreaseExponent, shift]
      simp
    have rounded := roundWithAccuracy_aligned .positive positive fits 0
    simpa [UnpackedFloat.ofNat, UnpackedFloat.ofInt, UnpackedFloat.normalize, greater,
      UnpackedFloat.round, target, lowered] using rounded
  · next notPositive =>
    have isZero : n = 0 := by omega
    subst isZero
    rfl

theorem mul_unpack_one :
    mul Format.binary64 (unpackedWhole sign n) (unpackedWhole .positive 1) =
      unpackedWhole sign n := by
  have one : unpackedWhole .positive 1 = .finite .positive (2 ^ 52) (-52) (by decide) := rfl
  have sameSign : sign * .positive = sign := by cases sign <;> rfl
  rw [one]
  unfold unpackedWhole
  split
  · next positive =>
    have rounded := roundWithAccuracy_aligned sign positive fits 52
    rw [Nat.shiftLeft_eq _ 52] at rounded
    simpa [UnpackedFloat.mul, sameSign] using rounded
  · simp [UnpackedFloat.mul, sameSign]

theorem unpack_wholeFloat : (wholeFloat sign n).toModel.unpack = unpackedWhole sign n :=
  unpack_pack_unpackedWhole sign fits

theorem toFloat_eq_wholeFloat : n.toUInt64.toFloat = wholeFloat .positive n := by
  have small : n % 2 ^ 64 = n := by omega
  have value : n.toUInt64.toNat = n := by simpa using small
  rw [UInt64.toFloat, Float.Model.ofUInt64, UnpackedFloat.ofUInt64, value,
    ofNat_eq_unpackedWhole fits, wholeFloat]

theorem wholeFloat_mul_one :
    wholeFloat sign n * Float.ofBits 0x3FF0000000000000 = wholeFloat sign n := by
  change Float.ofModel (.pack (mul Format.binary64 (wholeFloat sign n).toModel.unpack
    (Float.ofBits 0x3FF0000000000000).toModel.unpack)) = wholeFloat sign n
  rw [unpack_wholeFloat sign fits, unpack_one, mul_unpack_one sign fits, wholeFloat]

theorem ofNat_eq_wholeFloat : Float.ofNat n = wholeFloat .positive n := by
  have fast : n < 2 ^ 53 ∧ 0 ≤ 22 := ⟨fits, by decide⟩
  change Float.ofScientific n false 0 = _
  rw [Float.ofScientific, dif_pos fast]
  simp only [Bool.false_eq_true, if_false]
  rw [toFloat_eq_wholeFloat fits]
  exact wholeFloat_mul_one .positive fits

theorem neg_wholeFloat : -wholeFloat .positive n = wholeFloat .negative n := by
  change Float.ofModel (.pack (UnpackedFloat.neg (wholeFloat .positive n).toModel.unpack)) = _
  rw [unpack_wholeFloat .positive fits, wholeFloat]
  have negated : (unpackedWhole .positive n).neg = unpackedWhole .negative n := by
    unfold unpackedWhole
    split <;> rfl
  rw [negated]

theorem isInf_wholeFloat : (wholeFloat sign n).isInf = false := by
  change (wholeFloat sign n).toModel.unpack.isInf = false
  rw [unpack_wholeFloat sign fits, unpackedWhole]
  split <;> rfl

theorem scale?_toFloat :
    Literal.scale? n.toUInt64.toFloat 0 = some (wholeFloat .positive n) := by
  rw [Literal.scale?, toFloat_eq_wholeFloat fits]
  simp only [Int.natAbs_zero, Nat.zero_le, if_true, le_refl]
  rw [powerOfTen_zero, wholeFloat_mul_one _ fits, isInf_wholeFloat _ fits]
  simp

end Fitting

/-- The sign of an integer, which is positive for zero. -/
def signOf (n : Int) : Sign :=
  if n < 0 then .negative else .positive

theorem ofInt_eq_wholeFloat {n : Int} (fits : n.natAbs < 2 ^ 53) :
    Float.ofInt n = wholeFloat (signOf n) n.natAbs := by
  cases n with
  | ofNat n =>
    have notNegative : ¬Int.ofNat n < 0 := by simp
    rw [signOf, if_neg notNegative]
    exact ofNat_eq_wholeFloat fits
  | negSucc n =>
    have negative : Int.negSucc n < 0 := by omega
    rw [signOf, if_pos negative]
    have fits : n + 1 < 2 ^ 53 := fits
    change -Float.ofNat (n + 1) = wholeFloat .negative (n + 1)
    rw [ofNat_eq_wholeFloat fits, neg_wholeFloat fits]

/-! ## Readings -/

def isNegative : Sign → Bool
  | .negative => true
  | .positive => false

/-- The reading of an unpacked double. -/
def Reading.ofUnpacked : UnpackedFloat → Reading
  | .notANumber => .notANumber
  | .infinity sign => .infinite (isNegative sign)
  | .zero sign => .finite (isNegative sign) 0 (-1074)
  | .finite sign significand exponent _ => .finite (isNegative sign) significand exponent

section Bits

variable (bits : BitVec Format.binary64.numBits)

theorem toNat_unpackMantissa : (unpackMantissa bits).toNat = bits.toNat % (1 <<< 52) := by
  simp [unpackMantissa, BitVec.extractLsb, BitVec.extractLsb']

theorem toNat_unpackExponent :
    (unpackExponent bits).toNat = (bits.toNat >>> 52) % (1 <<< 11) := by
  simp [unpackExponent, BitVec.extractLsb, BitVec.extractLsb']

theorem isNegative_unpackSign :
    isNegative (Sign.ofBitVec (unpackSign bits)) = ((bits.toNat >>> 63) % 2 == 1) := by
  have value : (unpackSign bits).toNat = (bits.toNat >>> 63) % 2 := by
    simp [unpackSign, BitVec.extractLsb, BitVec.extractLsb']
  rw [← value, Sign.ofBitVec]
  rcases BitVec.eq_zero_or_eq_one (unpackSign bits) with zero | one
  · simp [zero, isNegative]
  · simp [one, isNegative]

theorem Reading.ofBits_eq_ofUnpacked :
    Reading.ofBits bits.toNat = .ofUnpacked (unpack Format.binary64 bits) := by
  have full : unpackExponent bits = -1#11 ↔ (bits.toNat >>> 52) % (1 <<< 11) = 2047 := by
    rw [← toNat_unpackExponent]
    exact BitVec.toNat_inj.symm
  have empty : unpackExponent bits = 0#11 ↔ (bits.toNat >>> 52) % (1 <<< 11) = 0 := by
    rw [← toNat_unpackExponent]
    exact BitVec.toNat_inj.symm
  have noFraction : unpackMantissa bits = 0#52 ↔ bits.toNat % (1 <<< 52) = 0 := by
    rw [← toNat_unpackMantissa]
    exact BitVec.toNat_inj.symm
  unfold Reading.ofBits UnpackedFloat.unpack
  simp only [full, empty, noFraction, toNat_implicitBit, toNat_unpackMantissa,
    toNat_unpackExponent, beq_iff_eq, ← isNegative_unpackSign]
  split
  · split <;> rfl
  · split
    · next exponentZero =>
      split
      · next fractionZero => rw [Reading.ofUnpacked, fractionZero]
      · rw [Reading.ofUnpacked, exponentZero]
        rfl
    · rfl

end Bits

/-- The bits of a double are read as the model of doubles reads them. -/
theorem Reading.ofFloat_eq_ofUnpacked (x : Float) :
    Reading.ofFloat x = .ofUnpacked x.toModel.unpack :=
  Reading.ofBits_eq_ofUnpacked x.toModel.toBits.toBitVec

/-! ## Doubles that are whole -/

theorem eq_zero_of_compare {x : UnpackedFloat} {sign : Sign}
    (equal : x.compare (.zero sign) = some .eq) : ∃ other, x = .zero other := by
  cases x with
  | zero other => exact ⟨other, rfl⟩
  | notANumber => simp [UnpackedFloat.compare] at equal
  | infinity other => cases other <;> simp [UnpackedFloat.compare] at equal
  | finite other => cases other <;> simp [UnpackedFloat.compare] at equal

theorem eq_of_compare_finite {x : UnpackedFloat} {sign : Sign} {significand : Nat} {exponent : Int}
    {positive : 0 < significand}
    (equal : x.compare (.finite sign significand exponent positive) = some .eq) :
    x = .finite sign significand exponent positive := by
  cases x with
  | zero => cases sign <;> simp [UnpackedFloat.compare] at equal
  | notANumber => simp [UnpackedFloat.compare] at equal
  | infinity other => cases other <;> simp [UnpackedFloat.compare] at equal
  | finite other otherSignificand otherExponent =>
    cases other <;> cases sign <;>
      simp [UnpackedFloat.compare, Ordering.then_eq_eq] at equal ⊢ <;> exact ⟨equal.2, equal.1⟩

theorem integerPart_aligned (n : Nat) (count : Nat) :
    integerPart (n <<< count) (-(count : Int)) = n := by
  by_cases none : count = 0
  · simp [integerPart, none]
  · have negative : -(count : Int) < 0 := by omega
    rw [integerPart, if_pos negative, Int.natAbs_neg, Int.natAbs_natCast, Nat.shiftLeft_shiftRight]

theorem isIntegral_aligned (n : Nat) (count : Nat) :
    isIntegral (n <<< count) (-(count : Int)) = true := by
  simp [isIntegral, Nat.shiftLeft_eq]

theorem withSign_signOf (n : Int) : withSign (isNegative (signOf n)) n.natAbs = n := by
  by_cases negative : n < 0
  · have magnitude : -(n.natAbs : Int) = n := by omega
    simpa [withSign, isNegative, signOf, negative] using magnitude
  · have magnitude : (n.natAbs : Int) = n := by omega
    simpa [withSign, isNegative, signOf, negative] using magnitude

/-- A double equals an integer below `10 ^ 15` in magnitude. -/
def Represents (x : Float) (n : Int) : Prop :=
  n.natAbs < integerBound ∧ (x == Float.ofInt n) = true

namespace Represents

variable {x : Float} {n : Int}

theorem fits (whole : Represents x n) : n.natAbs < 2 ^ 53 :=
  lt_trans whole.1 (by decide)

theorem compare_unpack (whole : Represents x n) :
    x.toModel.unpack.compare (unpackedWhole (signOf n) n.natAbs) = some .eq := by
  have equal : x.toModel.unpack.beq (Float.ofInt n).toModel.unpack = true := whole.2
  rw [ofInt_eq_wholeFloat whole.fits, unpack_wholeFloat _ whole.fits] at equal
  simpa [UnpackedFloat.beq] using equal

/-- Both zeros are taken for the integer zero. -/
theorem integerBelow?_eq_some (whole : Represents x n) :
    integerBelow? integerBound x = some n := by
  have same := whole.compare_unpack
  by_cases positive : 0 < n.natAbs
  · rw [unpackedWhole, dif_pos positive] at same
    have reading : Reading.ofFloat x =
        .finite (isNegative (signOf n)) (n.natAbs <<< headroom n.natAbs)
          (-(headroom n.natAbs : Int)) := by
      rw [Reading.ofFloat_eq_ofUnpacked, eq_of_compare_finite same]
      rfl
    simp [integerBelow?, reading, integerPart_aligned, isIntegral_aligned, whole.1,
      withSign_signOf]
  · have isZero : n = 0 := by omega
    subst isZero
    obtain ⟨sign, zero⟩ := eq_zero_of_compare same
    have reading : Reading.ofFloat x = .finite (isNegative sign) 0 (-1074) := by
      rw [Reading.ofFloat_eq_ofUnpacked, zero]
      rfl
    cases sign <;> simp [integerBelow?, reading, isIntegral, integerPart, integerBound, withSign]

theorem numberChars_eq (whole : Represents x n) : Literal.numberChars x = integerChars n := by
  rw [Literal.numberChars, literalChars?, whole.integerBelow?_eq_some]
  rfl

end Represents

/-! ## Digits read as doubles -/

theorem signedFloat_wholeFloat {n : Int} (fits : n.natAbs < 2 ^ 53) :
    Literal.signedFloat (decide (n < 0)) (wholeFloat .positive n.natAbs) = Float.ofInt n := by
  rw [ofInt_eq_wholeFloat fits, signOf]
  by_cases negative : n < 0
  · simp [Literal.signedFloat, negative, neg_wholeFloat fits]
  · simp [Literal.signedFloat, negative]

/-- Digits without a fraction or an exponent are read as the integer that they write. -/
theorem finishNumber_natAbs {n : Int} (fits : n.natAbs < 2 ^ 53) (rest : List Char) :
    Literal.finishNumber (decide (n < 0)) n.natAbs 0 rest = .ok (Float.ofInt n, rest) := by
  simp only [Literal.finishNumber, scale?_toFloat fits, signedFloat_wholeFloat fits]

end Calculator.Decimal
