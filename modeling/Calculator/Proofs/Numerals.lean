import Calculator.Proofs.LexemeTexts

/-!
# Numerals at the start of a text

Where a text begins with a digit, or with a point and a digit, a numeral is read from it.  What is
read is one of the numerals of the grammar, and no longer part of the text is one.  In particular
the letter of an exponent stays unread if no digits follow it.  Read on its own the numeral has the
same value.
-/

namespace Calculator

/-- The text begins with a digit, or with a point and a digit. -/
def StartsNumeral : List Char → Prop
  | c :: rest => c.isDigit = true ∨ c = '.' ∧ rest.head?.any Char.isDigit = true
  | [] => False

instance (chars : List Char) : Decidable (StartsNumeral chars) :=
  match chars with
  | c :: rest =>
    inferInstanceAs (Decidable (c.isDigit = true ∨ c = '.' ∧ rest.head?.any Char.isDigit = true))
  | [] => inferInstanceAs (Decidable False)

/-- The text starts with a numeral and goes on with the rest.  No longer part of the text is a
numeral, and the letter of an exponent is left where no exponent begins with it. -/
structure LongestNumeral (text : List Char) (number : NumberText) (rest : List Char) : Prop where
  isText : text = number.chars ++ rest
  longest : ∀ other : NumberText, other.chars <+: text → other.chars.length ≤ number.chars.length
  letterLeft : ∀ (other : NumberText) (letter : Char) (later : List Char),
    letter = 'e' ∨ letter = 'E' → text = other.chars ++ letter :: later →
      (¬∃ scale : Scale, scale.chars <+: letter :: later) →
        number.chars = other.chars ∧ rest = letter :: later

variable {chars rest tail : List Char}

namespace Decimal

variable {exponent : Int}

/-- What is read after the letter of an exponent is a sign with digits. -/
theorem exists_scale_of_readExponent? {letter : Char} (isLetter : letter = 'e' ∨ letter = 'E')
    (read : readExponent? chars = some (exponent, rest)) :
    ∃ scale : Scale, letter :: chars = scale.chars ++ rest ∧ scale.value = exponent := by
  unfold readExponent? at read
  split at read
  · next isMinus =>
    obtain ⟨⟨digits, rest⟩, digitsRead, ⟨⟩⟩ := Option.map_eq_some_iff.mp read
    obtain ⟨later, rfl⟩ := List.head?_eq_some_iff.mp isMinus
    obtain ⟨split, nonempty, areDigits, -⟩ := digits_of_readDigits? digitsRead
    refine ⟨⟨letter, ['-'], digits, isLetter, by simp, areDigits, nonempty⟩, ?_, rfl⟩
    rw [List.tail_cons] at split
    simp [Scale.chars, split]
  · split at read
    · next isPlus =>
      obtain ⟨⟨digits, rest⟩, digitsRead, ⟨⟩⟩ := Option.map_eq_some_iff.mp read
      obtain ⟨later, rfl⟩ := List.head?_eq_some_iff.mp isPlus
      obtain ⟨split, nonempty, areDigits, -⟩ := digits_of_readDigits? digitsRead
      refine ⟨⟨letter, ['+'], digits, isLetter, by simp, areDigits, nonempty⟩, ?_, rfl⟩
      rw [List.tail_cons] at split
      simp [Scale.chars, split]
    · obtain ⟨⟨digits, rest⟩, digitsRead, ⟨⟩⟩ := Option.map_eq_some_iff.mp read
      obtain ⟨split, nonempty, areDigits, -⟩ := digits_of_readDigits? digitsRead
      refine ⟨⟨letter, [], digits, isLetter, by simp, areDigits, nonempty⟩, ?_, rfl⟩
      simp [Scale.chars, split]

theorem exists_scale_of_readScale (chars : List Char) :
    ∃ scale : Option Scale, chars = scale.elim [] Scale.chars ++ (readScale chars).2 ∧
      (readScale chars).1 = (scale.map Scale.value).getD 0 := by
  unfold readScale
  split
  · next letter later =>
    split
    · next isLetter =>
      cases read : readExponent? later with
      | none => exact ⟨none, rfl, rfl⟩
      | some result =>
          obtain ⟨scale, split, isValue⟩ := exists_scale_of_readExponent? isLetter read
          exact ⟨some scale, split, isValue.symm⟩
    · exact ⟨none, rfl, rfl⟩
  · exact ⟨none, rfl, rfl⟩

theorem exists_fraction_of_readFraction (chars : List Char) :
    ∃ fraction : Option (List Char),
      chars = fraction.elim [] ('.' :: ·) ++ (readFraction chars).2 ∧
        (readFraction chars).1 = fraction.getD [] ∧
          ∀ digits ∈ fraction, ∀ c ∈ digits, c.isDigit = true := by
  unfold readFraction
  split
  · next c later =>
    split
    · next isPoint =>
      refine ⟨some (later.takeWhile Char.isDigit), ?_, rfl, ?_⟩
      · simp [isPoint]
      · rintro _ ⟨⟩ c member
        exact List.mem_takeWhile_imp member
    · exact ⟨none, rfl, rfl, nofun⟩
  · exact ⟨none, rfl, rfl, nofun⟩

/-- What is read as a numeral is one of the grammar. -/
theorem exists_numberText_of_scan? {numeral : Numeral}
    (scanned : Numeral.scan? chars = some (numeral, rest)) :
    ∃ text : NumberText, chars = text.chars ++ rest ∧ text.numeral = numeral := by
  obtain ⟨fraction, fractionSplit, isFraction, fractionDigits⟩ :=
    exists_fraction_of_readFraction (chars.dropWhile Char.isDigit)
  obtain ⟨scale, scaleSplit, isScale⟩ :=
    exists_scale_of_readScale (readFraction (chars.dropWhile Char.isDigit)).2
  unfold Numeral.scan? at scanned
  dsimp only at scanned
  split at scanned
  · cases scanned
  · next filled =>
    cases scanned
    have nonempty : chars.takeWhile Char.isDigit ≠ [] ∨ fraction.getD [] ≠ [] := by
      rw [← isFraction]
      by_cases noWhole : chars.takeWhile Char.isDigit = []
      · simpa [noWhole] using filled
      · exact Or.inl noWhole
    refine ⟨⟨chars.takeWhile Char.isDigit, fraction, scale,
      fun c member => List.mem_takeWhile_imp member, fractionDigits, nonempty⟩, ?_, ?_⟩
    · have isChars : chars = chars.takeWhile Char.isDigit ++ chars.dropWhile Char.isDigit :=
        List.takeWhile_append_dropWhile.symm
      rw [fractionSplit, scaleSplit] at isChars
      cases fraction <;> cases scale <;>
        simpa [NumberText.chars, NumberText.fractionChars, NumberText.scaleChars] using isChars
    · simp [NumberText.numeral, isFraction, isScale]

/-- Exactly where a text begins like a numeral, one is read. -/
theorem scan?_isSome_iff : (Numeral.scan? chars).isSome = true ↔ StartsNumeral chars := by
  cases chars with
  | nil => simp [StartsNumeral, Numeral.scan?, readFraction]
  | cons c later =>
      by_cases digit : c.isDigit = true
      · simp [StartsNumeral, Numeral.scan?, digit]
      · by_cases isPoint : c = '.'
        · subst isPoint
          cases later with
          | nil => simp [StartsNumeral, Numeral.scan?, readFraction]
          | cons next later =>
              cases nextDigit : next.isDigit <;>
                simp [StartsNumeral, Numeral.scan?, readFraction, nextDigit]
        · simp [StartsNumeral, Numeral.scan?, readFraction, digit, isPoint]

/-- After the exponent of a numeral at least the digits are read that it has. -/
theorem exists_readExponent?_eq (scale : Scale) (tail : List Char) :
    ∃ exponent, readExponent? (scale.sign ++ (scale.digits ++ tail)) =
      some (exponent, tail.dropWhile Char.isDigit) := by
  have areDigits : ∀ c ∈ scale.digits ++ tail.takeWhile Char.isDigit, c.isDigit = true := by
    intro c member
    rcases List.mem_append.mp member with early | late
    · exact scale.areDigits c early
    · exact List.mem_takeWhile_imp late
  have longer := readExponent?_of_scale
    { scale with
      digits := scale.digits ++ tail.takeWhile Char.isDigit
      areDigits
      nonempty := List.append_ne_nil_of_left_ne_nil scale.nonempty _ }
    (stops_dropWhile Char.isDigit tail)
  rw [List.append_assoc, List.takeWhile_append_dropWhile] at longer
  exact ⟨_, longer⟩

/-- At least the exponent of a numeral is read where the numeral has one. -/
theorem readScale_dropWhile_shorter (text : NumberText) (tail : List Char) :
    (readScale ((text.scaleChars ++ tail).dropWhile Char.isDigit)).2.length ≤ tail.length := by
  have digitsShorter := length_dropWhile_le Char.isDigit tail
  unfold NumberText.scaleChars
  cases text.scale with
  | none => exact Nat.le_trans (readScale_shorter _) digitsShorter
  | some scale =>
      obtain ⟨exponent, exponentRead⟩ := exists_readExponent?_eq scale tail
      simp only [Scale.chars, List.cons_append, List.append_assoc, List.dropWhile_cons,
        scale.letter_ne.1, Bool.false_eq_true, if_false, readScale, if_pos scale.isLetter,
        exponentRead]
      exact digitsShorter

/-- At least the fraction of a numeral is read where the numeral has one. -/
theorem readFraction_dropWhile_shorter (text : NumberText) (tail : List Char) :
    (readScale (readFraction ((text.fractionChars ++ (text.scaleChars ++ tail)).dropWhile
      Char.isDigit)).2).2.length ≤ tail.length := by
  have scaled := readScale_dropWhile_shorter text tail
  unfold NumberText.fractionChars
  cases hasFraction : text.fraction with
  | some digits =>
      have areDigits := text.fractionDigits digits hasFraction
      have noDigit : Char.isDigit '.' = false := rfl
      simp only [List.cons_append, List.dropWhile_cons, noDigit, Bool.false_eq_true, if_false,
        readFraction, if_true, List.dropWhile_append_of_pos areDigits]
      exact scaled
  | none =>
      rw [List.nil_append]
      unfold NumberText.scaleChars at scaled ⊢
      cases hasScale : text.scale with
      | none =>
          -- What follows may be a point after all, which only makes the numeral longer.
          rw [List.nil_append]
          have digitsShorter := length_dropWhile_le Char.isDigit tail
          have fractionShorter := readFraction_shorter (tail.dropWhile Char.isDigit)
          have scaleShorter := readScale_shorter (readFraction (tail.dropWhile Char.isDigit)).2
          omega
      | some scale =>
          simp only [hasScale, Scale.chars, List.cons_append, List.dropWhile_cons,
            scale.letter_ne.1, Bool.false_eq_true, if_false, readFraction,
            if_neg scale.letter_ne.2] at scaled ⊢
          exact scaled

/-- No numeral at the start of a text is longer than the one that is read. -/
theorem scan?_longest {numeral : Numeral} (text : NumberText)
    (scanned : Numeral.scan? (text.chars ++ tail) = some (numeral, rest)) :
    rest.length ≤ tail.length := by
  have shorter := readFraction_dropWhile_shorter text tail
  unfold Numeral.scan? at scanned
  dsimp only at scanned
  split at scanned
  · cases scanned
  · cases scanned
    rwa [NumberText.chars, List.append_assoc, List.append_assoc,
      List.dropWhile_append_of_pos text.wholeDigits]

/-- The letter of an exponent stays unread if no exponent begins with it. -/
theorem scan?_of_letter {letter : Char} {later : List Char} (text : NumberText)
    (isLetter : letter = 'e' ∨ letter = 'E')
    (unscaled : ¬∃ scale : Scale, scale.chars <+: letter :: later) :
    Numeral.scan? (text.chars ++ letter :: later) = some (text.numeral, letter :: later) := by
  have unread : readExponent? later = none := by
    cases read : readExponent? later with
    | none => rfl
    | some result =>
        obtain ⟨scale, split, -⟩ := exists_scale_of_readExponent? isLetter read
        exact absurd ⟨scale, result.2, split.symm⟩ unscaled
  apply scan?_of_stop text
  · rintro c ⟨⟩
    rcases isLetter with rfl | rfl <;> decide
  · intro _
    rw [readScale, if_pos isLetter, unread]
    rfl

theorem toLower_of_isDigit {c : Char} (digit : c.isDigit = true) : c.toLower = c := by
  simp only [Char.isDigit, Bool.and_eq_true, decide_eq_true_eq, UInt32.le_iff_toNat_le] at digit
  have high : '9'.val.toNat = 57 ∧ 'A'.val.toNat = 65 := ⟨rfl, rfl⟩
  have notUpper : ¬(c.val ≥ 'A'.val ∧ c.val ≤ 'Z'.val) := by
    rintro ⟨above, -⟩
    have aboveNat := UInt32.le_iff_toNat_le.mp above
    omega
  exact dif_neg notUpper

/-- Read on its own a numeral has the same value. -/
theorem number?_numberText (text : NumberText) :
    number? text.chars = some text.numeral.value := by
  have scanned : Numeral.scan? (text.chars ++ []) = some (text.numeral, []) :=
    scan?_numberText text nofun
  rw [List.append_nil] at scanned
  obtain ⟨c, later, isChars, starts⟩ := text.exists_chars_eq_cons
  rw [isChars] at scanned ⊢
  have notMinus : c ≠ '-' := by
    rintro rfl
    rcases starts with isDigit | isPoint <;> contradiction
  have notPlus : c ≠ '+' := by
    rintro rfl
    rcases starts with isDigit | isPoint <;> contradiction
  have sameLower : c.toLower = c := by
    rcases starts with digit | rfl
    · exact toLower_of_isDigit digit
    · rfl
  have noWord : c ≠ 'i' ∧ c ≠ 'n' := by
    constructor <;>
      (rintro rfl
       rcases starts with isDigit | isPoint <;> contradiction)
  have unsigned : unsignedNumber? (c :: later) = some text.numeral.value := by
    simp [unsignedNumber?, sameLower, noWord, scanned]
  unfold number?
  split
  · next isMinus => exact absurd (List.cons.inj isMinus).1 notMinus
  · next isPlus => exact absurd (List.cons.inj isPlus).1 notPlus
  · exact unsigned

/-- Where a text begins like a numeral, the longest one that it begins with is read. -/
theorem exists_longestNumeral (starts : StartsNumeral chars) :
    ∃ number rest, LongestNumeral chars number rest ∧
      Numeral.scan? chars = some (number.numeral, rest) := by
  obtain ⟨⟨numeral, rest⟩, scanned⟩ := Option.isSome_iff_exists.mp (scan?_isSome_iff.mpr starts)
  obtain ⟨number, isChars, rfl⟩ := exists_numberText_of_scan? scanned
  refine ⟨number, rest, ⟨isChars, ?_, ?_⟩, scanned⟩
  · rintro other ⟨tail, isOther⟩
    rw [← isOther] at scanned
    have shorter := scan?_longest other scanned
    have lengths := congrArg List.length (isChars.symm.trans isOther.symm)
    rw [List.length_append, List.length_append] at lengths
    omega
  · intro other letter later isLetter isOther unscaled
    rw [isOther, scan?_of_letter other isLetter unscaled] at scanned
    obtain ⟨-, isRest⟩ := Prod.mk.inj (Option.some.inj scanned)
    rw [isOther, ← isRest] at isChars
    exact ⟨(List.append_cancel_right isChars).symm, isRest.symm⟩

end Decimal

end Calculator
