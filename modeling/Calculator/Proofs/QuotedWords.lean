import Calculator.InitFile
import Calculator.Proofs.StringLiterals

/-!
# Words of a setting

The words after `/set` are cut at blanks, except at those between quotation marks.  Every text has
exactly one list of words, also where a quotation mark has no partner.  Every nonempty word can be
written between quotation marks, with a backslash before each quotation mark and each backslash of
the word, and a word without blanks, quotation marks and backslashes can be written as it is.  The
main statement is that words which are written in either way, with blanks between them, are read
back as they are.
-/

namespace Calculator

namespace InitFile

/-- A text between quotation marks says characters: a backslash is left out, and the character after
it stands for itself. -/
inductive SpellsInside : List Char → List Char → Prop
  | nil : SpellsInside [] []
  | plain {c : Char} {chars text : List Char} (noMark : c ≠ '"') (noBackslash : c ≠ '\\')
      (later : SpellsInside chars text) : SpellsInside (c :: chars) (c :: text)
  | escaped (c : Char) {chars text : List Char} (later : SpellsInside chars text) :
      SpellsInside (c :: chars) ('\\' :: c :: text)

/-- A text says parts, which end at its blanks outside of quotation marks and may be empty.  Where
the last quotation mark has no partner, a backslash at the end says nothing. -/
inductive SpellsParts : List (List Char) → List Char → Prop
  | nil : SpellsParts [[]] []
  | blank {c : Char} {parts : List (List Char)} {text : List Char}
      (isBlank : Text.isAsciiBlank c = true) (later : SpellsParts parts text) :
      SpellsParts ([] :: parts) (c :: text)
  | bare {c : Char} {part : List Char} {parts : List (List Char)} {text : List Char}
      (noMark : c ≠ '"') (notBlank : Text.isAsciiBlank c = false)
      (later : SpellsParts (part :: parts) text) : SpellsParts ((c :: part) :: parts) (c :: text)
  | quoted {inside insideText part : List Char} {parts : List (List Char)} {text : List Char}
      (spells : SpellsInside inside insideText) (later : SpellsParts (part :: parts) text) :
      SpellsParts ((inside ++ part) :: parts) ('"' :: (insideText ++ '"' :: text))
  | unclosed {inside insideText lost : List Char} (spells : SpellsInside inside insideText)
      (isLost : lost = [] ∨ lost = ['\\']) : SpellsParts [inside] ('"' :: (insideText ++ lost))

/-- The parts that are not empty, as words. -/
def filledParts (parts : List (List Char)) : List String :=
  (parts.filter (!·.isEmpty)).map String.ofList

/-- A text has words: they are what its parts say, without empty parts. -/
def HasWords (words : List String) (text : List Char) : Prop :=
  ∃ parts, SpellsParts parts text ∧ filledParts parts = words

/-- Decide whether a character stands for itself outside quotation marks. -/
def isBare (c : Char) : Bool :=
  !Text.isAsciiBlank c && c != '"' && c != '\\'

/-- A text spells a word: it is the word between quotation marks, or the word itself. -/
inductive SpellsWord (word : String) : List Char → Prop
  | quoted : SpellsWord word (Text.stringLiteral '"' word).toList
  | bare (plain : ∀ c ∈ word.toList, isBare c = true) : SpellsWord word word.toList

/-- Characters that separate words. -/
structure IsGap (gap : List Char) : Prop where
  filled : gap ≠ []
  areBlank : ∀ c ∈ gap, Text.isAsciiBlank c = true

/-- A text spells nonempty words, one after another, with blanks between them. -/
inductive SpellsWords : List String → List Char → Prop
  | nil : SpellsWords [] []
  | single {word : String} {text : List Char} (filled : word ≠ "")
      (spells : SpellsWord word text) : SpellsWords [word] text
  | cons {word next : String} {words : List String} {text gap later : List Char}
      (filled : word ≠ "") (spells : SpellsWord word text) (isGap : IsGap gap)
      (laterSpell : SpellsWords (next :: words) later) :
      SpellsWords (word :: next :: words) (text ++ gap ++ later)

variable {c : Char} {begun rest text chars part : List Char} {parts : List (List Char)}
  {word : String} {words : List String}

theorem filledParts_append (first second : List (List Char)) :
    filledParts (first ++ second) = filledParts first ++ filledParts second := by
  simp [filledParts]

/-! ## What is read -/

theorem wordsFrom_mark (inQuotes : Bool) (begun rest : List Char) :
    wordsFrom inQuotes begun ('"' :: rest) = wordsFrom (!inQuotes) begun rest :=
  (wordsFrom.eq_def _ _ _).trans (if_pos rfl)

theorem wordsFrom_escaped (c : Char) (begun rest : List Char) :
    wordsFrom true begun ('\\' :: c :: rest) = wordsFrom true (c :: begun) rest := by
  simp [wordsFrom]

theorem wordsFrom_quoted (noMark : c ≠ '"') (noBackslash : c ≠ '\\') (begun rest : List Char) :
    wordsFrom true begun (c :: rest) = wordsFrom true (c :: begun) rest := by
  rw [wordsFrom.eq_def]
  simp [noMark, noBackslash]

theorem wordsFrom_bare (noMark : c ≠ '"') (notBlank : Text.isAsciiBlank c = false)
    (begun rest : List Char) :
    wordsFrom false begun (c :: rest) = wordsFrom false (c :: begun) rest := by
  rw [wordsFrom.eq_def]
  simp [noMark, notBlank]

theorem wordsFrom_blank (blank : Text.isAsciiBlank c = true) (begun rest : List Char) :
    wordsFrom false begun (c :: rest) = addWord begun (wordsFrom false [] rest) := by
  have noMark : c ≠ '"' := by
    rintro rfl
    cases blank
  rw [wordsFrom.eq_def]
  simp [noMark, blank]

theorem addWord_filledParts (begun : List Char) (parts : List (List Char)) :
    addWord begun (filledParts parts) = filledParts (begun.reverse :: parts) := by
  cases begun <;> simp [addWord, filledParts]

theorem modifyHead_nothing (parts : List (List Char)) :
    parts.modifyHead (([] : List Char).reverse ++ ·) = parts := by
  cases parts <;> rfl

/-- After a text between quotation marks, what it says has been begun. -/
theorem SpellsInside.wordsFrom_append (spells : SpellsInside chars text)
    (begun rest : List Char) :
    wordsFrom true begun (text ++ rest) = wordsFrom true (chars.reverse ++ begun) rest := by
  induction spells generalizing begun with
  | nil => rfl
  | plain noMark noBackslash later ih =>
      rw [List.cons_append, wordsFrom_quoted noMark noBackslash, ih, List.reverse_cons,
        List.append_assoc]
      rfl
  | escaped c later ih =>
      rw [List.cons_append, List.cons_append, wordsFrom_escaped, ih, List.reverse_cons,
        List.append_assoc]
      rfl

/-- What has been begun belongs to the first part that the rest of a text says. -/
theorem SpellsParts.wordsFrom_eq (spells : SpellsParts parts text) (begun : List Char) :
    wordsFrom false begun text = filledParts (parts.modifyHead (begun.reverse ++ ·)) := by
  -- What has been begun stays free: characters and quoted texts add to it, and only a blank ends it.
  induction spells generalizing begun with
  | nil =>
      rw [List.modifyHead_cons, List.append_nil, ← addWord_filledParts]
      rfl
  | blank isBlank later ih =>
      rw [wordsFrom_blank isBlank, ih, modifyHead_nothing, addWord_filledParts,
        List.modifyHead_cons, List.append_nil]
  | bare noMark notBlank later ih =>
      rw [wordsFrom_bare noMark notBlank, ih, List.modifyHead_cons, List.modifyHead_cons,
        List.reverse_cons, List.append_assoc]
      rfl
  | quoted spells later ih =>
      rw [wordsFrom_mark, Bool.not_false, spells.wordsFrom_append, wordsFrom_mark, Bool.not_true,
        ih, List.modifyHead_cons, List.modifyHead_cons, List.reverse_append, List.reverse_reverse,
        List.append_assoc]
  | @unclosed inside insideText lost spells isLost =>
      have ended : wordsFrom true (inside.reverse ++ begun) lost =
          addWord (inside.reverse ++ begun) (filledParts []) := by
        rcases isLost with rfl | rfl
        · rfl
        · rfl
      rw [wordsFrom_mark, Bool.not_false, spells.wordsFrom_append, ended, addWord_filledParts,
        List.modifyHead_cons, List.reverse_append, List.reverse_reverse]

theorem SpellsParts.wordsOf_eq (spells : SpellsParts parts text) :
    wordsOf text = filledParts parts := by
  rw [wordsOf, spells.wordsFrom_eq, modifyHead_nothing]

/-! ## Every text has words -/

/-- A text goes on between quotation marks up to a closing mark or to its end. -/
theorem exists_spellsInside (text : List Char) :
    ∃ inside insideText rest, text = insideText ++ rest ∧ SpellsInside inside insideText ∧
      ((rest = [] ∨ rest = ['\\']) ∨ ∃ later, rest = '"' :: later) := by
  match text with
  | [] => exact ⟨[], [], [], rfl, .nil, Or.inl (Or.inl rfl)⟩
  | c :: rest =>
      by_cases isMark : c = '"'
      · exact ⟨[], [], c :: rest, rfl, .nil, Or.inr ⟨rest, by rw [isMark]⟩⟩
      by_cases isBackslash : c = '\\'
      · subst isBackslash
        match rest with
        | [] => exact ⟨[], [], ['\\'], rfl, .nil, Or.inl (Or.inr rfl)⟩
        | escaped :: later =>
            obtain ⟨inside, insideText, rest, rfl, spells, ends⟩ := exists_spellsInside later
            exact ⟨escaped :: inside, '\\' :: escaped :: insideText, rest, rfl,
              .escaped escaped spells, ends⟩
      · obtain ⟨inside, insideText, rest, rfl, spells, ends⟩ := exists_spellsInside rest
        exact ⟨c :: inside, c :: insideText, rest, rfl, .plain isMark isBackslash spells, ends⟩
termination_by text.length

theorem exists_spellsParts (text : List Char) : ∃ part parts, SpellsParts (part :: parts) text := by
  match text with
  | [] => exact ⟨[], [], .nil⟩
  | c :: rest =>
      by_cases isMark : c = '"'
      · subst isMark
        obtain ⟨inside, insideText, ending, isText, spells, ends⟩ := exists_spellsInside rest
        rcases ends with isLost | ⟨later, rfl⟩
        · exact ⟨inside, [], by rw [isText]; exact .unclosed spells isLost⟩
        · have shorter : later.length < rest.length + 1 := by
            rw [isText, List.length_append, List.length_cons]
            omega
          obtain ⟨part, parts, laterSpells⟩ := exists_spellsParts later
          exact ⟨inside ++ part, parts, by rw [isText]; exact .quoted spells laterSpells⟩
      · obtain ⟨part, parts, laterSpells⟩ := exists_spellsParts rest
        cases isBlank : Text.isAsciiBlank c with
        | true => exact ⟨[], part :: parts, .blank isBlank laterSpells⟩
        | false => exact ⟨c :: part, parts, .bare isMark isBlank laterSpells⟩
termination_by text.length

/-- The words that are read are those that the text has. -/
theorem wordsOf_eq_iff : wordsOf text = words ↔ HasWords words text := by
  constructor
  · rintro rfl
    obtain ⟨part, parts, spells⟩ := exists_spellsParts text
    exact ⟨part :: parts, spells, spells.wordsOf_eq.symm⟩
  · rintro ⟨parts, spells, isWords⟩
    exact spells.wordsOf_eq.trans isWords

/-! ## Words that are written -/

theorem spellsInside_escapeFor (chars : List Char) :
    SpellsInside chars (chars.flatMap (Text.escapeFor '"')) := by
  induction chars with
  | nil => exact .nil
  | cons c chars ih =>
      rw [List.flatMap_cons]
      by_cases isMark : c = '\\' ∨ c = '"'
      · rw [Text.escapeFor, if_pos isMark]
        exact .escaped c ih
      · rw [Text.escapeFor, if_neg isMark]
        exact .plain (mt Or.inr isMark) (mt Or.inl isMark) ih

theorem SpellsParts.bare_append (plain : ∀ c ∈ chars, isBare c = true)
    (later : SpellsParts (part :: parts) rest) :
    SpellsParts ((chars ++ part) :: parts) (chars ++ rest) := by
  induction chars with
  | nil => exact later
  | cons c chars ih =>
      rw [List.forall_mem_cons] at plain
      have isBareChar := plain.1
      simp only [isBare, Bool.and_eq_true, Bool.not_eq_true', bne_iff_ne] at isBareChar
      exact .bare isBareChar.1.2 isBareChar.1.1 (ih plain.2)

/-- The text of a word says the beginning of a part. -/
theorem SpellsWord.append (spells : SpellsWord word text)
    (later : SpellsParts (part :: parts) rest) :
    SpellsParts ((word.toList ++ part) :: parts) (text ++ rest) := by
  cases spells with
  | bare plain => exact .bare_append plain later
  | quoted =>
      have isText : (Text.stringLiteral '"' word).toList ++ rest =
          '"' :: (word.toList.flatMap (Text.escapeFor '"') ++ '"' :: rest) := by
        simp [Text.stringLiteral]
      rw [isText]
      exact .quoted (spellsInside_escapeFor word.toList) later

/-- Blanks say empty parts, which are no words. -/
theorem SpellsParts.blanks_append {blanks : List Char}
    (areBlank : ∀ c ∈ blanks, Text.isAsciiBlank c = true) (later : SpellsParts parts rest) :
    ∃ empty, SpellsParts (empty ++ parts) (blanks ++ rest) ∧ filledParts empty = [] := by
  induction blanks with
  | nil => exact ⟨[], later, rfl⟩
  | cons c blanks ih =>
      rw [List.forall_mem_cons] at areBlank
      obtain ⟨empty, spells, noWords⟩ := ih areBlank.2
      exact ⟨[] :: empty, .blank areBlank.1 spells, noWords⟩

theorem IsGap.append {gap : List Char} (isGap : IsGap gap) (later : SpellsParts parts rest) :
    ∃ empty, SpellsParts ([] :: (empty ++ parts)) (gap ++ rest) ∧ filledParts empty = [] := by
  obtain ⟨filled, areBlank⟩ := isGap
  cases gap with
  | nil => exact absurd rfl filled
  | cons c blanks =>
      rw [List.forall_mem_cons] at areBlank
      obtain ⟨empty, spells, noWords⟩ := SpellsParts.blanks_append areBlank.2 later
      exact ⟨empty, .blank areBlank.1 spells, noWords⟩

theorem filledParts_cons_word (filled : word ≠ "") (parts : List (List Char)) :
    filledParts ((word.toList ++ []) :: parts) = word :: filledParts parts := by
  simp [filledParts, filled]

/-- A text that spells words has them. -/
theorem SpellsWords.hasWords (spell : SpellsWords words text) : HasWords words text := by
  induction spell with
  | nil => exact ⟨[[]], .nil, rfl⟩
  | @single word text filled spells =>
      have spelled := spells.append .nil
      rw [List.append_nil text] at spelled
      exact ⟨_, spelled, filledParts_cons_word filled []⟩
  | cons filled spells isGap laterSpell ih =>
      obtain ⟨parts, later, isWords⟩ := ih
      obtain ⟨empty, gapped, noWords⟩ := isGap.append later
      rw [List.append_assoc]
      refine ⟨_, spells.append gapped, ?_⟩
      rw [filledParts_cons_word filled, filledParts_append, noWords, isWords, List.nil_append]

/-- Words are read back from their text, whichever of them are quoted. -/
theorem wordsOf_of_spellsWords {words : List String} (spell : SpellsWords words text) :
    wordsOf text = words :=
  wordsOf_eq_iff.mpr spell.hasWords

/-- A quoted word with blanks, marks and a backslash at its end, a bare word after two blanks, and a
quoted word of quotation marks. -/
theorem wordsOf_of_spellsWords_marked :
    let words : List String := ["on \"please\" \\", "4242", "\"\""]
    let text : List Char := "\"on \\\"please\\\" \\\\\" \t4242\n\"\\\"\\\"\"".toList
    SpellsWords words text ∧ wordsOf text = words := by
  intro words text
  have spell : SpellsWords words text := by
    have bare : SpellsWord "4242" "4242".toList := .bare (List.all_eq_true.mp (by decide))
    have isText : text = (Text.stringLiteral '"' "on \"please\" \\").toList ++ [' ', '\t'] ++
        ("4242".toList ++ ['\n'] ++ (Text.stringLiteral '"' "\"\"").toList) := by decide
    rw [isText]
    have firstGap : IsGap [' ', '\t'] := ⟨by decide, List.all_eq_true.mp (by decide)⟩
    have secondGap : IsGap ['\n'] := ⟨by decide, List.all_eq_true.mp (by decide)⟩
    exact .cons (by decide) .quoted firstGap
      (.cons (by decide) bare secondGap (.single (by decide) .quoted))
  exact ⟨spell, wordsOf_of_spellsWords spell⟩

end InitFile

end Calculator
