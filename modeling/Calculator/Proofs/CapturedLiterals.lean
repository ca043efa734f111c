import Calculator.Proofs.StringLiterals
import Mathlib

/-!
# Literals between brackets

The lexer cuts an array or object literal off by its brackets alone.  It skips what stands in
quotation marks of either kind, lets brackets of both kinds match each other, and looks at nothing
else.  When the program runs, the text that was cut off is read as a value by rules that know
nothing of this.  The main statement is that both agree on where a literal ends: a text that can be
read as an array or an object is one lexeme, and gives its value when it is evaluated as a line.
-/

namespace Calculator

/-- A character that is neither a quotation mark nor a bracket. -/
def IsOrdinary (c : Char) : Prop :=
  ¬IsQuote c ∧ ¬IsOpening c ∧ ¬IsClosing c

instance : DecidablePred IsOrdinary := fun c =>
  inferInstanceAs (Decidable (¬(c = '"' ∨ c = '\x27') ∧ ¬(c = '[' ∨ c = '\x7b') ∧
    ¬(c = ']' ∨ c = '\x7d')))

/-- A test that no quotation mark and no bracket passes. -/
def RejectsMarks (test : Char → Bool) : Prop :=
  ['"', '\x27', '[', '\x7b', ']', '\x7d'].any test = false

theorem isOrdinary_of_test {test : Char → Bool} {c : Char} (holds : test c = true)
    (rejects : RejectsMarks test) : IsOrdinary c := by
  have differs (mark : Char) (member : mark ∈ ['"', '\x27', '[', '\x7b', ']', '\x7d']) :
      c ≠ mark := by
    rintro rfl
    exact List.any_eq_false.mp rejects c member holds
  refine ⟨?_, ?_, ?_⟩
  all_goals
    rintro (rfl | rfl)
    all_goals exact differs _ (by decide) rfl

theorem isOrdinary_of_isDigit {c : Char} (digit : c.isDigit = true) : IsOrdinary c :=
  isOrdinary_of_test digit rfl

theorem isOrdinary_of_isSeparatorBlank {c : Char} (blank : Literal.isSeparatorBlank c = true) :
    IsOrdinary c :=
  isOrdinary_of_test blank rfl

theorem Balanced.append {first second : List Char} (before : Balanced first)
    (after : Balanced second) : Balanced (first ++ second) := by
  induction before with
  | nil => exact after
  | plain ordinary _ ih => exact .plain ordinary ih
  | quoted isQuote fits _ ih =>
      rw [List.cons_append, List.append_assoc, List.cons_append]
      exact .quoted isQuote fits ih
  | nested opens closes within _ _ ih =>
      rw [List.cons_append, List.append_assoc, List.cons_append]
      exact .nested opens closes within ih

namespace Literal

variable {chars middle rest after : List Char} {c : Char}

/-- A text begins with a text in which brackets match, after which another text is left. -/
def TakesBalanced (chars rest : List Char) : Prop :=
  ∃ taken, Balanced taken ∧ chars = taken ++ rest

namespace TakesBalanced

theorem refl (chars : List Char) : TakesBalanced chars chars :=
  ⟨[], .nil, rfl⟩

theorem trans (first : TakesBalanced chars middle) (second : TakesBalanced middle rest) :
    TakesBalanced chars rest := by
  obtain ⟨taken, balanced, rfl⟩ := first
  obtain ⟨later, laterBalanced, rfl⟩ := second
  exact ⟨taken ++ later, balanced.append laterBalanced, (List.append_assoc _ _ _).symm⟩

theorem cons (ordinary : IsOrdinary c) (later : TakesBalanced rest after) :
    TakesBalanced (c :: rest) after :=
  trans ⟨[c], .plain ordinary .nil, rfl⟩ later

theorem of_forall {taken : List Char} (ordinary : ∀ c ∈ taken, IsOrdinary c)
    (rest : List Char) : TakesBalanced (taken ++ rest) rest := by
  induction taken with
  | nil => exact refl rest
  | cons c later ih =>
      rw [List.forall_mem_cons] at ordinary
      exact cons ordinary.1 (ih ordinary.2)

theorem dropWhile {test : Char → Bool} (ordinary : ∀ c, test c = true → IsOrdinary c)
    (chars : List Char) : TakesBalanced chars (chars.dropWhile test) := by
  have taken : TakesBalanced (chars.takeWhile test ++ chars.dropWhile test)
      (chars.dropWhile test) :=
    of_forall (fun c member => ordinary c (List.mem_takeWhile_imp member)) _
  rwa [List.takeWhile_append_dropWhile] at taken

/-- A text in brackets is balanced when what is inside is. -/
theorem enclosed {opening closing : Char} (opens : IsOpening opening) (closes : IsClosing closing)
    (inside : TakesBalanced rest (closing :: after)) : TakesBalanced (opening :: rest) after := by
  obtain ⟨taken, balanced, rfl⟩ := inside
  refine ⟨opening :: (taken ++ [closing]), .nested opens closes balanced .nil, ?_⟩
  rw [List.cons_append, List.append_assoc, List.singleton_append]

end TakesBalanced

theorem skip_takesBalanced (chars : List Char) : TakesBalanced chars (skip chars) :=
  .dropWhile (fun _ => isOrdinary_of_isSeparatorBlank) chars

section Numbers

variable {bound value : Nat} {negative : Bool} {significand : Nat} {exponent : Int} {x : Float}

theorem gather_takesBalanced (bound value : Nat) (chars : List Char) :
    TakesBalanced chars (gather bound value chars).2 := by
  induction chars generalizing value with
  | nil => exact .refl []
  | cons c later ih =>
      rw [gather]
      split
      · next fits =>
        exact .cons (isOrdinary_of_isDigit (Bool.and_eq_true_iff.mp fits).1) (ih _)
      · exact .refl _

theorem finishNumber_eq (read : finishNumber negative significand exponent rest =
    .ok (x, after)) : after = rest := by
  unfold finishNumber at read
  split at read <;> cases read
  rfl

/-- A sign in front of digits is ordinary. -/
theorem takesBalanced_unsigned (chars : List Char) :
    TakesBalanced chars
      (if chars.head? == some '-' || chars.head? == some '+' then chars.tail else chars) := by
  cases chars with
  | nil => exact .refl []
  | cons c later =>
      refine iteInduction (fun signed => .cons ?_ (.refl later)) fun _ => .refl _
      simp only [List.head?_cons, Bool.or_eq_true, beq_iff_eq, Option.some.injEq] at signed
      rcases signed with rfl | rfl <;> decide

theorem readExponent_takesBalanced
    (read : readExponent negative significand exponent chars = .ok (x, after)) :
    TakesBalanced chars after := by
  refine (takesBalanced_unsigned chars).trans ?_
  unfold readExponent at read
  dsimp only at read
  generalize (if chars.head? == some '-' || chars.head? == some '+' then chars.tail else chars) =
    digits at read ⊢
  have gathered := gather_takesBalanced exponentBound 0 digits
  split at read
  · cases read
  · split at read
    · cases read
    · split at read
      · next next later equal =>
        rw [equal] at gathered
        refine gathered.trans ?_
        split at read
        · next isDigit =>
          split at read
          · cases read
            exact .cons (isOrdinary_of_isDigit isDigit)
              (.dropWhile (fun _ => isOrdinary_of_isDigit) later)
          · cases read
        · rw [finishNumber_eq read]
          exact .refl _
      · next equal =>
        rw [equal] at gathered
        rwa [finishNumber_eq read]

theorem readScale_takesBalanced
    (read : readScale negative significand exponent chars = .ok (x, after)) :
    TakesBalanced chars after := by
  unfold readScale at read
  split at read
  · split at read
    · next isLetter =>
      refine .cons ?_ (readExponent_takesBalanced read)
      rcases isLetter with rfl | rfl <;> decide
    · rw [finishNumber_eq read]
      exact .refl _
  · rw [finishNumber_eq read]
    exact .refl _

theorem readFraction_takesBalanced
    (read : readFraction negative significand exponent chars = .ok (x, after)) :
    TakesBalanced chars after := by
  unfold readFraction at read
  split at read
  · cases read
  · split at read
    · cases read
    · exact (gather_takesBalanced significandBound significand _).trans
        ((TakesBalanced.dropWhile (fun _ => isOrdinary_of_isDigit) _).trans
          (readScale_takesBalanced read))

theorem readTail_takesBalanced
    (read : readTail negative significand exponent chars = .ok (x, after)) :
    TakesBalanced chars after := by
  unfold readTail at read
  split at read
  · exact .cons (by decide) (readFraction_takesBalanced read)
  · exact readScale_takesBalanced read

theorem readNumber_takesBalanced (read : readNumber negative chars = .ok (x, after)) :
    TakesBalanced chars after := by
  unfold readNumber at read
  split at read
  · split at read
    · cases read
    · exact .cons (isOrdinary_of_isDigit rfl) (readTail_takesBalanced read)
  · split at read
    · exact (gather_takesBalanced significandBound 0 _).trans
        ((TakesBalanced.dropWhile (fun _ => isOrdinary_of_isDigit) _).trans
          (readTail_takesBalanced read))
    · cases read
  · cases read

end Numbers

theorem readKeyword_takesBalanced {expected : List Char} {meaning value : Value}
    (letters : expected.all Char.isAlpha = true)
    (read : readKeyword meaning expected chars = .ok (value, after)) :
    TakesBalanced chars after := by
  induction expected generalizing chars with
  | nil =>
      cases read
      exact .refl _
  | cons first later ih =>
      cases chars with
      | nil => cases read
      | cons c rest =>
          obtain ⟨isLetter, areLetters⟩ := Bool.and_eq_true_iff.mp letters
          rw [readKeyword] at read
          split at read
          · next same =>
            rw [same]
            exact .cons (isOrdinary_of_test isLetter rfl) (ih areLetters read)
          · cases read

section Strings

/-- A text begins with glyphs that may stand in double quotation marks. -/
def TakesGlyphs (chars rest : List Char) : Prop :=
  ∃ glyphs : List Glyph, (∀ glyph ∈ glyphs, glyph.FitsIn '"') ∧ chars = glyphChars glyphs ++ rest

namespace TakesGlyphs

theorem refl (chars : List Char) : TakesGlyphs chars chars :=
  ⟨[], nofun, rfl⟩

theorem cons {glyph : Glyph} (fits : glyph.FitsIn '"') (later : TakesGlyphs rest after) :
    TakesGlyphs (glyph.chars ++ rest) after := by
  obtain ⟨glyphs, laterFit, rfl⟩ := later
  refine ⟨glyph :: glyphs, List.forall_mem_cons.mpr ⟨fits, laterFit⟩, ?_⟩
  rw [glyphChars_cons, List.append_assoc]

theorem trans (first : TakesGlyphs chars middle) (second : TakesGlyphs middle rest) :
    TakesGlyphs chars rest := by
  obtain ⟨glyphs, fits, rfl⟩ := first
  obtain ⟨later, laterFit, rfl⟩ := second
  refine ⟨glyphs ++ later, List.forall_mem_append.mpr ⟨fits, laterFit⟩, ?_⟩
  rw [glyphChars, glyphChars, glyphChars, List.flatMap_append, List.append_assoc]

theorem of_hexValue? {digit : Nat} (isHex : hexValue? c = some digit)
    (later : TakesGlyphs rest after) : TakesGlyphs (c :: rest) after := by
  refine @cons _ _ (.plain c) ⟨?_, ?_⟩ later
  · rintro rfl
    cases isHex
  · rintro rfl
    cases isHex

end TakesGlyphs

theorem readHex_takesGlyphs {code : Nat} (read : readHex chars = .ok (code, after)) :
    TakesGlyphs chars after := by
  unfold readHex at read
  split at read
  · cases read
  · split at read
    · split at read
      · next first second third fourth =>
        cases read
        exact .of_hexValue? first (.of_hexValue? second (.of_hexValue? third
          (.of_hexValue? fourth (.refl _))))
      · cases read
    · cases read

theorem readLowSurrogate_takesGlyphs {high : Nat}
    (read : readLowSurrogate high chars = .ok (c, after)) : TakesGlyphs chars after := by
  unfold readLowSurrogate at read
  split at read
  · cases read
  · cases read
  · split at read
    · cases read
    · next hexRead =>
      split at read
      · simp only [Except.ok.injEq, Prod.mk.injEq] at read
        rw [← read.2]
        exact @TakesGlyphs.cons _ _ (.escaped 'u') trivial (readHex_takesGlyphs hexRead)
      · cases read
  · cases read
  · cases read

/-- An escape is a backslash with the character after it, and perhaps further characters. -/
theorem readEscape_takesGlyphs (read : readEscape chars = .ok (c, after)) :
    TakesGlyphs ('\\' :: chars) after := by
  unfold readEscape at read
  split at read
  · cases read
  · next letter later =>
    refine @TakesGlyphs.cons _ _ (.escaped letter) trivial ?_
    split at read
    · split at read
      · cases read
      · next hexRead =>
        refine (readHex_takesGlyphs hexRead).trans ?_
        split at read
        · cases read
        · split at read
          · exact readLowSurrogate_takesGlyphs read
          · cases read
            exact .refl _
    · split at read
      · cases read
        exact .refl _
      · cases read

theorem readChars_takesGlyphs {text : List Char} (read : readChars chars = .ok (text, after)) :
    TakesGlyphs chars ('"' :: after) := by
  induction chars using readChars.induct generalizing text with
  | case1 => simp [readChars] at read
  | case2 rest =>
      rw [readChars] at read
      cases read
      exact .refl _
  | case3 rest stop escape =>
      rw [readChars] at read
      split at read
      · cases read
      · next success =>
        rw [escape] at success
        cases success
  | case4 rest c remaining escape stop failed ih =>
      rw [readChars] at read
      split at read
      · cases read
      · next success =>
        rw [escape] at success
        cases success
        rw [failed] at read
        cases read
  | case5 rest c remaining escape later left laterRead ih =>
      rw [readChars] at read
      split at read
      · cases read
      · next success =>
        rw [escape] at success
        cases success
        rw [laterRead] at read
        cases read
        exact (readEscape_takesGlyphs escape).trans (ih laterRead)
  | case6 c rest noQuote noBackslash control =>
      rw [readChars.eq_4 c rest noQuote noBackslash, if_pos control] at read
      cases read
  | case7 c rest noQuote noBackslash printable stop failed ih =>
      rw [readChars.eq_4 c rest noQuote noBackslash, if_neg printable, failed] at read
      cases read
  | case8 c rest noQuote noBackslash printable later left laterRead ih =>
      rw [readChars.eq_4 c rest noQuote noBackslash, if_neg printable, laterRead] at read
      cases read
      exact @TakesGlyphs.cons _ _ (.plain c) ⟨noQuote, noBackslash⟩ (ih laterRead)

/-- A string between its quotation marks is balanced, whatever brackets it has. -/
theorem takesBalanced_of_readChars {text : List Char} (read : readChars chars = .ok (text, after)) :
    TakesBalanced ('"' :: chars) after := by
  obtain ⟨glyphs, fits, rfl⟩ := readChars_takesGlyphs read
  refine ⟨'"' :: (glyphChars glyphs ++ ['"']), .quoted (Or.inl rfl) fits .nil, ?_⟩
  rw [List.cons_append, List.append_assoc, List.singleton_append]

theorem readKey_takesBalanced {key : String} (read : readKey chars = .ok (key, after)) :
    TakesBalanced chars after := by
  unfold readKey at read
  split at read
  · split at read
    · cases read
    · next left keyRead =>
      have skipped := skip_takesBalanced left
      split at read
      · cases read
      · next isColon =>
        cases read
        rw [isColon] at skipped
        exact (takesBalanced_of_readChars keyRead).trans
          (skipped.trans (.cons (by decide) (.refl _)))
      · cases read
  · cases read
  · cases read

end Strings

section Values

variable {fuel depth : Nat} {value : Value}

/-- What a reader of values takes after blanks: an array or an object with the bracket that closes
it, or a balanced text that begins with no bracket. -/
inductive TakesValue (chars after : List Char) : Prop
  | bracketed {opening closing : Char} {rest : List Char} (starts : skip chars = opening :: rest)
      (opens : IsOpening opening) (closes : IsClosing closing)
      (inside : TakesBalanced rest (closing :: after))
  | plain {c : Char} {rest : List Char} (starts : skip chars = c :: rest)
      (noBracket : ¬IsOpening c) (balanced : TakesBalanced (c :: rest) after)

theorem TakesValue.takesBalanced (takes : TakesValue chars after) :
    TakesBalanced chars after := by
  refine (skip_takesBalanced chars).trans ?_
  cases takes with
  | bracketed starts opens closes inside =>
      rw [starts]
      exact .enclosed opens closes inside
  | plain starts noBracket balanced =>
      rw [starts]
      exact balanced

theorem TakesValue.of_isOrdinary (starts : skip chars = c :: rest) (ordinary : IsOrdinary c)
    (later : TakesBalanced rest after) : TakesValue chars after :=
  .plain starts ordinary.2.1 (.cons ordinary later)

/-- The readers take balanced texts, as long as no more reads nest than a number says.  The items
of an array and the entries of an object are read together with the bracket that closes them. -/
structure ReadersTake (fuel : Nat) : Prop where
  value {depth : Nat} {chars after : List Char} {value : Value}
    (read : readValue fuel depth chars = .ok (value, after)) : TakesValue chars after
  items {depth : Nat} {chars after : List Char} {items : List Value}
    (read : readItems fuel depth chars = .ok (items, after)) : TakesBalanced chars (']' :: after)
  entries {depth : Nat} {chars after : List Char} {entries : List (String × Value)}
    (read : readEntries fuel depth chars = .ok (entries, after)) :
    TakesBalanced chars ('\x7d' :: after)

theorem readValue_takesValue (nested : ReadersTake fuel)
    (read : readValue (fuel + 1) depth chars = .ok (value, after)) : TakesValue chars after := by
  rw [readValue] at read
  split at read
  · cases read
  · next starts =>
    exact .of_isOrdinary starts (by decide) (readKeyword_takesBalanced rfl read)
  · next starts =>
    exact .of_isOrdinary starts (by decide) (readKeyword_takesBalanced rfl read)
  · next starts =>
    exact .of_isOrdinary starts (by decide) (readKeyword_takesBalanced rfl read)
  · next starts =>
    obtain ⟨_, numberRead, ⟨⟩⟩ := map_eq_ok_iff.mp read
    exact .of_isOrdinary starts (by decide) (readNumber_takesBalanced numberRead)
  · next starts =>
    obtain ⟨_, textRead, ⟨⟩⟩ := map_eq_ok_iff.mp read
    exact .plain starts (by simp [IsOpening]) (takesBalanced_of_readChars textRead)
  · next rest starts =>
    have skipped := skip_takesBalanced rest
    split at read
    · cases read
    · split at read
      · cases read
      · next isEnd =>
        cases read
        rw [isEnd] at skipped
        exact .bracketed starts (Or.inl rfl) (Or.inl rfl) skipped
      · obtain ⟨_, itemsRead, ⟨⟩⟩ := map_eq_ok_iff.mp read
        exact .bracketed starts (Or.inl rfl) (Or.inl rfl) (skipped.trans (nested.items itemsRead))
  · next rest starts =>
    have skipped := skip_takesBalanced rest
    split at read
    · cases read
    · split at read
      · cases read
      · next isEnd =>
        cases read
        rw [isEnd] at skipped
        exact .bracketed starts (Or.inr rfl) (Or.inr rfl) skipped
      · obtain ⟨_, entriesRead, ⟨⟩⟩ := map_eq_ok_iff.mp read
        exact .bracketed starts (Or.inr rfl) (Or.inr rfl)
          (skipped.trans (nested.entries entriesRead))
  · next starts =>
    split at read
    · next isDigit =>
      obtain ⟨_, numberRead, ⟨⟩⟩ := map_eq_ok_iff.mp read
      exact .plain starts (isOrdinary_of_isDigit isDigit).2.1
        (readNumber_takesBalanced numberRead)
    · cases read

theorem readItems_takesBalanced (nested : ReadersTake fuel) {items : List Value}
    (read : readItems (fuel + 1) depth chars = .ok (items, after)) :
    TakesBalanced chars (']' :: after) := by
  rw [readItems] at read
  split at read
  · cases read
  · next item left itemRead =>
    refine (nested.value itemRead).takesBalanced.trans ((skip_takesBalanced left).trans ?_)
    split at read
    · cases read
    · next isEnd =>
      cases read
      rw [isEnd]
      exact .refl _
    · next rest isComma =>
      rw [isComma]
      refine .cons (by decide) ((skip_takesBalanced rest).trans ?_)
      split at read
      · cases read
      · cases read
      · obtain ⟨_, itemsRead, ⟨⟩⟩ := map_eq_ok_iff.mp read
        exact nested.items itemsRead
    · cases read

theorem readEntries_takesBalanced (nested : ReadersTake fuel) {entries : List (String × Value)}
    (read : readEntries (fuel + 1) depth chars = .ok (entries, after)) :
    TakesBalanced chars ('\x7d' :: after) := by
  rw [readEntries] at read
  split at read
  · cases read
  · next keyRead =>
    refine (readKey_takesBalanced keyRead).trans ?_
    split at read
    · cases read
    · next left valueRead =>
      refine (nested.value valueRead).takesBalanced.trans ((skip_takesBalanced left).trans ?_)
      split at read
      · cases read
      · next isEnd =>
        cases read
        rw [isEnd]
        exact .refl _
      · next rest isComma =>
        rw [isComma]
        refine .cons (by decide) ((skip_takesBalanced rest).trans ?_)
        split at read
        · cases read
        · obtain ⟨_, entriesRead, ⟨⟩⟩ := map_eq_ok_iff.mp read
          exact nested.entries entriesRead
      · cases read

/-- The readers call each other with a smaller bound on the number of nested reads. -/
theorem readersTake (fuel : Nat) : ReadersTake fuel := by
  induction fuel with
  | zero =>
      refine ⟨fun read => ?_, fun read => ?_, fun read => ?_⟩
      · cases read
      · cases read
      · cases read
  | succ fuel ih =>
      exact ⟨readValue_takesValue ih, readItems_takesBalanced ih, readEntries_takesBalanced ih⟩

/-- A text that is read whole as an array or an object is the text between its first bracket and the
one that closes it, with blanks after it. -/
theorem exists_closing_of_readWhole (opens : IsOpening c)
    (read : readWhole (c :: rest) = .ok value) :
    ∃ inside closing blanks, Balanced inside ∧ IsClosing closing ∧
      (∀ blank ∈ blanks, isSeparatorBlank blank = true) ∧
      rest = inside ++ closing :: blanks := by
  have noBlank : isSeparatorBlank c = false := by
    rcases opens with rfl | rfl <;> rfl
  unfold readWhole at read
  split at read
  · cases read
  · next left valueRead =>
    have allBlank : ∀ blank ∈ left, isSeparatorBlank blank = true := by
      split at read
      · next noneLeft => exact List.dropWhile_eq_nil_iff.mp noneLeft
      · cases read
    have starts : skip (c :: rest) = c :: rest := by simp [skip, noBlank]
    cases (readersTake _).value valueRead with
    | bracketed isFirst opens closes inside =>
        rw [starts] at isFirst
        cases isFirst
        obtain ⟨taken, balanced, split⟩ := inside
        exact ⟨taken, _, left, balanced, closes, allBlank, split⟩
    | plain isFirst noBracket =>
        rw [starts] at isFirst
        cases isFirst
        exact absurd opens noBracket

end Values

end Literal

namespace Text

/-- A text without blanks at its ends does not end with blanks. -/
theorem eq_nil_of_trim_eq {first last : Char} {middle blanks : List Char}
    (firstSolid : isBlank first = false) (lastSolid : isBlank last = false)
    (areBlanks : ∀ c ∈ blanks, isBlank c = true)
    (trimmed : trimChars (first :: (middle ++ last :: blanks)) =
      first :: (middle ++ last :: blanks)) : blanks = [] := by
  have dropped : (blanks.reverse ++ (first :: middle ++ [last]).reverse).dropWhile isBlank =
      (first :: middle ++ [last]).reverse.dropWhile isBlank :=
    List.dropWhile_append_of_pos fun c member => areBlanks c (List.mem_reverse.mp member)
  have regrouped : first :: (middle ++ last :: blanks) =
      (first :: middle ++ [last]) ++ blanks := by simp
  rw [trimChars, skipBlanks_cons_of_not_isBlank firstSolid, regrouped, dropTrailingBlanks,
    List.reverse_append, dropped, ← dropTrailingBlanks, dropTrailingBlanks_concat lastSolid]
    at trimmed
  exact List.append_right_eq_self.mp trimmed.symm

theorem isBlank_of_isSeparatorBlank {c : Char} (blank : Literal.isSeparatorBlank c = true) :
    isBlank c = true := by
  simp only [Literal.isSeparatorBlank, Bool.or_eq_true, beq_iff_eq] at blank
  rcases blank with ((rfl | rfl) | rfl) | rfl <;> rfl

end Text

/-- A text without blanks at its ends that is read as an array or an object is an operand. -/
theorem spells_literal_of_ofLiteral {c : Char} {rest : List Char} {value : Value}
    (opens : IsOpening c) (trimmed : Text.trimChars (c :: rest) = c :: rest)
    (read : Value.ofLiteral (String.ofList (c :: rest)) = .ok value) :
    ∃ inside closing, IsClosing closing ∧ rest = inside ++ [closing] ∧
      Spells (c :: rest) (.literal (String.ofList (c :: rest))) := by
  have readWhole : Literal.readWhole (c :: rest) = .ok value := by
    rw [Value.ofLiteral, Literal.read, String.toList_ofList] at read
    cases whole : Literal.readWhole (c :: rest) with
    | error stop =>
        rw [whole] at read
        cases read
    | ok found =>
        rw [whole] at read
        cases read
        rfl
  obtain ⟨inside, closing, blanks, balanced, closes, areBlanks, rfl⟩ :=
    Literal.exists_closing_of_readWhole opens readWhole
  have firstSolid : Text.isBlank c = false := by
    rcases opens with rfl | rfl <;> rfl
  have lastSolid : Text.isBlank closing = false := by
    rcases closes with rfl | rfl <;> rfl
  have noBlanks : blanks = [] := Text.eq_nil_of_trim_eq firstSolid lastSolid
    (fun blank member => Text.isBlank_of_isSeparatorBlank (areBlanks blank member)) trimmed
  rw [noBlanks]
  exact ⟨inside, closing, closes, rfl, .literal opens balanced closes⟩

namespace Interpreter

/-- A text that can be read as an array or an object, without blanks at its ends, is converted to
one token.  As a line it gives the value that is read, and changes no binding. -/
theorem evaluate_literal (engine : Pattern.Engine) (interpreter : Interpreter)
    (allowed : 1 ≤ interpreter.limits.maxSteps) {text : String} {value : Value}
    (opens : ∃ c ∈ text.toList.head?, IsOpening c) (trimmed : Text.trim text = text)
    (read : Value.ofLiteral text = .ok value) :
    (∀ arity? : String → Option Nat, convert arity? text = .ok [.literal text]) ∧
      interpreter.evaluate engine text = (.ok value, { interpreter with lastError := none }) := by
  obtain ⟨c, isFirst, opens⟩ := opens
  obtain ⟨rest, starts⟩ : ∃ rest, text.toList = c :: rest := List.head?_eq_some_iff.mp isFirst
  have isText : text = String.ofList (c :: rest) := by rw [← starts, String.ofList_toList]
  have trimmedChars : Text.trimChars (c :: rest) = c :: rest := by
    rw [← starts, ← @String.toList_ofList (Text.trimChars text.toList), ← Text.trim, trimmed]
  rw [isText] at read ⊢
  obtain ⟨inside, closing, closes, rfl, spells⟩ :=
    spells_literal_of_ofLiteral opens trimmedChars read
  have converted (arity? : String → Option Nat) := @convert_of_spells arity? _ _ spells rfl
  refine ⟨converted, evaluate_of_gives allowed (Statement.ofLine_of_ends ?_ ?_ ?_ ?_)
    (converted _) fun _ _ => ?_⟩
  · rcases opens with rfl | rfl <;> rfl
  · rcases opens with rfl | rfl <;> rfl
  · rcases closes with rfl | rfl <;> rfl
  · rcases closes with rfl | rfl <;> decide
  · rw [Leaf.token, Evaluation.step, read]
    rfl

/-- An object with brackets, an equals sign and quotation marks of both kinds in its texts. -/
theorem evaluate_literal_nested :
    let engine : Pattern.Engine := fun _ _ => .error "none"
    let text := "\x7b\"a] = b\": [true, \"it's \\\"\x7d\\\\\"], \"[\": \x7b\"\": null\x7d\x7d"
    let items : List Value := [.boolean true, .string "it's \"\x7d\\"]
    let value : Value := .object [("[", .object [("", .null)]), ("a] = b", .array items)]
    convert initial.table.arity? text = .ok [.literal text] ∧
      initial.evaluate engine text = (.ok value, { initial with lastError := none }) := by
  intro engine text items value
  have allowed : 1 ≤ initial.limits.maxSteps := by decide
  have read : Value.ofLiteral text = .ok value := by cbv
  obtain ⟨converted, evaluated⟩ := evaluate_literal engine initial allowed
    ⟨'\x7b', by decide, Or.inr rfl⟩ (by decide) read
  exact ⟨converted _, evaluated⟩

end Interpreter

end Calculator
