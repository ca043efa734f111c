import Calculator.Proofs.Spelling
import Mathlib.Data.List.TakeWhile

/-!
# The characters of a lexeme

A lexeme is read from a first part of the text, and most of what comes after that part does not
matter.  An operand may end before every text that does not go on with a character of a name, a
point or an opening parenthesis, and before every text that goes on as its own did until a blank, a
comma or a closing mark comes.  An operator only has to end where the two characters of a longer
operator do not meet.  The main statement is that a lexeme is read from its own characters, whatever
else follows them, and whatever blanks come before them.
-/

namespace Calculator

/-- An operand may end before anything but a point, an opening parenthesis and the characters of
names. -/
def EndsOperand (rest : List Char) : Prop :=
  ∀ c ∈ rest.head?, Text.isNameChar c = false ∧ c ≠ '.' ∧ c ≠ '('

theorem endsOperand_of_isBlank {c : Char} (blank : Text.isBlank c = true) (rest : List Char) :
    EndsOperand (c :: rest) := by
  rintro _ ⟨⟩
  refine ⟨?_, ?_, ?_⟩
  · by_contra nameChar
    rw [Lexeme.not_isBlank_of_isNameChar (Bool.not_eq_false _ ▸ nameChar)] at blank
    cases blank
  · rintro rfl
    cases blank
  · rintro rfl
    cases blank

/-- A character that ends every lexeme before it, unless the lexeme quotes it: a blank, a comma, a
closing parenthesis or a closing bracket. -/
def IsSeparator (c : Char) : Prop :=
  Text.isBlank c = true ∨ c = ',' ∨ c = ')' ∨ c = ']'

instance : DecidablePred IsSeparator := fun c =>
  inferInstanceAs (Decidable (Text.isBlank c = true ∨ c = ',' ∨ c = ')' ∨ c = ']'))

theorem IsSeparator.ne {c sign : Char} (separates : IsSeparator c) (solid : ¬IsSeparator sign) :
    c ≠ sign := by
  rintro rfl
  exact solid separates

theorem IsSeparator.endsOperand {c : Char} (separates : IsSeparator c) (rest : List Char) :
    EndsOperand (c :: rest) := by
  rcases separates with blank | rfl | rfl | rfl
  · exact endsOperand_of_isBlank blank rest
  all_goals
    rintro _ ⟨⟩
    decide

/-- A second text goes on like a first one until it ends or a separator comes. -/
inductive AgreesUntilSeparator : List Char → List Char → Prop
  | ended (rest : List Char) : AgreesUntilSeparator rest []
  | separated {c : Char} (separates : IsSeparator c) (rest later : List Char) :
      AgreesUntilSeparator rest (c :: later)
  | cons (c : Char) {rest other : List Char} (later : AgreesUntilSeparator rest other) :
      AgreesUntilSeparator (c :: rest) (c :: other)

/-- A second text begins with a character that may continue an operand only if a first one begins
with that character, too. -/
def HeadsAlike (rest other : List Char) : Prop :=
  ∀ c ∈ other.head?, Text.isNameChar c = true ∨ c = '.' ∨ c = '(' → c ∈ rest.head?

/-- An operand that ends before one text may end before another one. -/
def EndsAlike (rest other : List Char) : Prop :=
  EndsOperand other ∨ AgreesUntilSeparator rest other

section Ends

variable {rest other : List Char}

theorem EndsOperand.headsAlike (ends : EndsOperand other) (rest : List Char) :
    HeadsAlike rest other := by
  rintro c isHead continues
  obtain ⟨noNameChar, noPoint, noOpening⟩ := ends c isHead
  rcases continues with nameChar | isPoint | isOpening
  · rw [noNameChar] at nameChar
    cases nameChar
  · exact absurd isPoint noPoint
  · exact absurd isOpening noOpening

theorem AgreesUntilSeparator.headsAlike (agrees : AgreesUntilSeparator rest other) :
    HeadsAlike rest other := by
  cases agrees with
  | ended => exact nofun
  | separated separates rest later => exact (separates.endsOperand later).headsAlike rest
  | cons c later => exact fun _ isHead _ => isHead

theorem EndsAlike.headsAlike (alike : EndsAlike rest other) : HeadsAlike rest other := by
  rcases alike with ends | agrees
  · exact ends.headsAlike rest
  · exact agrees.headsAlike

theorem HeadsAlike.append (alike : HeadsAlike rest other) (taken : List Char) :
    HeadsAlike (taken ++ rest) (taken ++ other) := by
  cases taken with
  | nil => exact alike
  | cons first later => exact fun c isHead _ => isHead

/-- Where a run of characters that may continue an operand ends before a first text, it ends before
a second one. -/
theorem HeadsAlike.stops (alike : HeadsAlike rest other) {test : Char → Bool}
    (continues : ∀ c, test c = true → Text.isNameChar c = true ∨ c = '.' ∨ c = '(')
    (stops : ∀ c ∈ rest.head?, test c = false) : ∀ c ∈ other.head?, test c = false := by
  intro c isHead
  by_contra holds
  rw [Bool.not_eq_false] at holds
  have stopsHere := stops c (alike c isHead (continues c holds))
  rw [holds] at stopsHere
  cases stopsHere

theorem HeadsAlike.not_isNameChar (alike : HeadsAlike rest other)
    (stops : ∀ c ∈ rest.head?, Text.isNameChar c = false) :
    ∀ c ∈ other.head?, Text.isNameChar c = false :=
  alike.stops (fun _ => Or.inl) stops

theorem HeadsAlike.not_isDigit (alike : HeadsAlike rest other)
    (stops : ∀ c ∈ rest.head?, c.isDigit = false) : ∀ c ∈ other.head?, c.isDigit = false :=
  alike.stops (fun c digit => Or.inl (by simp [Text.isNameChar, Char.isAlphanum, digit])) stops

theorem stops_dropWhile (test : Char → Bool) (chars : List Char) :
    ∀ c ∈ (chars.dropWhile test).head?, test c = false := by
  intro c isHead
  have notTest := List.head?_dropWhile_not test chars
  rw [Option.mem_def.mp isHead] at notTest
  simpa using notTest

end Ends

namespace Decimal

variable {chars rest other digits : List Char}

theorem readDigits?_eq_none_iff :
    readDigits? chars = none ↔ ∀ c ∈ chars.head?, c.isDigit = false := by
  cases chars with
  | nil => simp [readDigits?]
  | cons c later => cases digit : c.isDigit <;> simp [readDigits?, digit]

theorem digits_of_readDigits? (read : readDigits? chars = some (digits, rest)) :
    chars = digits ++ rest ∧ digits ≠ [] ∧ (∀ c ∈ digits, c.isDigit = true) ∧
      ∀ c ∈ rest.head?, c.isDigit = false := by
  unfold readDigits? at read
  split at read
  · cases read
  · next nonempty =>
    cases read
    exact ⟨List.takeWhile_append_dropWhile.symm, nonempty,
      fun c member => List.mem_takeWhile_imp member, stops_dropWhile _ _⟩

theorem append_of_readDigits? (read : readDigits? chars = some (digits, rest)) :
    chars = digits ++ rest ∧ digits ≠ [] ∧
      ∀ other, HeadsAlike rest other → readDigits? (digits ++ other) = some (digits, other) := by
  obtain ⟨split, nonempty, areDigits, stops⟩ := digits_of_readDigits? read
  exact ⟨split, nonempty, fun other alike =>
    readDigits?_of_stop areDigits nonempty (alike.not_isDigit stops)⟩

theorem exists_taken_of_readExponent? {exponent : Int}
    (read : readExponent? chars = some (exponent, rest)) :
    ∃ taken, chars = taken ++ rest ∧
      ∀ other, HeadsAlike rest other → readExponent? (taken ++ other) = some (exponent, other) := by
  unfold readExponent? at read
  split at read
  · next isMinus =>
    obtain ⟨⟨digits, rest⟩, digitsRead, ⟨⟩⟩ := Option.map_eq_some_iff.mp read
    obtain ⟨later, rfl⟩ := List.head?_eq_some_iff.mp isMinus
    obtain ⟨split, -, reads⟩ := append_of_readDigits? digitsRead
    refine ⟨'-' :: digits, congrArg ('-' :: ·) split, fun other alike => ?_⟩
    simp [readExponent?, reads other alike]
  · split at read
    · next isPlus =>
      obtain ⟨⟨digits, rest⟩, digitsRead, ⟨⟩⟩ := Option.map_eq_some_iff.mp read
      obtain ⟨later, rfl⟩ := List.head?_eq_some_iff.mp isPlus
      obtain ⟨split, -, reads⟩ := append_of_readDigits? digitsRead
      refine ⟨'+' :: digits, congrArg ('+' :: ·) split, fun other alike => ?_⟩
      simp [readExponent?, reads other alike]
    · next notMinus notPlus =>
      obtain ⟨⟨digits, rest⟩, digitsRead, ⟨⟩⟩ := Option.map_eq_some_iff.mp read
      obtain ⟨split, nonempty, reads⟩ := append_of_readDigits? digitsRead
      obtain ⟨first, later, rfl⟩ := List.exists_cons_of_ne_nil nonempty
      refine ⟨first :: later, split, fun other alike => ?_⟩
      rw [split, List.cons_append, List.head?_cons] at notMinus notPlus
      have readAgain := reads other alike
      rw [List.cons_append] at readAgain ⊢
      simp only [readExponent?, List.head?_cons, if_neg notMinus, if_neg notPlus, readAgain]
      rfl

/-- Where no exponent can be read, none can be read from a text that agrees up to a separator. -/
theorem readExponent?_eq_none (agrees : AgreesUntilSeparator rest other)
    (unread : readExponent? rest = none) : readExponent? other = none := by
  have noDigits {rest other : List Char} (alike : HeadsAlike rest other)
      (unread : readDigits? rest = none) : readDigits? other = none :=
    readDigits?_eq_none_iff.mpr (alike.not_isDigit (readDigits?_eq_none_iff.mp unread))
  cases agrees with
  | ended => rfl
  | @separated c separates _ later =>
      have notMinus : c ≠ '-' := separates.ne (by decide)
      have notPlus : c ≠ '+' := separates.ne (by decide)
      have noDigit : readDigits? (c :: later) = none :=
        noDigits ((separates.endsOperand later).headsAlike []) rfl
      simp [readExponent?, notMinus, notPlus, noDigit]
  | @cons c rest other later =>
      have whole := (AgreesUntilSeparator.cons c later).headsAlike
      unfold readExponent? at unread ⊢
      rw [List.head?_cons, List.tail_cons] at unread ⊢
      split at unread
      · next isMinus =>
        rw [if_pos isMinus, noDigits later.headsAlike (Option.map_eq_none_iff.mp unread)]
        rfl
      · next notMinus =>
        split at unread
        · next isPlus =>
          rw [if_neg notMinus, if_pos isPlus,
            noDigits later.headsAlike (Option.map_eq_none_iff.mp unread)]
          rfl
        · next notPlus =>
          rw [if_neg notMinus, if_neg notPlus,
            noDigits whole (Option.map_eq_none_iff.mp unread)]
          rfl

theorem readScale_letter {letter : Char} (isLetter : letter = 'e' ∨ letter = 'E') :
    readScale (letter :: rest) = (readExponent? rest).getD (0, letter :: rest) :=
  if_pos isLetter

theorem readScale_other {c : Char} (noLetter : ¬(c = 'e' ∨ c = 'E')) :
    readScale (c :: rest) = (0, c :: rest) :=
  if_neg noLetter

/-- A number without an exponent gets none from another text before which it may end. -/
theorem readScale_of_endsAlike (alike : EndsAlike rest other)
    (unread : ∀ letter later, rest = letter :: later → letter = 'e' ∨ letter = 'E' →
      readExponent? later = none) : readScale other = (0, other) := by
  cases other with
  | nil => rfl
  | cons letter later =>
      by_cases isLetter : letter = 'e' ∨ letter = 'E'
      · have nameChar : Text.isNameChar letter = true := by
          rcases isLetter with rfl | rfl <;> rfl
        rcases alike with ends | agrees
        · have noNameChar := (ends letter rfl).1
          rw [nameChar] at noNameChar
          cases noNameChar
        · cases agrees with
          | separated separates =>
              have noNameChar := (separates.endsOperand later letter rfl).1
              rw [nameChar] at noNameChar
              cases noNameChar
          | cons _ agrees =>
              have stillUnread := readExponent?_eq_none agrees (unread letter _ rfl isLetter)
              rw [readScale_letter isLetter, stillUnread]
              rfl
      · exact readScale_other isLetter

theorem exists_taken_of_readScale (chars : List Char) :
    ∃ taken, chars = taken ++ (readScale chars).2 ∧
      ∀ other, EndsAlike (readScale chars).2 other →
        readScale (taken ++ other) = ((readScale chars).1, other) := by
  cases chars with
  | nil => exact ⟨[], rfl, fun other alike => readScale_of_endsAlike alike nofun⟩
  | cons letter later =>
      by_cases isLetter : letter = 'e' ∨ letter = 'E'
      · cases read : readExponent? later with
        | none =>
            rw [readScale_letter isLetter, read]
            refine ⟨[], rfl, fun other alike => readScale_of_endsAlike alike ?_⟩
            rintro _ _ ⟨⟩ -
            exact read
        | some scale =>
            obtain ⟨exponent, rest⟩ := scale
            rw [readScale_letter isLetter, read]
            obtain ⟨taken, rfl, reads⟩ := exists_taken_of_readExponent? read
            refine ⟨letter :: taken, rfl, fun other alike => ?_⟩
            rw [List.cons_append, readScale_letter isLetter, reads other alike.headsAlike]
            rfl
      · rw [readScale_other isLetter]
        refine ⟨[], rfl, fun other alike => readScale_of_endsAlike alike ?_⟩
        rintro _ _ ⟨⟩ isHere
        exact absurd isHere isLetter

theorem exists_taken_of_readFraction (chars : List Char) :
    ∃ taken, chars = taken ++ (readFraction chars).2 ∧
      ∀ other, HeadsAlike (readFraction chars).2 other →
        readFraction (taken ++ other) = ((readFraction chars).1, other) := by
  have unread {rest : List Char} (noPoint : ∀ c ∈ rest.head?, (c == '.') = false)
      (other : List Char) (alike : HeadsAlike rest other) : readFraction other = ([], other) := by
    have stops := alike.stops (fun c isPoint => Or.inr (Or.inl (beq_iff_eq.mp isPoint))) noPoint
    cases other with
    | nil => rfl
    | cons c later => exact if_neg (beq_eq_false_iff_ne.mp (stops c rfl))
  cases chars with
  | nil => exact ⟨[], rfl, unread nofun⟩
  | cons c later =>
      by_cases isPoint : c = '.'
      · have found : readFraction (c :: later) =
            (later.takeWhile Char.isDigit, later.dropWhile Char.isDigit) := if_pos isPoint
        rw [found]
        refine ⟨c :: later.takeWhile Char.isDigit, ?_, fun other alike => ?_⟩
        · rw [List.cons_append, List.takeWhile_append_dropWhile]
        · have areDigits : ∀ c ∈ later.takeWhile Char.isDigit, c.isDigit = true :=
            fun c member => List.mem_takeWhile_imp member
          have stops := alike.not_isDigit (stops_dropWhile _ _)
          rw [List.cons_append, readFraction, if_pos isPoint, takeWhile_of_stop areDigits stops,
            dropWhile_of_stop areDigits stops]
      · have found : readFraction (c :: later) = ([], c :: later) := if_neg isPoint
        rw [found]
        refine ⟨[], rfl, unread ?_⟩
        rintro _ ⟨⟩
        exact beq_eq_false_iff_ne.mpr isPoint

/-- A numeral is read from its own characters before every text where it may end. -/
theorem exists_taken_of_scan? {numeral : Numeral}
    (scanned : Numeral.scan? chars = some (numeral, rest)) :
    ∃ taken, chars = taken ++ rest ∧
      ∀ other, EndsAlike rest other → Numeral.scan? (taken ++ other) = some (numeral, other) := by
  have split : chars = chars.takeWhile Char.isDigit ++ chars.dropWhile Char.isDigit :=
    List.takeWhile_append_dropWhile.symm
  have areDigits : ∀ c ∈ chars.takeWhile Char.isDigit, c.isDigit = true :=
    fun c member => List.mem_takeWhile_imp member
  have wholeStops := stops_dropWhile Char.isDigit chars
  unfold Numeral.scan? at scanned
  dsimp only at scanned
  generalize chars.takeWhile Char.isDigit = whole at split areDigits scanned
  generalize chars.dropWhile Char.isDigit = afterWhole at split wholeStops scanned
  obtain ⟨fraction, isFraction, fractionReads⟩ := exists_taken_of_readFraction afterWhole
  obtain ⟨scale, isScale, scaleReads⟩ := exists_taken_of_readScale (readFraction afterWhole).2
  split at scanned
  · cases scanned
  · next filled =>
    cases scanned
    refine ⟨whole ++ (fraction ++ scale), ?_, fun other alike => ?_⟩
    · rw [List.append_assoc, List.append_assoc, ← isScale, ← isFraction, split]
    · have scaleAlike := alike.headsAlike.append scale
      rw [← isScale] at scaleAlike
      have fractionAlike := scaleAlike.append fraction
      rw [← isFraction] at fractionAlike
      have stops := fractionAlike.not_isDigit wholeStops
      simp only [Numeral.scan?, List.append_assoc, takeWhile_of_stop areDigits stops,
        dropWhile_of_stop areDigits stops, fractionReads _ scaleAlike, scaleReads other alike,
        if_neg filled]

end Decimal

namespace Lexeme

/-- A lexeme that ends before one text may end before another one. -/
def EndsBefore (rest other : List Char) : Lexeme → Prop
  | .operand _ => EndsAlike rest other
  | .operator _ => other.head? = rest.head? ∨ ∀ first, doubleSign? first other.head? = none
  | _ => True

theorem doubleSign?_of_isSeparator {c : Char} (separates : IsSeparator c) (first : Char) :
    doubleSign? first (some c) = none := by
  have notAnd : c ≠ '&' := separates.ne (by decide)
  have notOr : c ≠ '|' := separates.ne (by decide)
  have notTilde : c ≠ '~' := separates.ne (by decide)
  have notEquals : c ≠ '=' := separates.ne (by decide)
  simp [doubleSign?, notAnd, notOr, notTilde, notEquals]

/-- Every lexeme may end before a text that goes on as its own did until a separator comes. -/
theorem endsBefore_of_agrees {rest other : List Char} (agrees : AgreesUntilSeparator rest other)
    (lexeme : Lexeme) : lexeme.EndsBefore rest other := by
  cases lexeme with
  | operand token => exact Or.inr agrees
  | operator sign =>
      cases agrees with
      | ended => exact Or.inr fun first => by simp [doubleSign?]
      | separated separates => exact Or.inr (doubleSign?_of_isSeparator separates)
      | cons c later => exact Or.inl rfl
  | _ => trivial

/-- What a reader finds in a text it reads from a first part of the text, whatever comes after that
part, if the lexeme may end there. -/
def ReadsStart (read : List Char → Except Error (Lexeme × List Char)) (chars : List Char) : Prop :=
  ∀ lexeme rest, read chars = .ok (lexeme, rest) →
    ∃ taken, chars = taken ++ rest ∧
      ∀ other, lexeme.EndsBefore rest other → read (taken ++ other) = .ok (lexeme, other)

section Scanners

/-- A backslash that starts a text is alone or escapes the next character. -/
theorem ne_backslash {c : Char} {later : List Char} (notLone : c = '\\' → later = [] → False)
    (notEscape : ∀ next others, c = '\\' → later = next :: others → False) : c ≠ '\\' := by
  intro isBackslash
  cases later with
  | nil => exact notLone isBackslash rfl
  | cons next others => exact notEscape next others isBackslash rfl

variable {chars rest : List Char}

theorem exists_taken_of_readString? {quote : Char} {text : List Char}
    (read : readString? quote chars = some (text, rest)) :
    ∃ taken, chars = taken ++ rest ∧
      ∀ other, readString? quote (taken ++ other) = some (text, other) := by
  induction chars using readString?.induct quote generalizing text with
  | case1 => simp [readString?] at read
  | case2 => simp [readString?] at read
  | case3 c later ih =>
      rw [readString?] at read
      obtain ⟨⟨text, rest⟩, laterRead, ⟨⟩⟩ := Option.map_eq_some_iff.mp read
      obtain ⟨taken, rfl, reads⟩ := ih laterRead
      exact ⟨'\\' :: c :: taken, rfl, fun other => by simp [readString?, reads]⟩
  | case4 later notLone notEscape =>
      have notBackslash := ne_backslash notLone notEscape
      rw [readString?_cons notBackslash, if_pos rfl] at read
      cases read
      refine ⟨[quote], rfl, fun other => ?_⟩
      rw [List.singleton_append, readString?_cons notBackslash, if_pos rfl]
  | case5 c later notLone notEscape notQuote ih =>
      have notBackslash := ne_backslash notLone notEscape
      rw [readString?_cons notBackslash, if_neg notQuote] at read
      obtain ⟨⟨text, rest⟩, laterRead, ⟨⟩⟩ := Option.map_eq_some_iff.mp read
      obtain ⟨taken, rfl, reads⟩ := ih laterRead
      refine ⟨c :: taken, rfl, fun other => ?_⟩
      rw [List.cons_append, readString?_cons notBackslash, if_neg notQuote, reads]
      rfl

theorem exists_taken_of_readRegex? {source : List Char}
    (read : readRegex? chars = some (source, rest)) :
    ∃ taken, chars = taken ++ rest ∧
      ∀ other, readRegex? (taken ++ other) = some (source, other) := by
  induction chars using readRegex?.induct generalizing source with
  | case1 => simp [readRegex?] at read
  | case2 => simp [readRegex?] at read
  | case3 c later ih =>
      rw [readRegex?] at read
      obtain ⟨⟨source, rest⟩, laterRead, ⟨⟩⟩ := Option.map_eq_some_iff.mp read
      obtain ⟨taken, rfl, reads⟩ := ih laterRead
      exact ⟨'\\' :: c :: taken, rfl, fun other => by simp [readRegex?, reads]⟩
  | case4 later notLone notEscape =>
      have notBackslash := ne_backslash notLone notEscape
      rw [readRegex?_cons notBackslash, if_pos rfl] at read
      cases read
      refine ⟨['/'], rfl, fun other => ?_⟩
      rw [List.singleton_append, readRegex?_cons notBackslash, if_pos rfl]
  | case5 c later notLone notEscape notSlash ih =>
      have notBackslash := ne_backslash notLone notEscape
      rw [readRegex?_cons notBackslash, if_neg notSlash] at read
      obtain ⟨⟨source, rest⟩, laterRead, ⟨⟩⟩ := Option.map_eq_some_iff.mp read
      obtain ⟨taken, rfl, reads⟩ := ih laterRead
      refine ⟨c :: taken, rfl, fun other => ?_⟩
      rw [List.cons_append, readRegex?_cons notBackslash, if_neg notSlash, reads]
      rfl

theorem exists_taken_of_splitBalanced? {state : QuoteState} {depth : Nat} {raw : List Char}
    (split : splitBalanced? state depth chars = some (raw, rest)) :
    ∃ taken, chars = taken ++ rest ∧
      ∀ other, splitBalanced? state depth (taken ++ other) = some (raw, other) := by
  induction chars generalizing state depth raw with
  | nil => simp [splitBalanced?] at split
  | cons c later ih =>
      have continued (nextDepth : Nat)
          (same : ∀ text, splitBalanced? state depth (c :: text) =
            prepend [c] (splitBalanced? (state.next c) nextDepth text)) :
          ∃ taken, c :: later = taken ++ rest ∧
            ∀ other, splitBalanced? state depth (taken ++ other) = some (raw, other) := by
        rw [same] at split
        obtain ⟨⟨raw, rest⟩, laterSplit, ⟨⟩⟩ := Option.map_eq_some_iff.mp split
        obtain ⟨taken, rfl, splits⟩ := ih laterSplit
        refine ⟨c :: taken, rfl, fun other => ?_⟩
        rw [List.cons_append, same, splits]
        rfl
      by_cases opens : state = .outside ∧ (c = '[' ∨ c = '\x7b')
      · refine continued (depth + 1) fun text => ?_
        rw [splitBalanced?, if_pos opens]
        rfl
      · by_cases closes : state = .outside ∧ (c = ']' ∨ c = '\x7d')
        · by_cases isLast : depth ≤ 1
          · rw [splitBalanced?, if_neg opens, if_pos closes, if_pos isLast] at split
            cases split
            refine ⟨[c], rfl, fun other => ?_⟩
            rw [List.singleton_append, splitBalanced?, if_neg opens, if_pos closes, if_pos isLast]
          · refine continued (depth - 1) fun text => ?_
            rw [splitBalanced?, if_neg opens, if_pos closes, if_neg isLast]
            rfl
        · refine continued depth fun text => ?_
          rw [splitBalanced?, if_neg opens, if_neg closes]
          rfl

end Scanners

section Readers

variable {chars rest : List Char} {c : Char}

theorem readsStart_readQuoted (quote : Char) (chars : List Char) :
    ReadsStart (readQuoted quote) chars := by
  intro lexeme rest read
  unfold readQuoted at read
  split at read
  · next found =>
    cases read
    obtain ⟨taken, rfl, reads⟩ := exists_taken_of_readString? found
    exact ⟨taken, rfl, fun other _ => by rw [readQuoted, reads]⟩
  · cases read

theorem readsStart_readLiteral (chars : List Char) : ReadsStart readLiteral chars := by
  intro lexeme rest read
  unfold readLiteral at read
  split at read
  · next found =>
    cases read
    obtain ⟨taken, rfl, splits⟩ := exists_taken_of_splitBalanced? found
    exact ⟨taken, rfl, fun other _ => by rw [readLiteral, splits]⟩
  · cases read

theorem isNameChar_of_isAlpha (alphabetic : c.isAlpha = true) : Text.isNameChar c = true := by
  simp [Text.isNameChar, Char.isAlphanum, alphabetic]

theorem readsStart_readPattern (chars : List Char) : ReadsStart readPattern chars := by
  intro lexeme rest read
  unfold readPattern at read
  split at read
  · next source after found =>
    cases read
    obtain ⟨taken, rfl, reads⟩ := exists_taken_of_readRegex? found
    refine ⟨taken ++ after.takeWhile Char.isAlpha, ?_, fun other ends => ?_⟩
    · rw [List.append_assoc, List.takeWhile_append_dropWhile]
    · have areFlags : ∀ c ∈ after.takeWhile Char.isAlpha, c.isAlpha = true :=
        fun c member => List.mem_takeWhile_imp member
      have stops : ∀ c ∈ other.head?, c.isAlpha = false :=
        ends.headsAlike.stops (fun _ isFlag => Or.inl (isNameChar_of_isAlpha isFlag))
          (stops_dropWhile _ _)
      simp only [readPattern, List.append_assoc, reads, takeWhile_of_stop areFlags stops,
        dropWhile_of_stop areFlags stops]
  · cases read

theorem readsStart_readCapture (chars : List Char) : ReadsStart readCapture chars := by
  intro lexeme rest read
  unfold readCapture at read
  dsimp only at read
  split at read
  · cases read
  · next named =>
    cases read
    refine ⟨chars.takeWhile Text.isNameChar, List.takeWhile_append_dropWhile.symm, ?_⟩
    intro other ends
    have areNameChars : ∀ c ∈ chars.takeWhile Text.isNameChar, Text.isNameChar c = true :=
      fun c member => List.mem_takeWhile_imp member
    have stops : ∀ c ∈ other.head?, Text.isNameChar c = false :=
      ends.headsAlike.not_isNameChar (stops_dropWhile _ _)
    simp only [readCapture, takeWhile_of_stop areNameChars stops,
      dropWhile_of_stop areNameChars stops]
    rw [if_neg named]

/-- Of the character after an operator it matters only whether both are one operator. -/
theorem readsStart_readSign (c : Char) (chars : List Char) : ReadsStart (readSign c) chars := by
  intro lexeme rest read
  unfold readSign at read
  split at read
  · next op isDouble =>
    cases read
    cases chars with
    | nil => simp [doubleSign?] at isDouble
    | cons second later =>
        refine ⟨[second], rfl, fun other _ => ?_⟩
        rw [List.head?_cons] at isDouble
        simp [readSign, isDouble]
  · next noDouble =>
    split at read
    · next sign isSingle =>
      cases read
      refine ⟨[], rfl, fun other ends => ?_⟩
      have stillSingle : doubleSign? c other.head? = none := by
        rcases ends with same | never
        · rw [same]
          exact noDouble
        · exact never c
      simp only [readSign, List.nil_append, stillSingle, isSingle]
    · cases read

/-- The characters with which an operator begins. -/
def signs : List Char :=
  ['&', '|', '=', '!', '<', '>', '+', '-', '*', '/', '%', '^']

theorem mem_signs_of_readSign {lexeme : Lexeme} (read : readSign c chars = .ok (lexeme, rest)) :
    c ∈ signs := by
  by_contra noSign
  simp only [signs, List.mem_cons, List.not_mem_nil, or_false, not_or] at noSign
  have noDouble (second : Option Char) : doubleSign? c second = none := by
    simp [doubleSign?, noSign]
  have noSingle : singleSign? c = none := by simp [singleSign?, noSign]
  rw [readSign, noDouble, noSingle] at read
  cases read

theorem scan?_of_mem_signs (isSign : c ∈ signs) (chars : List Char) :
    Decimal.Numeral.scan? (c :: chars) = none := by
  simp only [signs, List.mem_cons, List.not_mem_nil, or_false] at isSign
  rcases isSign with rfl | rfl | rfl | rfl | rfl | rfl | rfl | rfl | rfl | rfl | rfl | rfl <;> rfl

theorem readsStart_readNumber (c : Char) (chars : List Char) :
    ReadsStart (readNumber c) chars := by
  intro lexeme rest read
  unfold readNumber at read
  split at read
  · next numeral after scanned =>
    cases read
    obtain ⟨taken, split, reads⟩ := Decimal.exists_taken_of_scan? scanned
    have shorter := Decimal.Numeral.scan?_shorter scanned
    cases taken with
    | nil =>
        rw [List.nil_append] at split
        rw [split] at shorter
        exact absurd shorter (Nat.lt_irrefl _)
    | cons first taken =>
        obtain ⟨rfl, rfl⟩ := List.cons.inj split
        refine ⟨taken, rfl, fun other ends => ?_⟩
        have scannedAgain := reads other ends
        rw [List.cons_append] at scannedAgain
        rw [readNumber, scannedAgain]
  · obtain ⟨taken, rfl, reads⟩ := readsStart_readSign c chars lexeme rest read
    refine ⟨taken, rfl, fun other ends => ?_⟩
    rw [readNumber, scan?_of_mem_signs (mem_signs_of_readSign read)]
    exact reads other ends

theorem readsStart_readName (arity? : String → Option Nat) (lower : c.isLower = true)
    (chars : List Char) : ReadsStart (fun chars => .ok (readName arity? chars)) (c :: chars) := by
  intro lexeme rest read
  have identifier := isIdentifier_takeWhile lower chars
  have split : (c :: chars).takeWhile Text.isNameChar ++ (c :: chars).dropWhile Text.isNameChar =
      c :: chars := List.takeWhile_append_dropWhile
  have stops := stops_dropWhile Text.isNameChar (c :: chars)
  unfold readName at read
  dsimp only at read
  generalize (c :: chars).takeWhile Text.isNameChar = name at identifier split read
  generalize (c :: chars).dropWhile Text.isNameChar = remaining at split stops read
  rw [← split]
  have isName : (String.ofList name).toList = name := String.toList_ofList
  split at read
  · next value means =>
    cases read
    refine ⟨name, rfl, fun other ends => congrArg Except.ok ?_⟩
    have readAgain : readName arity? _ = _ :=
      readName_keyword identifier (ends.headsAlike.not_isNameChar stops) means
    rwa [isName] at readAgain
  · next free =>
    -- A variable stays one if its name calls no function before the other text.
    have reads (noCall : (arity? (String.ofList name)).isSome = true →
        ∀ c ∈ remaining.head?, (c == '(') = false) (other : List Char)
        (ends : (operand (.var (String.ofList name))).EndsBefore remaining other) :
        readName arity? (name ++ other) = (.operand (.var (String.ofList name)), other) := by
      have alike := EndsAlike.headsAlike ends
      have readAgain : readName arity? _ = _ :=
        readName_var identifier (alike.not_isNameChar stops) free fun known c isHead =>
          beq_eq_false_iff_ne.mp (alike.stops
            (fun c isOpening => Or.inr (Or.inr (beq_iff_eq.mp isOpening))) (noCall known) c isHead)
      rwa [isName] at readAgain
    split at read
    · next after =>
      split at read
      · next known =>
        cases read
        refine ⟨name ++ ['('], by rw [List.append_assoc, List.singleton_append],
          fun other _ => congrArg Except.ok ?_⟩
        have readAgain : readName arity? _ = _ :=
          readName_openCall identifier free known other
        rwa [isName, ← List.singleton_append, ← List.append_assoc] at readAgain
      · next unknown =>
        cases read
        exact ⟨name, rfl, fun other ends => congrArg Except.ok
          (reads (fun known => absurd known unknown) other ends)⟩
    · next noOpening =>
      cases read
      refine ⟨name, rfl, fun other ends => congrArg Except.ok (reads (fun _ c isHead => ?_) other
        ends)⟩
      obtain ⟨later, rfl⟩ := List.head?_eq_some_iff.mp isHead
      exact beq_eq_false_iff_ne.mpr fun isOpening => noOpening later (by rw [isOpening])

/-- Where a lexeme takes a character at least, the reader begins with a fixed character. -/
theorem ReadsStart.afterFirst {read : List Char → Except Error (Lexeme × List Char)}
    (reads : ReadsStart read (c :: chars))
    (shorter : ∀ lexeme rest, read (c :: chars) = .ok (lexeme, rest) →
      rest.length < (c :: chars).length) :
    ReadsStart (fun chars => read (c :: chars)) chars := by
  intro lexeme rest found
  obtain ⟨taken, split, again⟩ := reads lexeme rest found
  cases taken with
  | nil =>
      have moves := shorter lexeme rest found
      rw [List.nil_append] at split
      rw [split] at moves
      exact absurd moves (Nat.lt_irrefl _)
  | cons first taken =>
      obtain ⟨rfl, rfl⟩ := List.cons.inj split
      exact ⟨taken, rfl, again⟩

theorem readsStart_readAt (arity? : String → Option Nat) (mode : LexMode) (c : Char)
    (chars : List Char) : ReadsStart (readAt arity? mode c) chars := by
  have branch {condition : Prop} [Decidable condition]
      {first second : List Char → Except Error (Lexeme × List Char)}
      (positive : ReadsStart first chars) (negative : ReadsStart second chars) :
      ReadsStart (fun chars => if condition then first chars else second chars) chars := by
    by_cases holds : condition
    · simpa only [if_pos holds] using positive
    · simpa only [if_neg holds] using negative
  have mark (lexeme : Lexeme) : ReadsStart (fun chars => .ok (lexeme, chars)) chars := by
    rintro _ _ ⟨⟩
    exact ⟨[], rfl, fun _ _ => rfl⟩
  unfold readAt
  refine branch (readsStart_readQuoted c chars) ?_
  refine branch (mark .openIndex) ?_
  refine branch nofun ?_
  refine branch ((readsStart_readLiteral (c :: chars)).afterFirst fun _ _ =>
    readLiteral_shorter) ?_
  refine branch (mark (.closeIndex c)) ?_
  refine branch (readsStart_readPattern chars) ?_
  refine branch (mark .openGroup) ?_
  refine branch (mark .closeGroup) ?_
  refine branch (mark .comma) ?_
  refine branch (readsStart_readCapture chars) ?_
  by_cases lower : c.isLower = true
  · simp only [if_pos lower]
    refine (readsStart_readName arity? lower chars).afterFirst fun lexeme rest read => ?_
    have shorter := readName_shorter arity? chars (isNameChar_of_isLower lower)
    rw [Except.ok.inj read] at shorter
    exact shorter
  · simp only [if_neg lower]
    exact readsStart_readNumber c chars

end Readers

section Heads

variable {arity? : String → Option Nat} {mode : LexMode} {c : Char} {chars rest : List Char}
  {lexeme : Lexeme}

/-- A lexeme that begins with a character of a name, a point or an opening parenthesis starts an
operand. -/
theorem startsOperand_of_readAt (first : Text.isNameChar c = true ∨ c = '.' ∨ c = '(')
    (read : readAt arity? mode c chars = .ok (lexeme, rest)) : lexeme.startsOperand = true := by
  by_cases isOpening : c = '('
  · subst isOpening
    cases read
    rfl
  · have ordinary : c ∉ marks := by
      intro isMark
      simp only [marks, List.mem_cons, List.not_mem_nil, or_false] at isMark
      rcases isMark with rfl | rfl | rfl | rfl | rfl | rfl | rfl | rfl | rfl | rfl | rfl <;>
        first | exact isOpening rfl | (revert first; decide)
    rw [readAt_of_not_mem_marks ordinary] at read
    split at read
    · unfold readName at read
      dsimp only at read
      split at read
      · cases read
        rfl
      · split at read
        · split at read <;> cases read <;> rfl
        · cases read
          rfl
    · unfold readNumber at read
      split at read
      · cases read
        rfl
      · have isSign := mem_signs_of_readSign read
        simp only [signs, List.mem_cons, List.not_mem_nil, or_false] at isSign
        exfalso
        rcases isSign with rfl | rfl | rfl | rfl | rfl | rfl | rfl | rfl | rfl | rfl | rfl | rfl <;>
          revert first <;> decide

/-- An operand may stand after another operand only if it is read there as at its own place. -/
theorem readAt_of_startsOperand
    (read : readAt arity? { afterOperand := true, inPattern := false } c chars =
      .ok (lexeme, rest)) (starts : lexeme.startsOperand = true) :
    readAt arity? LexMode.initial c chars = .ok (lexeme, rest) := by
  have noIndex : c ≠ '[' := by
    rintro rfl
    cases read
    cases starts
  have noBrace : c ≠ '\x7b' := by
    rintro rfl
    cases read
  rw [← read]
  simp [readAt, LexMode.initial, noIndex, noBrace]

/-- An operand may end before a lexeme that starts no other operand. -/
theorem endsOperand_of_readAt (read : readAt arity? mode c chars = .ok (lexeme, rest))
    (noStart : lexeme.startsOperand = false) (later : List Char) : EndsOperand (c :: later) := by
  have excluded (first : Text.isNameChar c = true ∨ c = '.' ∨ c = '(') : False := by
    rw [startsOperand_of_readAt first read] at noStart
    cases noStart
  rintro _ ⟨⟩
  refine ⟨?_, fun isPoint => excluded (Or.inr (Or.inl isPoint)),
    fun isOpening => excluded (Or.inr (Or.inr isOpening))⟩
  by_contra nameChar
  exact excluded (Or.inl (Bool.not_eq_false _ ▸ nameChar))

/-- A lexeme that was found begins with its first character, which is no blank. -/
theorem exists_readAt_of_next {blanks taken : List Char}
    (read : next arity? mode (blanks ++ (taken ++ rest)) =
      .ok (some (lexeme, taken ++ rest, rest))) :
    (∀ c ∈ blanks, Text.isBlank c = true) ∧ ∃ c later, taken = c :: later ∧
      Text.isBlank c = false ∧ readAt arity? mode c (later ++ rest) = .ok (lexeme, rest) := by
  have cut : (blanks ++ (taken ++ rest)).takeWhile Text.isBlank ++
      Text.skipBlanks (blanks ++ (taken ++ rest)) = blanks ++ (taken ++ rest) :=
    List.takeWhile_append_dropWhile
  unfold next at read
  split at read
  · cases read
  · next c tail skipped =>
    have solid : Text.isBlank c = false := by
      have stops := List.head?_dropWhile_not Text.isBlank (blanks ++ (taken ++ rest))
      rw [← Text.skipBlanks, skipped] at stops
      simpa using stops
    split at read
    · cases read
    · next found =>
      simp only [Except.ok.injEq, Option.some.injEq, Prod.mk.injEq] at read
      obtain ⟨rfl, source, rfl⟩ := read
      rw [skipped, source] at cut
      have areBlanks := List.append_cancel_right cut
      refine ⟨fun b member => List.mem_takeWhile_imp (areBlanks ▸ member), ?_⟩
      cases taken with
      | nil =>
          have shorter := readAt_shorter found
          rw [List.nil_append] at source
          rw [← source, List.length_cons] at shorter
          exact absurd shorter (Nat.not_succ_le_self _)
      | cons first later =>
          obtain ⟨rfl, rfl⟩ := List.cons.inj source
          exact ⟨_, later, rfl, solid, found⟩

theorem exists_taken_of_next {source : List Char}
    (read : next arity? mode chars = .ok (some (lexeme, source, rest))) :
    ∃ blanks taken, chars = blanks ++ (taken ++ rest) ∧ source = taken ++ rest := by
  have cut : chars.takeWhile Text.isBlank ++ Text.skipBlanks chars = chars :=
    List.takeWhile_append_dropWhile
  unfold next at read
  split at read
  · cases read
  · next c tail skipped =>
    split at read
    · cases read
    · next found =>
      cases read
      obtain ⟨taken, rfl, -⟩ := readsStart_readAt arity? mode c tail lexeme rest found
      rw [skipped] at cut
      exact ⟨chars.takeWhile Text.isBlank, c :: taken, cut.symm, rfl⟩

theorem next_of_blanks {blanks : List Char} (areBlanks : ∀ c ∈ blanks, Text.isBlank c = true)
    (solid : Text.isBlank c = false) (read : readAt arity? mode c chars = .ok (lexeme, rest)) :
    next arity? mode (blanks ++ c :: chars) = .ok (some (lexeme, c :: chars, rest)) := by
  have skipped : Text.skipBlanks (blanks ++ c :: chars) = Text.skipBlanks (c :: chars) :=
    List.dropWhile_append_of_pos areBlanks
  rw [next, skipped, ← next]
  exact next_of_readAt solid read

/-- A lexeme is read from its characters, whatever else follows them, and whatever blanks come
before them. -/
theorem next_of_taken {blanks taken otherBlanks other : List Char}
    (read : next arity? mode (blanks ++ (taken ++ rest)) = .ok (some (lexeme, taken ++ rest, rest)))
    (areBlanks : ∀ c ∈ otherBlanks, Text.isBlank c = true) (ends : lexeme.EndsBefore rest other) :
    next arity? mode (otherBlanks ++ (taken ++ other)) =
      .ok (some (lexeme, taken ++ other, other)) := by
  obtain ⟨-, c, later, rfl, solid, found⟩ := exists_readAt_of_next read
  obtain ⟨again, split, reads⟩ := readsStart_readAt arity? mode c (later ++ rest) lexeme rest found
  rw [List.append_cancel_right split]
  exact next_of_blanks areBlanks solid (reads other ends)

end Heads

end Lexeme

end Calculator
