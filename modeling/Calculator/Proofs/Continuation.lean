import Calculator.Proofs.LexemeTexts

/-!
# Lexemes before a closing mark or a blank

No lexeme goes on with a closing parenthesis, a closing bracket, a comma or a blank, unless that
mark is quoted in it.  So an expression has the same lexemes when such a mark follows it.  It also
has the same lexemes where a regular expression may stand, because a slash can start no operand of
an expression that converts elsewhere.  The main statement is that the lexemes of an accepted
expression come first among those of every text that goes on with such a mark.
-/

namespace Calculator

/-- A text begins with a mark that ends a part of an expression. -/
inductive BeginsClosing : List Char → Prop
  | group (rest : List Char) : BeginsClosing (')' :: rest)
  | index (rest : List Char) : BeginsClosing (']' :: rest)
  | comma (rest : List Char) : BeginsClosing (',' :: rest)

/-- A text begins with a mark that ends every lexeme before it. -/
inductive Separates : List Char → Prop
  | group (rest : List Char) : Separates (')' :: rest)
  | index (rest : List Char) : Separates (']' :: rest)
  | comma (rest : List Char) : Separates (',' :: rest)
  | blank (rest : List Char) : Separates (' ' :: rest)

theorem BeginsClosing.separates {suffix : List Char} (closing : BeginsClosing suffix) :
    Separates suffix := by
  cases closing with
  | group rest => exact .group rest
  | index rest => exact .index rest
  | comma rest => exact .comma rest

theorem Separates.exists_cons {suffix : List Char} (separates : Separates suffix) :
    ∃ c later, IsSeparator c ∧ suffix = c :: later := by
  cases separates with
  | group rest => exact ⟨')', rest, by decide, rfl⟩
  | index rest => exact ⟨']', rest, by decide, rfl⟩
  | comma rest => exact ⟨',', rest, by decide, rfl⟩
  | blank rest => exact ⟨' ', rest, by decide, rfl⟩

theorem Separates.agrees {suffix : List Char} (separates : Separates suffix) (rest : List Char) :
    AgreesUntilSeparator rest (rest ++ suffix) := by
  induction rest with
  | nil =>
      obtain ⟨c, later, isSeparator, rfl⟩ := separates.exists_cons
      exact .separated isSeparator [] later
  | cons c rest ih => exact .cons c ih

namespace Lexeme

section Suffixes

variable {arity? : String → Option Nat} {mode : LexMode} {chars suffix : List Char}

/-- A lexeme is read as before where a mark that ends it comes after the rest. -/
theorem next_append (separates : Separates suffix) {source rest : List Char} {lexeme : Lexeme}
    (read : next arity? mode chars = .ok (some (lexeme, source, rest))) :
    next arity? mode (chars ++ suffix) =
      .ok (some (lexeme, source ++ suffix, rest ++ suffix)) := by
  obtain ⟨blanks, taken, rfl, rfl⟩ := exists_taken_of_next read
  have areBlanks := (exists_readAt_of_next read).1
  have readAgain := next_of_taken read areBlanks
    (endsBefore_of_agrees (separates.agrees rest) lexeme)
  simpa only [List.append_assoc] using readAgain

theorem isBlank_of_next_none (ended : next arity? mode chars = .ok none) :
    ∀ c ∈ chars, Text.isBlank c = true := by
  unfold next at ended
  split at ended
  · next noneLeft => exact List.dropWhile_eq_nil_iff.mp noneLeft
  · split at ended <;> cases ended

theorem next_eq_none_of_forall_isBlank (areBlanks : ∀ c ∈ chars, Text.isBlank c = true) :
    next arity? mode chars = .ok none := by
  rw [next, Text.skipBlanks, List.dropWhile_eq_nil_iff.mpr areBlanks]

theorem next_append_of_none (ended : next arity? mode chars = .ok none) (suffix : List Char) :
    next arity? mode (chars ++ suffix) = next arity? mode suffix := by
  have skipped : Text.skipBlanks (chars ++ suffix) = Text.skipBlanks suffix :=
    List.dropWhile_append_of_pos (isBlank_of_next_none ended)
  rw [next, next, skipped]

end Suffixes

/-- The sign that a slash stands for where no regular expression may stand. -/
def divisionSign : Lexeme :=
  .operator (.binary .divide)

end Lexeme

/-- In the second mode a lexeme is read as in the first one, or a regular expression may stand
where in the first one only another operand may. -/
def LexMode.Widens (narrow wide : LexMode) : Prop :=
  wide = narrow ∨ (narrow.afterOperand = false ∧ wide = { narrow with inPattern := true })

section Modes

variable {narrow wide : LexMode}

theorem LexMode.Widens.after (widens : narrow.Widens wide) (lexeme : Lexeme) :
    (narrow.after lexeme).Widens (wide.after lexeme) := by
  rcases widens with rfl | ⟨before, rfl⟩
  · exact Or.inl rfl
  · cases lexeme with
    | operand | closeGroup | closeIndex | openCall | openIndex | comma => exact Or.inl rfl
    | openGroup => exact Or.inr ⟨rfl, rfl⟩
    | operator sign =>
        refine Or.inr ⟨LexMode.after_afterOperand _ _, ?_⟩
        cases sign <;> simp [LexMode.after, before]

namespace Lexeme

variable {arity? : String → Option Nat}

/-- A slash that opens no regular expression is a division sign. -/
theorem readAt_division {mode : LexMode}
    (noPattern : mode.afterOperand = false → mode.inPattern = false) (chars : List Char) :
    readAt arity? mode '/' chars = .ok (divisionSign, chars) := by
  have isNumber : readAt arity? mode '/' chars = readNumber '/' chars := by
    cases after : mode.afterOperand <;> simp [readAt, after, noPattern]
  have noNumeral : Decimal.Numeral.scan? ('/' :: chars) = none := rfl
  rw [isNumber, readNumber, noNumeral]
  simp [readSign, doubleSign?, singleSign?, divisionSign]

theorem readAt_slash {chars rest : List Char} {lexeme : Lexeme}
    (noPattern : narrow.inPattern = false)
    (read : readAt arity? narrow '/' chars = .ok (lexeme, rest)) : lexeme = divisionSign := by
  rw [readAt_division fun _ => noPattern] at read
  cases read
  rfl

theorem readAt_widens (widens : narrow.Widens wide) {c : Char} {chars rest : List Char}
    {lexeme : Lexeme} (read : readAt arity? narrow c chars = .ok (lexeme, rest))
    (noDivision : narrow.afterOperand = false → lexeme ≠ divisionSign) :
    readAt arity? wide c chars = .ok (lexeme, rest) := by
  rcases widens with rfl | ⟨before, rfl⟩
  · exact read
  · by_cases alreadyPattern : narrow.inPattern = true
    · rw [← alreadyPattern]
      exact read
    · have noPattern : narrow.inPattern = false := Bool.eq_false_iff.mpr alreadyPattern
      have noSlash : c ≠ '/' := by
        rintro rfl
        exact noDivision before (readAt_slash noPattern read)
      rw [← read]
      simp [readAt, noSlash]

theorem next_widens (widens : narrow.Widens wide) {chars source rest : List Char}
    {lexeme : Lexeme} (read : next arity? narrow chars = .ok (some (lexeme, source, rest)))
    (noDivision : narrow.afterOperand = false → lexeme ≠ divisionSign) :
    next arity? wide chars = .ok (some (lexeme, source, rest)) := by
  unfold next at read ⊢
  split at read
  · cases read
  · split at read
    · cases read
    · next found =>
      cases read
      rw [readAt_widens widens found noDivision]

end Lexeme

end Modes

namespace Lexeme

variable {arity? : String → Option Nat} {mode : LexMode} {chars : List Char}

/-- The lexemes of a text that are read in a mode. -/
def lexemesOf (arity? : String → Option Nat) (mode : LexMode) (chars : List Char) :
    Except Error (List Lexeme) :=
  (locate arity? mode chars).map (List.map Located.lexeme)

/-- Further lexemes are read before those of a text. -/
def before (lexemes : List Lexeme) (later : Except Error (List Lexeme)) :
    Except Error (List Lexeme) :=
  later.map (lexemes ++ ·)

@[simp]
theorem before_nil (later : Except Error (List Lexeme)) : before [] later = later := by
  cases later <;> rfl

@[simp]
theorem before_ok (first second : List Lexeme) :
    before first (.ok second) = .ok (first ++ second) :=
  rfl

@[simp]
theorem before_before (first second : List Lexeme) (later : Except Error (List Lexeme)) :
    before first (before second later) = before (first ++ second) later := by
  cases later <;> simp [before, Except.map]

theorem lexemesOf_of_next_none (ended : next arity? mode chars = .ok none) :
    lexemesOf arity? mode chars = .ok [] := by
  rw [lexemesOf, locate_of_next_none ended]
  rfl

theorem lexemesOf_of_next {lexeme : Lexeme} {source rest : List Char}
    (read : next arity? mode chars = .ok (some (lexeme, source, rest))) :
    lexemesOf arity? mode chars = before [lexeme] (lexemesOf arity? (mode.after lexeme) rest) := by
  rw [lexemesOf, lexemesOf, locate_of_next_some read]
  cases locate arity? (mode.after lexeme) rest <;> rfl

theorem lexemesOf_congr {others : List Char}
    (same : next arity? mode chars = next arity? mode others) :
    lexemesOf arity? mode chars = lexemesOf arity? mode others := by
  cases read : next arity? mode others with
  | error error =>
      rw [lexemesOf, lexemesOf, locate_of_next_error read, locate_of_next_error (same.trans read)]
  | ok found =>
      cases found with
      | none =>
          rw [lexemesOf, lexemesOf, locate_of_next_none read, locate_of_next_none (same.trans read)]
      | some found => rw [lexemesOf_of_next read, lexemesOf_of_next (same.trans read)]

end Lexeme

namespace Conversion

variable {arity? : String → Option Nat} {state final : Conversion} {wide : LexMode}
  {chars suffix : List Char} {located : List Lexeme.Located}

theorem not_divisionSign_of_accept {lexeme : Lexeme} {source rest : List Char} {next : Conversion}
    (accepted : state.accept arity? lexeme source rest = .ok next)
    (before : state.mode.afterOperand = false) : lexeme ≠ Lexeme.divisionSign := by
  rintro rfl
  have stateBefore : state.afterOperand = false := before
  simp [Lexeme.divisionSign, accept, acceptOperator, stateBefore] at accepted

theorem mode_of_afterOperand (tidy : state.Tidy) (after : state.afterOperand = true) :
    state.mode = { afterOperand := true, inPattern := false } := by
  rw [mode, after, tidy after]
  rfl

/-- The lexemes of an accepted text that completes an operand come first among those of every text
that goes on with a closing mark or a blank, also where a regular expression may stand. -/
theorem lexemesOf_append (tidy : state.Tidy)
    (cut : Lexeme.locate arity? state.mode chars = .ok located)
    (accepted : acceptAll arity? located state = .ok final) (completed : final.afterOperand = true)
    (widens : state.mode.Widens wide) (separates : Separates suffix) :
    Lexeme.lexemesOf arity? wide (chars ++ suffix) =
      Lexeme.before (located.map Lexeme.Located.lexeme)
        (Lexeme.lexemesOf arity? { afterOperand := true, inPattern := false } suffix) := by
  induction located generalizing chars state wide with
  | nil =>
      have ends : state = final := Except.ok.inj accepted
      subst ends
      have ended := Lexeme.locate_nil cut
      have settled := mode_of_afterOperand tidy completed
      have sameMode : wide = state.mode := by
        rcases widens with same | ⟨before, -⟩
        · exact same
        · rw [settled] at before
          cases before
      rw [sameMode, Lexeme.lexemesOf_congr (Lexeme.next_append_of_none ended _), settled]
      exact (Lexeme.before_nil _).symm
  | cons first later ih =>
      obtain ⟨read, laterCut⟩ := Lexeme.locate_cons cut
      rw [acceptAll] at accepted
      split at accepted
      · cases accepted
      · next middle firstAccepted =>
        obtain ⟨middleTidy, middleMode⟩ := accept_mode tidy firstAccepted
        have laterWidens : middle.mode.Widens (wide.after first.lexeme) := by
          rw [middleMode]
          exact widens.after first.lexeme
        have readWide : Lexeme.next arity? wide chars = _ :=
          Lexeme.next_widens widens read (not_divisionSign_of_accept firstAccepted)
        rw [← middleMode] at laterCut
        rw [Lexeme.lexemesOf_of_next (Lexeme.next_append separates readWide),
          ih middleTidy laterCut accepted laterWidens, Lexeme.before_before]
        rfl

end Conversion

end Calculator
