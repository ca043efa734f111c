import Calculator.Proofs.ExpressionLines
import Calculator.Proofs.Printing
import Calculator.Proofs.SideBySide
import Calculator.Session

/-!
# String literals

A text is written as a string literal between quotation marks of either kind, with a backslash
before every backslash and before every such mark.  Whatever the text contains, a line that is its
literal is no assignment and no definition, and gives the text back.  So does the quoted form in
which a listing shows a string, unless it escapes a character as its code point, which no literal
can do.
-/

namespace Calculator

namespace Text

theorem dropTrailingBlanks_concat {last : Char} (solid : isBlank last = false)
    (chars : List Char) : dropTrailingBlanks (chars ++ [last]) = chars ++ [last] := by
  have stays : (chars ++ [last]).reverse.dropWhile isBlank = (chars ++ [last]).reverse := by
    rw [List.reverse_append]
    exact skipBlanks_cons_of_not_isBlank solid chars.reverse
  rw [dropTrailingBlanks, stays, List.reverse_reverse]

/-- How a character is written in a string literal with a given quotation mark. -/
def escapeFor (quote c : Char) : List Char :=
  if c = '\\' ∨ c = quote then ['\\', c] else [c]

/-- The literal of a text with a given quotation mark. -/
def stringLiteral (quote : Char) (text : String) : String :=
  String.ofList (quote :: (text.toList.flatMap (escapeFor quote) ++ [quote]))

/-- No character of a text is escaped as its code point in the quoted form of the text. -/
def AvoidsCodePoints (text : String) : Prop :=
  ∀ c ∈ text.toList, ¬['\\', 'u'] <+: quoteChar c

end Text

namespace Glyph

/-- A written character is a glyph that means the character, and can stand between given quotation
marks. -/
def Writes (quote c : Char) (written : List Char) : Prop :=
  ∃ glyph : Glyph, glyph.FitsIn quote ∧ glyph.chars = written ∧ glyph.meaning = c

theorem writes_escapeFor {quote : Char} (isQuote : IsQuote quote) (c : Char) :
    Writes quote c (Text.escapeFor quote c) := by
  unfold Text.escapeFor
  by_cases escaped : c = '\\' ∨ c = quote
  · have stands : Lexeme.unescape c = c := by
      rcases escaped with rfl | rfl
      · rfl
      · rcases isQuote with rfl | rfl <;> rfl
    rw [if_pos escaped]
    exact ⟨.escaped c, trivial, rfl, stands⟩
  · rw [if_neg escaped]
    exact ⟨.plain c, ⟨fun isMark => escaped (Or.inr isMark), fun isBackslash =>
      escaped (Or.inl isBackslash)⟩, rfl, rfl⟩

/-- Every escape of a quoted form but that of a code point is an escape of string literals. -/
theorem writes_quoteChar {c : Char} (noCodePoint : ¬['\\', 'u'] <+: Text.quoteChar c) :
    Writes '"' c (Text.quoteChar c) := by
  generalize isWritten : Text.quoteChar c = written at noCodePoint ⊢
  unfold Text.quoteChar at isWritten
  split at isWritten
  · exact ⟨.escaped '"', trivial, isWritten, rfl⟩
  · exact ⟨.escaped '\\', trivial, isWritten, rfl⟩
  · exact ⟨.escaped 'n', trivial, isWritten, rfl⟩
  · exact ⟨.escaped 'r', trivial, isWritten, rfl⟩
  · exact ⟨.escaped 't', trivial, isWritten, rfl⟩
  · exact ⟨.escaped '0', trivial, isWritten, rfl⟩
  · next notMark notBackslash _ _ _ _ =>
    split at isWritten
    · exact ⟨.plain c, ⟨notMark, notBackslash⟩, isWritten, rfl⟩
    · exact absurd ⟨_, isWritten⟩ noCodePoint

end Glyph

theorem exists_glyphs_of_writes {quote : Char} {chars : List Char} {write : Char → List Char}
    (writes : ∀ c ∈ chars, Glyph.Writes quote c (write c)) :
    ∃ glyphs : List Glyph, (∀ glyph ∈ glyphs, glyph.FitsIn quote) ∧
      glyphChars glyphs = chars.flatMap write ∧ glyphs.map Glyph.meaning = chars := by
  induction chars with
  | nil => exact ⟨[], nofun, rfl, rfl⟩
  | cons c later ih =>
      obtain ⟨first, others⟩ := List.forall_mem_cons.mp writes
      obtain ⟨glyph, fits, isWritten, means⟩ := first
      obtain ⟨glyphs, laterFit, laterWritten, laterMean⟩ := ih others
      refine ⟨glyph :: glyphs, List.forall_mem_cons.mpr ⟨fits, laterFit⟩, ?_, ?_⟩
      · rw [glyphChars_cons, isWritten, laterWritten, List.flatMap_cons]
      · rw [List.map_cons, means, laterMean]

/-- A text whose characters are written one after another between quotation marks is a string. -/
theorem spells_string_of_writes {quote : Char} {chars : List Char} {write : Char → List Char}
    (isQuote : IsQuote quote) (writes : ∀ c ∈ chars, Glyph.Writes quote c (write c)) :
    Spells (quote :: (chars.flatMap write ++ [quote])) (.string (String.ofList chars)) := by
  obtain ⟨glyphs, fits, areWritten, mean⟩ := exists_glyphs_of_writes writes
  rw [← areWritten, ← mean]
  exact .string isQuote fits

theorem spells_stringLiteral {quote : Char} (isQuote : IsQuote quote) (text : String) :
    Spells (Text.stringLiteral quote text).toList (.string text) := by
  have spells : Spells _ (.string (String.ofList text.toList)) :=
    spells_string_of_writes isQuote fun c _ => Glyph.writes_escapeFor isQuote c
  rw [String.ofList_toList] at spells
  rw [Text.stringLiteral, String.toList_ofList]
  exact spells

namespace Statement

section Cutting

variable {before after : List Char} {previous : Option Char} {c : Char} {rest : List Char}

theorem splitAssignment?_cons_cases
    (cut : splitAssignment? previous (c :: rest) = some (before, after)) :
    before = [] ∨ ∃ later, before = c :: later := by
  rw [splitAssignment?] at cut
  split at cut
  · cases cut
    exact Or.inl rfl
  · obtain ⟨⟨left, right⟩, -, ⟨⟩⟩ := Option.map_eq_some_iff.mp cut
    exact Or.inr ⟨left, rfl⟩

/-- No name comes first on a line that begins with a character of another kind. -/
theorem isWord_eq_false_of_prefix (solid : Text.isBlank c = false)
    (noNameChar : Text.isNameChar c = false)
    (cut : splitAssignment? previous (c :: rest) = some (before, after)) {name : List Char}
    (comesFirst : name <+: Text.trimChars before) : isWord name = false := by
  by_contra notFalse
  have word : isWord name = true := Bool.not_eq_false _ ▸ notFalse
  have noSkip : Text.skipBlanks before = before := by
    rcases splitAssignment?_cons_cases cut with rfl | ⟨later, rfl⟩
    · rfl
    · exact Text.skipBlanks_cons_of_not_isBlank solid later
  obtain ⟨blanks, -, split⟩ := Text.exists_dropTrailingBlanks_append before
  have isPrefix : name <+: before := by
    rw [Text.trimChars, noSkip] at comesFirst
    exact comesFirst.trans ⟨blanks, split⟩
  cases name with
  | nil => cases word
  | cons first letters =>
      rcases splitAssignment?_cons_cases cut with rfl | ⟨later, rfl⟩
      · cases List.prefix_nil.mp isPrefix
      · have same : first = c := (List.cons_prefix_cons.mp isPrefix).1
        have nameChar : Text.isNameChar first = true :=
          forall_isNameChar_of_isWord word first List.mem_cons_self
        rw [same, noNameChar] at nameChar
        cases nameChar

/-- A line that begins with a character of no name is an expression. -/
theorem ofChars_cons_of_not_isNameChar (solid : Text.isBlank c = false)
    (noNameChar : Text.isNameChar c = false) (rest : List Char) :
    ofChars (c :: rest) = .expression (String.ofList (c :: rest)) := by
  unfold ofChars
  cases cut : splitAssignment? none (c :: rest) with
  | none => rfl
  | some parts =>
      obtain ⟨before, after⟩ := parts
      have noName (name : List Char) (comesFirst : name <+: Text.trimChars before) :
          isWord name = false := isWord_eq_false_of_prefix solid noNameChar cut comesFirst
      have noSignature : signature? (Text.trimChars before) = none := by
        rw [← Option.not_isSome_iff_eq_none, signature?_isSome_iff]
        rintro ⟨name, gap, list, word, -, split⟩
        rw [noName name ⟨_, by rw [split, List.append_assoc]⟩] at word
        cases word
      dsimp only
      rw [noName _ List.prefix_rfl, if_neg Bool.false_ne_true, noSignature]

end Cutting

/-- A line between solid characters is not changed, unless it ends with a semicolon. -/
theorem normalize_of_ends {first last : Char} {middle : List Char}
    (firstSolid : Text.isBlank first = false) (lastSolid : Text.isBlank last = false)
    (noSemicolon : last ≠ ';') :
    normalize (String.ofList (first :: (middle ++ [last]))) = first :: (middle ++ [last]) := by
  have kept : Text.dropTrailingBlanks (first :: (middle ++ [last])) =
      first :: (middle ++ [last]) := Text.dropTrailingBlanks_concat lastSolid (first :: middle)
  have trimmed : Text.trimChars (first :: (middle ++ [last])) = first :: (middle ++ [last]) := by
    rw [Text.trimChars, Text.skipBlanks_cons_of_not_isBlank firstSolid, kept]
  have isLast : (first :: (middle ++ [last])).getLast? = some last :=
    @List.getLast?_concat _ (first :: middle) last
  have noDrop : dropSemicolon (first :: (middle ++ [last])) = first :: (middle ++ [last]) := by
    rw [dropSemicolon, isLast, if_neg]
    exact fun same => noSemicolon (Option.some.inj same)
  rw [normalize, String.toList_ofList, trimmed, noDrop, kept]

/-- A line that begins with a solid character of no name, and ends with a solid character other
than a semicolon, is an expression as it stands. -/
theorem ofLine_of_ends {first last : Char} {middle : List Char}
    (firstSolid : Text.isBlank first = false) (noNameChar : Text.isNameChar first = false)
    (lastSolid : Text.isBlank last = false) (noSemicolon : last ≠ ';') :
    ofLine (String.ofList (first :: (middle ++ [last]))) =
      .expression (String.ofList (first :: (middle ++ [last]))) := by
  rw [ofLine, normalize_of_ends firstSolid lastSolid noSemicolon,
    ofChars_cons_of_not_isNameChar firstSolid noNameChar]

end Statement

/-- An operand alone is a program of one token. -/
theorem convert_of_spells {arity? : String → Option Nat} {chars : List Char} {leaf : Leaf}
    (spells : Spells chars leaf) (noRegex : leaf.isRegex = false) :
    convert arity? (String.ofList chars) = .ok [leaf.token] := by
  have read : Lexeme.ReadsAs arity? LexMode.initial chars (.operand leaf.token) :=
    Lexeme.readsAs_of_spells spells rfl fun isRegex => by
      rw [noRegex] at isRegex
      cases isRegex
  have sequenced := Lexeme.sequence_of_readsAll (.cons read .nil)
  rw [List.intercalate_singleton] at sequenced
  exact Conversion.convert_of_grammatical (Tree.Grammatical.leaf leaf) sequenced

namespace Evaluation

/-- A token that gives a value without looking at the machine. -/
def Gives (token : Token) (value : Value) : Prop :=
  ∀ context locals, step context locals token [] = pure [.value value]

variable {token : Token} {value : Value}

theorem Gives.execute (gives : Gives token value) (context : Context) (locals : Entries Value)
    {machine : Machine} (allowed : machine.steps + 1 ≤ context.limits.maxSteps) :
    (execute context locals [token] []).run.run machine =
      (.ok [.value value], { machine with steps := machine.steps + 1 }) := by
  rw [Evaluation.execute, Run.run_bind, run_countStep, if_neg (Nat.not_lt.mpr allowed), gives]
  rfl

theorem Gives.run (gives : Gives token value) (engine : Pattern.Engine) {limits : Limits}
    (allowed : 1 ≤ limits.maxSteps) (table : SymbolTable) :
    run engine limits [token] table = (.ok value, table) := by
  have nested : (runNested engine limits limits.maxDepth [] [token]).run.run
      { table, steps := 0 } = (.ok value, { table, steps := 1 }) := by
    cases limits.maxDepth with
    | zero =>
        rw [runNested, runProgram, Run.run_bind, gives.execute _ _ allowed]
        rfl
    | succ depth =>
        rw [runNested, runProgram, Run.run_bind, gives.execute _ _ allowed]
        rfl
  rw [Evaluation.run, nested]

end Evaluation

namespace Interpreter

variable {engine : Pattern.Engine} {interpreter : Interpreter}

/-- A line that is an expression of one token gives the value of the token, and changes no
binding. -/
theorem evaluate_of_gives (allowed : 1 ≤ interpreter.limits.maxSteps) {line : String}
    {token : Token} {value : Value} (isExpression : Statement.ofLine line = .expression line)
    (compiled : interpreter.compile line = .ok [token]) (gives : Evaluation.Gives token value) :
    interpreter.evaluate engine line = (.ok value, { interpreter with lastError := none }) := by
  have ran : interpreter.run engine [token] = (.ok value, interpreter) := by
    rw [run, gives.run engine allowed]
  rw [evaluate, isExpression, perform, evaluateExpression, compiled]
  dsimp only
  rw [ran]
  rfl

/-- A line that spells a string gives it, and changes no binding. -/
theorem evaluate_of_writes (allowed : 1 ≤ interpreter.limits.maxSteps) {quote : Char}
    {text : String} {write : Char → List Char} (isQuote : IsQuote quote)
    (writes : ∀ c ∈ text.toList, Glyph.Writes quote c (write c)) :
    interpreter.evaluate engine
        (String.ofList (quote :: (text.toList.flatMap write ++ [quote]))) =
      (.ok (.string text), { interpreter with lastError := none }) := by
  have spells := spells_string_of_writes isQuote writes
  rw [String.ofList_toList] at spells
  refine evaluate_of_gives allowed (Statement.ofLine_of_ends ?_ ?_ ?_ ?_)
    (convert_of_spells spells rfl) fun _ _ => rfl
  all_goals rcases isQuote with rfl | rfl <;> decide

/-- The literal of a string gives the string, and so does the quoted form in which the listing of
variables shows it, if that form escapes no character as its code point. -/
theorem evaluate_stringLiteral (engine : Pattern.Engine) (color : Bool) (interpreter : Interpreter)
    (allowed : 1 ≤ interpreter.limits.maxSteps) :
    (∀ (quote : Char) (text : String), IsQuote quote →
      interpreter.evaluate engine (Text.stringLiteral quote text) =
        (.ok (.string text), { interpreter with lastError := none })) ∧
      ∃ shown : List String,
        (Session.line engine color "/vars" interpreter).1.out =
          Text.unlines (interpreter.visibleVariables.zipWith (fun entry text =>
            entry.1 ++ " = " ++ text) shown) ∧
        List.Forall₂ (fun entry shownText => ∀ text, entry.2 = .string text →
            Text.AvoidsCodePoints text → interpreter.evaluate engine shownText =
              (.ok (.string text), { interpreter with lastError := none }))
          interpreter.visibleVariables shown := by
  refine ⟨fun quote text isQuote => ?_, interpreter.visibleVariables.map fun entry =>
    entry.2.listing, ?_, ?_⟩
  · exact evaluate_of_writes allowed isQuote fun c _ => Glyph.writes_escapeFor isQuote c
  · rw [List.zipWith_map_right, List.zipWith_self]
    rfl
  · rw [List.forall₂_map_right_iff, List.forall₂_same]
    rintro ⟨name, value⟩ - text rfl avoids
    exact evaluate_of_writes allowed (Or.inl rfl) fun c member =>
      Glyph.writes_quoteChar (avoids c member)

/-- An interpreter with a variable whose text has quotation marks, a backslash and a line feed. -/
def withMarkedText : Interpreter :=
  { initial with
    table := { SymbolTable.initial with globals := [("s", .string "\"\\\n\"")] } }

theorem evaluate_stringLiteral_markedText :
    let engine : Pattern.Engine := fun _ _ => .error "none"
    let answer (text : String) : Except Error Value × Interpreter :=
      (.ok (.string text), { withMarkedText with lastError := none })
    withMarkedText.evaluate engine "'it\\'s = \\\\;'" = answer "it's = \\;" ∧
      ∃ shown, (Session.line engine false "/vars" withMarkedText).1.out =
          Text.unlines ["s = " ++ shown] ∧
        withMarkedText.evaluate engine shown = answer "\"\\\n\"" := by
  intro engine answer
  have allowed : 1 ≤ withMarkedText.limits.maxSteps := by decide
  have avoids : Text.AvoidsCodePoints "\"\\\n\"" := by
    intro c member
    have isText : "\"\\\n\"".toList = ['"', '\\', '\n', '"'] := by decide
    simp only [isText, List.mem_cons, List.not_mem_nil, or_false] at member
    rcases member with rfl | rfl | rfl | rfl <;> decide
  have isLiteral : Text.stringLiteral '\x27' "it's = \\;" = "'it\\'s = \\\\;'" := by decide
  have isVisible : withMarkedText.visibleVariables = [("s", .string "\"\\\n\"")] := rfl
  obtain ⟨literals, shown, printed, back⟩ :=
    evaluate_stringLiteral engine false withMarkedText allowed
  have read := literals '\x27' "it's = \\;" (Or.inr rfl)
  rw [isLiteral] at read
  rw [isVisible] at printed back
  cases back with
  | cons first others =>
      cases others
      exact ⟨read, _, printed, first _ rfl avoids⟩

end Interpreter

end Calculator
