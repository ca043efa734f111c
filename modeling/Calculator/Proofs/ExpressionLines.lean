import Calculator.Interpreter
import Calculator.Proofs.EqualsSigns
import Calculator.Proofs.Spelling

/-!
# Expressions with equals signs

A line is cut at its first equals sign that stands alone, wherever it is.  An expression can have
such signs in strings, regular expressions and literals.  It is never taken for an assignment,
because a quotation mark, a slash or a bracket comes before the sign.  The main statement is that it
is evaluated as an expression exactly if what comes before the sign does not look like a name with a
list of parameters, as it can where a string is the argument of a function.
-/

namespace Calculator

namespace Text

variable {chars before after blanks : List Char} {isCut : Char → Bool} {c : Char}

/-- A text is cut at the first place that there is. -/
theorem splitFirst?_eq_some_iff :
    splitFirst? isCut chars = some (before, after) ↔
      (∀ c ∈ before, isCut c = false) ∧ ∃ c, isCut c = true ∧ chars = before ++ c :: after := by
  induction chars generalizing before with
  | nil => simp [splitFirst?]
  | cons first rest ih =>
      rw [splitFirst?]
      by_cases cuts : isCut first = true
      · rw [if_pos cuts]
        constructor
        · rintro ⟨⟩
          exact ⟨nofun, first, cuts, rfl⟩
        · rintro ⟨uncut, c, isPlace, split⟩
          cases before with
          | nil =>
              cases split
              rfl
          | cons earlier before =>
              cases split
              rw [uncut first List.mem_cons_self] at cuts
              cases cuts
      · rw [if_neg cuts, Option.map_eq_some_iff]
        constructor
        · rintro ⟨⟨middle, later⟩, found, ⟨⟩⟩
          obtain ⟨uncut, c, isPlace, split⟩ := ih.mp found
          refine ⟨List.forall_mem_cons.mpr ⟨Bool.not_eq_true _ ▸ cuts, uncut⟩, c, isPlace, ?_⟩
          rw [split, List.cons_append]
        · rintro ⟨uncut, c, isPlace, split⟩
          cases before with
          | nil =>
              cases split
              exact absurd isPlace cuts
          | cons earlier before =>
              cases split
              exact ⟨(before, after), ih.mpr ⟨(List.forall_mem_cons.mp uncut).2, c, isPlace, rfl⟩,
                rfl⟩

theorem exists_dropTrailingBlanks_append (chars : List Char) :
    ∃ blanks, (∀ c ∈ blanks, isBlank c = true) ∧ dropTrailingBlanks chars ++ blanks = chars := by
  refine ⟨(chars.reverse.takeWhile isBlank).reverse, fun c member => ?_, ?_⟩
  · exact List.mem_takeWhile_imp (List.mem_reverse.mp member)
  · rw [dropTrailingBlanks, ← List.reverse_append, List.takeWhile_append_dropWhile,
      List.reverse_reverse]

theorem dropTrailingBlanks_append (solid : ∀ c ∈ chars, isBlank c = false)
    (areBlank : ∀ c ∈ blanks, isBlank c = true) : dropTrailingBlanks (chars ++ blanks) = chars := by
  have stops : chars.reverse.dropWhile isBlank = chars.reverse := by
    refine List.dropWhile_eq_self_iff.mpr fun nonempty => ?_
    rw [Bool.not_eq_true]
    exact solid _ (List.mem_reverse.mp (List.getElem_mem nonempty))
  rw [dropTrailingBlanks, List.reverse_append, List.dropWhile_append_of_pos, stops,
    List.reverse_reverse]
  exact fun c member => areBlank c (List.mem_reverse.mp member)

theorem mem_dropTrailingBlanks (member : c ∈ chars) (solid : isBlank c = false) :
    c ∈ dropTrailingBlanks chars := by
  obtain ⟨blanks, areBlank, split⟩ := exists_dropTrailingBlanks_append chars
  rw [← split] at member
  refine (List.mem_append.mp member).resolve_right fun inBlanks => ?_
  rw [areBlank c inBlanks] at solid
  cases solid

/-- Trimming removes nothing but blanks. -/
theorem mem_trimChars (member : c ∈ chars) (solid : isBlank c = false) : c ∈ trimChars chars := by
  have split : chars.takeWhile isBlank ++ chars.dropWhile isBlank = chars :=
    List.takeWhile_append_dropWhile
  rw [← split] at member
  refine mem_dropTrailingBlanks ((List.mem_append.mp member).resolve_left fun inBlanks => ?_) solid
  rw [List.mem_takeWhile_imp inBlanks] at solid
  cases solid

end Text

namespace Statement

/-- The characters with which a string, a regular expression or a literal begins. -/
def opensEnclosure (c : Char) : Bool :=
  c == '"' || c == '\x27' || c == '/' || c == '[' || c == '\x7b'

/-- Before the first equals sign that stands alone comes a name, perhaps blanks, and a text in
parentheses. -/
def ResemblesDefinition (line : List Char) : Prop :=
  ∃ before after name gap list, splitAssignment? none line = some (before, after) ∧
    isWord name = true ∧ (∀ c ∈ gap, Text.isBlank c = true) ∧
    Text.trimChars before = name ++ gap ++ '(' :: (list ++ [')'])

section Cutting

variable {chars before after : List Char} {previous : Option Char}

theorem forall_isNameChar_of_isWord {name : List Char} (word : isWord name = true) :
    ∀ c ∈ name, Text.isNameChar c = true :=
  List.all_eq_true.mp (Bool.and_eq_true_iff.mp word).2

theorem splitAssignment?_cons_of_ne {c : Char} (noEquals : c ≠ '=') (rest : List Char) :
    splitAssignment? previous (c :: rest) =
      (splitAssignment? (some c) rest).map fun (left, right) => (c :: left, right) := by
  rw [splitAssignment?, if_neg fun cut => noEquals cut.1]

theorem splitAssignment?_cons_of_not_isAssignment {c : Char} {rest : List Char}
    (joined : isAssignment previous rest.head? = false) :
    splitAssignment? previous (c :: rest) =
      (splitAssignment? (some c) rest).map fun (left, right) => (c :: left, right) := by
  rw [splitAssignment?, if_neg]
  rintro ⟨-, alone⟩
  rw [joined] at alone
  cases alone

theorem doubleSign?_cases {first second : Char} {op : BinaryOp}
    (isOperator : Lexeme.doubleSign? first (some second) = some op) :
    (first ≠ '=' ∧ second ≠ '=') ∨ (first = '=' ∧ (second = '=' ∨ second = '~')) ∨
      ((first = '!' ∨ first = '<' ∨ first = '>') ∧ second = '=') := by
  simp only [Lexeme.doubleSign?, Option.some.injEq] at isOperator
  grind

/-- No line is cut within an operator. -/
theorem splitAssignment?_operator {first second : Char} {op : BinaryOp}
    (isOperator : Lexeme.doubleSign? first (some second) = some op) (rest : List Char) :
    splitAssignment? previous (first :: second :: rest) =
      (splitAssignment? (some second) rest).map fun (left, right) =>
        (first :: second :: left, right) := by
  have both : splitAssignment? previous (first :: second :: rest) =
      ((splitAssignment? (some second) rest).map fun (left, right) =>
        (second :: left, right)).map fun (left, right) => (first :: left, right) := by
    rcases doubleSign?_cases isOperator with ⟨one, other⟩ | ⟨rfl, rfl | rfl⟩ | ⟨sign, rfl⟩
    · rw [splitAssignment?_cons_of_ne one, splitAssignment?_cons_of_ne other]
    · have joined : isAssignment (some '=') rest.head? = false := Bool.and_false _
      rw [splitAssignment?_cons_of_not_isAssignment rfl,
        splitAssignment?_cons_of_not_isAssignment joined]
    · rw [splitAssignment?_cons_of_not_isAssignment rfl,
        splitAssignment?_cons_of_ne (by decide : '~' ≠ '=')]
    · have noEquals : first ≠ '=' := by
        rcases sign with rfl | rfl | rfl <;> decide
      have joined : isAssignment (some first) rest.head? = false := by
        rcases sign with rfl | rfl | rfl <;> exact Bool.and_false _
      rw [splitAssignment?_cons_of_ne noEquals, splitAssignment?_cons_of_not_isAssignment joined]
  rw [both, Option.map_map]
  rfl

theorem exists_opensEnclosure_of_cons {c : Char} {rest : List Char}
    (opens : opensEnclosure c = true)
    (cut : splitAssignment? previous (c :: rest) = some (before, after)) :
    ∃ c ∈ before, opensEnclosure c = true := by
  have noEquals : c ≠ '=' := by
    rintro rfl
    cases opens
  rw [splitAssignment?_cons_of_ne noEquals] at cut
  obtain ⟨⟨left, right⟩, -, ⟨⟩⟩ := Option.map_eq_some_iff.mp cut
  exact ⟨c, List.mem_cons_self, opens⟩

/-- If a line is cut at an enclosed equals sign, what encloses the sign begins before the cut. -/
theorem EqualsEnclosed.exists_opensEnclosure (enclosed : EqualsEnclosed chars)
    (cut : splitAssignment? previous chars = some (before, after)) :
    ∃ c ∈ before, opensEnclosure c = true := by
  induction enclosed generalizing previous before with
  | nil => cases cut
  | plain noEquals noQuote later ih =>
      rw [splitAssignment?_cons_of_ne noEquals] at cut
      obtain ⟨⟨left, right⟩, laterCut, ⟨⟩⟩ := Option.map_eq_some_iff.mp cut
      obtain ⟨c, member, opens⟩ := ih laterCut
      exact ⟨c, List.mem_cons_of_mem _ member, opens⟩
  | operator isOperator later ih =>
      rw [splitAssignment?_operator isOperator] at cut
      obtain ⟨⟨left, right⟩, laterCut, ⟨⟩⟩ := Option.map_eq_some_iff.mp cut
      obtain ⟨c, member, opens⟩ := ih laterCut
      exact ⟨c, List.mem_cons_of_mem _ (List.mem_cons_of_mem _ member), opens⟩
  -- A line is not cut before a character that encloses something, whatever comes after it.
  | string isQuote read later ih =>
      refine exists_opensEnclosure_of_cons ?_ cut
      rcases isQuote with rfl | rfl <;> rfl
  | regex read later ih => exact exists_opensEnclosure_of_cons rfl cut
  | literal isBracket read later ih =>
      refine exists_opensEnclosure_of_cons ?_ cut
      rcases isBracket with rfl | rfl <;> rfl

theorem not_isBlank_of_opensEnclosure {c : Char} (opens : opensEnclosure c = true) :
    Text.isBlank c = false ∧ Text.isNameChar c = false := by
  simp only [opensEnclosure, Bool.or_eq_true, beq_iff_eq] at opens
  rcases opens with (((rfl | rfl) | rfl) | rfl) | rfl <;> exact ⟨by decide, by decide⟩

theorem EqualsEnclosed.not_isWord (enclosed : EqualsEnclosed chars)
    (cut : splitAssignment? previous chars = some (before, after)) :
    isWord (Text.trimChars before) = false := by
  obtain ⟨c, member, opens⟩ := enclosed.exists_opensEnclosure cut
  obtain ⟨notBlank, notNameChar⟩ := not_isBlank_of_opensEnclosure opens
  by_contra word
  have nameChar : Text.isNameChar c = true :=
    forall_isNameChar_of_isWord (Bool.not_eq_false _ ▸ word) c (Text.mem_trimChars member notBlank)
  rw [notNameChar] at nameChar
  cases nameChar

end Cutting

section Forms

variable {left chars : List Char}

theorem dropTrailingBlanks_append_of_isWord {name gap : List Char} (word : isWord name = true)
    (areBlank : ∀ c ∈ gap, Text.isBlank c = true) :
    Text.dropTrailingBlanks (name ++ gap) = name :=
  Text.dropTrailingBlanks_append
    (fun c member => Lexeme.not_isBlank_of_isNameChar (forall_isNameChar_of_isWord word c member))
    areBlank

/-- A word, blanks and a text in parentheses are read as a name and a list of parameters. -/
theorem signature?_append {name gap : List Char} (word : isWord name = true)
    (areBlank : ∀ c ∈ gap, Text.isBlank c = true) (list : List Char) :
    signature? (name ++ gap ++ '(' :: (list ++ [')'])) = some (name, parametersOf list) := by
  have ends : (name ++ gap ++ '(' :: (list ++ [')'])).reverse =
      ')' :: (name ++ gap ++ '(' :: list).reverse := by
    rw [← List.cons_append, ← List.append_assoc, List.reverse_append]
    rfl
  have cut : Text.splitFirst? (· == '(') (name ++ gap ++ '(' :: list) =
      some (name ++ gap, list) := by
    refine Text.splitFirst?_eq_some_iff.mpr ⟨fun c member => ?_, '(', rfl, rfl⟩
    rw [beq_eq_false_iff_ne]
    rintro rfl
    rcases List.mem_append.mp member with inName | inGap
    · cases forall_isNameChar_of_isWord word _ inName
    · cases areBlank _ inGap
  simp only [signature?, ends, List.reverse_reverse, cut,
    dropTrailingBlanks_append_of_isWord word areBlank, word, if_true]

/-- What stands before the equals sign of a definition. -/
theorem signature?_isSome_iff :
    (signature? left).isSome = true ↔
      ∃ name gap list, isWord name = true ∧ (∀ c ∈ gap, Text.isBlank c = true) ∧
        left = name ++ gap ++ '(' :: (list ++ [')']) := by
  constructor
  · intro isSome
    unfold signature? at isSome
    split at isSome
    · next reversed ends =>
      split at isSome
      · next head list cut =>
        dsimp only at isSome
        split at isSome
        · next word =>
          obtain ⟨-, c, isOpen, isHead⟩ := Text.splitFirst?_eq_some_iff.mp cut
          obtain ⟨gap, areBlank, split⟩ := Text.exists_dropTrailingBlanks_append head
          refine ⟨Text.dropTrailingBlanks head, gap, list, word, areBlank, ?_⟩
          have isLeft : left = reversed.reverse ++ [')'] := by
            rw [← List.reverse_reverse left, ends, List.reverse_cons]
          rw [isLeft, isHead, split, eq_of_beq isOpen, List.append_assoc, List.cons_append]
        · cases isSome
      · cases isSome
    · cases isSome
  · rintro ⟨name, gap, list, word, areBlank, rfl⟩
    rw [signature?_append word areBlank, Option.isSome_some]

/-- A line whose equals signs are enclosed is an expression, or it is a definition and resembles
one. -/
theorem ofChars_cases (enclosed : EqualsEnclosed chars) :
    (ofChars chars = .expression (String.ofList chars) ∧ ¬ResemblesDefinition chars) ∨
      ((∃ name params body, ofChars chars = .define name params body) ∧
        ResemblesDefinition chars) := by
  unfold ofChars
  cases cut : splitAssignment? none chars with
  | none =>
      refine Or.inl ⟨rfl, ?_⟩
      rintro ⟨before, after, name, gap, list, found, -⟩
      rw [cut] at found
      cases found
  | some parts =>
      obtain ⟨before, after⟩ := parts
      dsimp only
      rw [enclosed.not_isWord cut, if_neg Bool.false_ne_true]
      have resembles : ResemblesDefinition chars ↔
          (signature? (Text.trimChars before)).isSome = true := by
        rw [signature?_isSome_iff]
        constructor
        · rintro ⟨otherBefore, otherAfter, name, gap, list, found, form⟩
          rw [cut] at found
          cases found
          exact ⟨name, gap, list, form⟩
        · rintro ⟨name, gap, list, form⟩
          exact ⟨before, after, name, gap, list, cut, form⟩
      cases signed : signature? (Text.trimChars before) with
      | none =>
          refine Or.inl ⟨rfl, fun looks => ?_⟩
          rw [resembles, signed] at looks
          cases looks
      | some parts => exact Or.inr ⟨⟨_, _, _, rfl⟩, resembles.mpr (by rw [signed]; rfl)⟩

end Forms

end Statement

namespace Interpreter

open Statement

variable {engine : Pattern.Engine} {interpreter : Interpreter} {line : String}

/-- A line is evaluated as the expression that its text spells: it is no assignment and no
definition, and it has the result and leaves the bindings of converting the text and running the
program. -/
structure TakesAsExpression (engine : Pattern.Engine) (interpreter : Interpreter)
    (line : String) : Prop where
  notAssignment : ∀ name source, ofLine line ≠ .assign name source
  notDefinition : ∀ name params body, ofLine line ≠ .define name params body
  refused : ∀ error, interpreter.compile (String.ofList (normalize line)) = .error error →
    (interpreter.evaluate engine line).1 = .error error ∧
      (interpreter.evaluate engine line).2.table = interpreter.table
  evaluated : ∀ program, interpreter.compile (String.ofList (normalize line)) = .ok program →
    (interpreter.evaluate engine line).1 = (interpreter.run engine program).1 ∧
      (interpreter.evaluate engine line).2.table = (interpreter.run engine program).2.table

theorem takesAsExpression_of_ofLine
    (isExpression : ofLine line = .expression (String.ofList (normalize line))) :
    interpreter.TakesAsExpression engine line := by
  have performed : interpreter.perform engine (ofLine line) =
      interpreter.evaluateExpression engine (String.ofList (normalize line)) := by
    rw [isExpression]
    rfl
  constructor
  · intro name source isAssignment
    rw [isExpression] at isAssignment
    cases isAssignment
  · intro name params body isDefinition
    rw [isExpression] at isDefinition
    cases isDefinition
  · intro error failed
    rw [evaluate, performed, evaluateExpression, failed]
    exact ⟨rfl, rfl⟩
  · intro program compiled
    rw [evaluate, performed, evaluateExpression, compiled]
    exact ⟨rfl, rfl⟩

/-- A line whose equals signs are enclosed is no assignment, and it is evaluated as an expression
exactly if it does not resemble a definition. -/
theorem takesAsExpression_iff (enclosed : EqualsEnclosed (normalize line))
    (engine : Pattern.Engine) (interpreter : Interpreter) :
    (∀ name source, ofLine line ≠ .assign name source) ∧
      (interpreter.TakesAsExpression engine line ↔ ¬ResemblesDefinition (normalize line)) := by
  rcases ofChars_cases enclosed with
    ⟨isExpression, plain⟩ | ⟨⟨name, params, body, isDefinition⟩, looks⟩
  · have takes : interpreter.TakesAsExpression engine line :=
      takesAsExpression_of_ofLine isExpression
    exact ⟨takes.notAssignment, fun _ => plain, fun _ => takes⟩
  · refine ⟨fun other source isAssignment => ?_, fun takes => ?_, fun plain => absurd looks plain⟩
    · cases isDefinition.symm.trans isAssignment
    · exact absurd isDefinition (takes.notDefinition name params body)

theorem compile_quotedSign :
    Interpreter.initial.compile "\"a=b\" + c" =
      .ok [.string "a=b", .var "c", .op (.binary .add)] := by
  with_unfolding_all rfl

/-- The quoted text of this line begins before its equals sign, and no list of parameters ends
there. -/
theorem takesAsExpression_iff_quoted :
    EqualsEnclosed (normalize "\"a=b\" + c") ∧
      Interpreter.initial.TakesAsExpression (fun _ _ => .error "none") "\"a=b\" + c" := by
  have isText : normalize "\"a=b\" + c" = String.toList "\"a=b\" + c" := by decide
  have enclosed : EqualsEnclosed (normalize "\"a=b\" + c") := by
    rw [isText]
    exact equalsEnclosed_of_convert compile_quotedSign
  have plain : ¬ResemblesDefinition (normalize "\"a=b\" + c") := by
    rintro ⟨before, after, name, gap, list, cut, -, -, form⟩
    -- The text before the sign would have to end in a parenthesis.
    have isCut : splitAssignment? none (normalize "\"a=b\" + c") =
        some (['"', 'a'], ['b', '"', ' ', '+', ' ', 'c']) := by decide
    cases isCut.symm.trans cut
    have isLast : ['"', 'a'].getLast? = some ')' := by
      have trimmed : Text.trimChars ['"', 'a'] = ['"', 'a'] := by decide
      rw [← trimmed, form, ← List.cons_append, ← List.append_assoc, List.getLast?_concat]
    cases isLast
  exact ⟨enclosed, (takesAsExpression_iff enclosed _ Interpreter.initial).2.mpr plain⟩

/-- An interpreter with a function that gives its argument back. -/
def withIdentity : Interpreter :=
  { Interpreter.initial with
    table := { SymbolTable.initial with
      functions := [("f", { params := ["x"], body := [.var "x"] })] } }

theorem evaluate_identity (engine : Pattern.Engine) :
    Interpreter.initial.evaluate engine "f(x) = x" = (.ok (.boolean true), withIdentity) := by
  have isDefinition : ofLine "f(x) = x" = .define "f" ["x"] "x" := by decide
  have defined : SymbolTable.initial.define "f" ["x"] "x" = .ok withIdentity.table := by
    with_unfolding_all rfl
  simp only [evaluate, isDefinition, perform, Interpreter.define, Interpreter.initial, defined]
  rfl

theorem compile_identityCall :
    withIdentity.compile "f(\"a) = b\")" = .ok [.string "a) = b", .call "f" 1] := by
  with_unfolding_all rfl

/-- A call of that function with a quoted text that closes a parenthesis before an equals sign.  As
an expression the line gives the text, but it is taken for a definition. -/
theorem not_takesAsExpression_call :
    let engine : Pattern.Engine := fun _ _ => .error "none"
    let interpreter : Interpreter := (Interpreter.initial.evaluate engine "f(x) = x").2
    let line : String := "f(\"a) = b\")"
    let program : Program := [.string "a) = b", .call "f" 1]
    EqualsEnclosed (normalize line) ∧
      interpreter.compile (String.ofList (normalize line)) = .ok program ∧
      (interpreter.run engine program).1 = .ok (.string "a) = b") ∧
      (interpreter.evaluate engine line).1 = .error (.invalidName "\"a") ∧
      ¬interpreter.TakesAsExpression engine line := by
  intro engine interpreter line program
  have isInterpreter : interpreter = withIdentity := congrArg Prod.snd (evaluate_identity engine)
  have isText : normalize line = line.toList := by decide
  have compiled : withIdentity.compile line = .ok program := compile_identityCall
  have ran : (withIdentity.run engine program).1 = .ok (.string "a) = b") := by
    with_unfolding_all rfl
  have isDefinition : ofLine line = .define "f" ["\"a"] "b\")" := by decide
  have enclosed : EqualsEnclosed line.toList := equalsEnclosed_of_convert compiled
  rw [isText, isInterpreter, String.ofList_toList]
  refine ⟨enclosed, compiled, ran, ?_, fun takes => takes.notDefinition _ _ _ isDefinition⟩
  rw [evaluate, isDefinition]
  with_unfolding_all rfl

end Interpreter

end Calculator
