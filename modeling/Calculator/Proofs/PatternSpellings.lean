import Calculator.Interpreter
import Calculator.Proofs.MatchOperands
import Calculator.Proofs.SideBySide
import Calculator.Proofs.StringLiterals
import Mathlib.Data.List.TakeDrop

/-!
# The two spellings of a pattern

The operand of a match can be a regular expression between slashes, or a string whose text is one.
The first is cut at a slash without a backslash and loses the backslashes before slashes, and the
second is cut at its last slash and is compiled only when it is matched.  The main statement is that
both spellings of a pattern give the same result or error and the same captures, although the run
of the second one takes one step more before it can fail.
-/

namespace Calculator

/-- Every backslash of a pattern stands before a character other than a slash, which it escapes. -/
inductive PairsBackslashes : List Char → Prop
  | nil : PairsBackslashes []
  | plain {c : Char} {later : List Char} (notBackslash : c ≠ '\\')
      (pairs : PairsBackslashes later) : PairsBackslashes (c :: later)
  | pair {c : Char} {later : List Char} (notSlash : c ≠ '/') (pairs : PairsBackslashes later) :
      PairsBackslashes ('\\' :: c :: later)

/-- A pattern with a backslash before every slash. -/
def escapeSlashes (pattern : List Char) : List Char :=
  pattern.flatMap fun c => if c = '/' then ['\\', '/'] else [c]

/-- A pattern with flags as a regular expression between slashes. -/
def regexLiteral (pattern flags : String) : String :=
  String.ofList ('/' :: (escapeSlashes pattern.toList ++ '/' :: flags.toList))

/-- The text of a pattern with flags, which a string may hold. -/
def delimitedText (pattern flags : String) : String :=
  String.ofList ('/' :: (pattern.toList ++ '/' :: flags.toList))

section Literals

variable {pattern flags : String}

theorem escapeSlashes_cons (c : Char) (later : List Char) :
    escapeSlashes (c :: later) = (if c = '/' then ['\\', '/'] else [c]) ++ escapeSlashes later :=
  rfl

theorem PairsBackslashes.exists_glyphs {chars : List Char} (pairs : PairsBackslashes chars) :
    ∃ glyphs : List Glyph, (∀ glyph ∈ glyphs, glyph.FitsIn '/') ∧
      glyphChars glyphs = escapeSlashes chars ∧ glyphs.flatMap Glyph.source = chars := by
  induction pairs with
  | nil => exact ⟨[], nofun, rfl, rfl⟩
  | @plain c later notBackslash pairs ih =>
      obtain ⟨glyphs, fits, areWritten, areMeant⟩ := ih
      by_cases isSlash : c = '/'
      · refine ⟨.escaped c :: glyphs, List.forall_mem_cons.mpr ⟨trivial, fits⟩, ?_, ?_⟩
        · rw [glyphChars_cons, areWritten, escapeSlashes_cons,
            if_pos isSlash, isSlash]
          rfl
        · rw [List.flatMap_cons, areMeant, Glyph.source, if_pos isSlash]
          rfl
      · refine ⟨.plain c :: glyphs,
          List.forall_mem_cons.mpr ⟨⟨isSlash, notBackslash⟩, fits⟩, ?_, ?_⟩
        · rw [glyphChars_cons, areWritten, escapeSlashes_cons,
            if_neg isSlash]
          rfl
        · rw [List.flatMap_cons, areMeant]
          rfl
  | @pair c later notSlash pairs ih =>
      obtain ⟨glyphs, fits, areWritten, areMeant⟩ := ih
      refine ⟨.escaped c :: glyphs, List.forall_mem_cons.mpr ⟨trivial, fits⟩, ?_, ?_⟩
      · rw [glyphChars_cons, areWritten, escapeSlashes_cons,
          escapeSlashes_cons, if_neg notSlash]
        rfl
      · rw [List.flatMap_cons, areMeant, Glyph.source, if_neg notSlash]
        rfl

theorem spells_regexLiteral (pairs : PairsBackslashes pattern.toList)
    (letters : ∀ c ∈ flags.toList, c.isAlpha = true) :
    Spells (regexLiteral pattern flags).toList (.regex pattern flags) := by
  obtain ⟨glyphs, fits, areWritten, areMeant⟩ := pairs.exists_glyphs
  have spells := Spells.regex fits letters
  rw [areWritten, areMeant, String.ofList_toList, String.ofList_toList] at spells
  rw [regexLiteral, String.toList_ofList]
  exact spells

/-- A text is cut at the slash before its flags, because no flag is a slash. -/
theorem splitLastSlash?_append {source flags : List Char} (noSlash : '/' ∉ flags) :
    Pattern.splitLastSlash? (source ++ '/' :: flags) = some (source, flags) := by
  have reversed : (source ++ '/' :: flags).reverse = flags.reverse ++ '/' :: source.reverse := by
    simp
  have areFlags : ∀ c ∈ flags.reverse, (c != '/') = true := by
    intro c member
    rw [bne_iff_ne]
    rintro rfl
    exact noSlash (List.mem_reverse.mp member)
  have stops : ∀ c ∈ ('/' :: source.reverse).head?, (c != '/') = false := by
    rintro _ ⟨⟩
    rfl
  rw [Pattern.splitLastSlash?, reversed, List.span_eq_takeWhile_dropWhile,
    takeWhile_of_stop areFlags stops, dropWhile_of_stop areFlags stops]
  simp

/-- The text of a pattern is compiled as the pattern itself. -/
theorem compileDelimited_delimitedText (engine : Pattern.Engine)
    (letters : ∀ c ∈ flags.toList, c.isAlpha = true) :
    Pattern.compileDelimited engine (delimitedText pattern flags) =
      Pattern.compile engine pattern flags := by
  have noSlash : '/' ∉ flags.toList := by
    intro member
    cases letters '/' member
  rw [Pattern.compileDelimited, Pattern.splitDelimited?, delimitedText, String.toList_ofList]
  simp only [splitLastSlash?_append noSlash, Option.map_some, String.ofList_toList]

end Literals

namespace Evaluation

/-- The first machine may have counted more steps than the second one, but holds the same table. -/
def Trails (one other : Machine) : Prop :=
  one.table = other.table ∧ other.steps ≤ one.steps

theorem lockstep_trails : Lockstep Trails := by
  constructor
  · rintro one other ⟨same, -⟩ name
    rw [same]
  · rintro one other ⟨same, behind⟩ texts
    exact ⟨congrArg (SymbolTable.setCaptures texts) same, behind⟩
  · rintro one other - name function found arguments length token member later another ⟨same, -⟩
    rw [same]

section Runs

variable {engine : Pattern.Engine} {limits : Limits}

/-- Only the limit of steps tells a run that is ahead from another one. -/
def ExceedsSteps (limits : Limits) (error : Error) : Prop :=
  error = .stepLimit limits.maxSteps

theorem countStep_trails (limits : Limits) :
    Run.Relates Trails (ExceedsSteps limits) (countStep limits) (countStep limits) :=
  countStep_relates (fun _ _ together => ⟨together.1, Nat.succ_le_succ together.2⟩)
    fun _ _ together => Or.inr ⟨together.2, rfl⟩

theorem corresponds_trails (locals : Entries Value) (program : Program) :
    List.Forall₂ (Corresponds Trails locals locals) program program := by
  rw [List.forall₂_same]
  intro token _
  exact .same token fun one other together => by rw [together.1]

variable {context : Context} {locals : Entries Value}
  (contexts : Context.Relates (fun _ => True) Trails (ExceedsSteps context.limits) context context)

include contexts

theorem execute_trails (program : Program) (stack : List Operand) :
    Run.Relates Trails (ExceedsSteps context.limits) (execute context locals program stack)
      (execute context locals program stack) :=
  execute_relates lockstep_trails.within contexts (corresponds_trails locals program)
    (fun _ _ _ => trivial) stack

omit contexts in
/-- A string is compiled when it is matched, and then matched as the pattern. -/
theorem step_regexMatch_text (text : String) (stack : List Operand) :
    step context locals (.op (.binary .regexMatch)) (.value (.string text) :: stack) =
      lift ((Pattern.compileDelimited context.engine text).mapError .invalidRegex) >>=
        fun pattern =>
          step context locals (.op (.binary .regexMatch)) (.pattern pattern :: stack) := by
  simp only [step, pop, lift_ok, pure_bind, patternOf]

/-- A string is matched as the pattern that its text is.  If there is no such pattern, it fails one
step later. -/
theorem execute_patternText_trails {text source flags : String}
    (same : Pattern.compileDelimited context.engine text =
      Pattern.compile context.engine source flags) (later : Program) (stack : List Operand) :
    Run.Relates Trails (ExceedsSteps context.limits)
      (execute context locals (.string text :: .op (.binary .regexMatch) :: later) stack)
      (execute context locals (.regex source flags :: .op (.binary .regexMatch) :: later)
        stack) := by
  have matchesText :
      step context locals (.op (.binary .regexMatch)) (.value (.string text) :: stack) = _ :=
    step_regexMatch_text text stack
  rw [same] at matchesText
  rw [execute, execute]
  refine .bind contexts.counts fun _ => ?_
  rw [step, step, pure_bind, bind_assoc, execute]
  cases compiled : Pattern.compile context.engine source flags with
  | ok pattern =>
      rw [compiled, Except.mapError, lift_ok, pure_bind] at matchesText
      rw [Except.mapError, lift_ok, pure_bind, pure_bind, matchesText, ← execute]
      exact execute_trails contexts (.op (.binary .regexMatch) :: later) _
  | error fault =>
      rw [compiled, Except.mapError, lift_error] at matchesText
      rw [matchesText, Except.mapError, lift_error]
      refine countStep_relates_left (fun _ _ together => ?_) rfl (.throw _)
      exact ⟨together.1, Nat.le_succ_of_le together.2⟩

theorem runProgram_patternText_trails {text source flags : String}
    (same : Pattern.compileDelimited context.engine text =
      Pattern.compile context.engine source flags) (matched later : Program) :
    Run.Relates Trails (ExceedsSteps context.limits)
      (runProgram context locals
        (matched ++ .string text :: .op (.binary .regexMatch) :: later))
      (runProgram context locals
        (matched ++ .regex source flags :: .op (.binary .regexMatch) :: later)) := by
  rw [runProgram, runProgram, execute_append, execute_append]
  refine .bind ?_ fun stack => .lift _
  exact .bind (execute_trails contexts matched []) fun stack =>
    execute_patternText_trails contexts same later stack

omit contexts

variable {text source flags : String}

theorem runNested_patternText_trails
    (same : Pattern.compileDelimited engine text = Pattern.compile engine source flags)
    (matched later : Program) (depth : Nat) :
    Run.Relates Trails (ExceedsSteps limits)
      (runNested engine limits depth locals
        (matched ++ .string text :: .op (.binary .regexMatch) :: later))
      (runNested engine limits depth locals
        (matched ++ .regex source flags :: .op (.binary .regexMatch) :: later)) := by
  cases depth with
  | zero =>
      let context : Context := { engine, limits, userCall := none }
      have contexts : Context.Relates (fun _ => True) Trails (ExceedsSteps context.limits)
          context context := ⟨rfl, countStep_trails limits, Or.inl rfl⟩
      rw [runNested, runNested]
      exact runProgram_patternText_trails contexts same matched later
  | succ depth =>
      let userCall : UserFunction → List Value → Run Value := fun function arguments =>
        runNested engine limits depth (function.params.zip arguments) function.body
      let context : Context := { engine, limits, userCall := some userCall }
      have contexts : Context.Relates (fun _ => True) Trails (ExceedsSteps context.limits)
          context context := by
        refine ⟨rfl, countStep_trails limits, ?_⟩
        intro one other together name function _ found arguments length
        exact runNested_relates lockstep_trails (countStep_trails limits) (.refl limits depth)
          (lockstep_trails.within.body_corresponds together trivial found length)
      rw [runNested, runNested]
      exact runProgram_patternText_trails contexts same matched later

/-- In a program a pattern may be spelled in either way, if the string is not matched where the
steps run out. -/
theorem run_patternText
    (same : Pattern.compileDelimited engine text = Pattern.compile engine source flags)
    (matched later : Program) (table : SymbolTable)
    (unexhausted : (run engine limits
      (matched ++ .string text :: .op (.binary .regexMatch) :: later) table).1 ≠
        .error (.stepLimit limits.maxSteps)) :
    run engine limits (matched ++ .regex source flags :: .op (.binary .regexMatch) :: later) table =
      run engine limits (matched ++ .string text :: .op (.binary .regexMatch) :: later) table := by
  have related : Run.Relates Trails (ExceedsSteps limits)
      (runNested engine limits limits.maxDepth [] _) (runNested engine limits _ [] _) :=
    runNested_patternText_trails same matched later limits.maxDepth
  rcases related { table, steps := 0 } { table, steps := 0 } ⟨rfl, Nat.le_refl 0⟩ with
    ⟨error, isLimit, failed⟩ | ⟨sameOutcome, sameTable, -⟩
  · have isExhausted : error = .stepLimit limits.maxSteps := isLimit
    rw [isExhausted] at failed
    exact absurd failed unexhausted
  · exact Prod.ext sameOutcome.symm sameTable.symm

end Runs

end Evaluation

namespace Interpreter

theorem evaluateExpression_of_compile (engine : Pattern.Engine) {interpreter : Interpreter}
    {source : String} {program : Program} (compiled : interpreter.compile source = .ok program) :
    interpreter.evaluateExpression engine source = interpreter.run engine program := by
  rw [evaluateExpression, compiled]

/-- An expression with a match operator and a regular expression after it converts to the program of
the expression with the pattern and the operator before the operators that wait.  It is evaluated
as with a string literal of the same pattern, where the steps suffice for that. -/
theorem evaluateExpression_regexLiteral (engine : Pattern.Engine) (interpreter : Interpreter)
    {source : String} {program : Program} (compiled : interpreter.compile source = .ok program)
    {pattern flags literal : String} (pairs : PairsBackslashes pattern.toList)
    (letters : ∀ c ∈ flags.toList, c.isAlpha = true)
    (spells : Spells literal.toList (.string (delimitedText pattern flags))) :
    (∃ (lexemes : List Lexeme) (tree : Tree Leaf) (matched : Program),
      Lexeme.sequence interpreter.table.arity? source = .ok lexemes ∧
      tree.Grammatical interpreter.table.arity? ∧
      tree.lexemes = Lexeme.withProducts false lexemes ∧
      program = matched ++ tree.waiting.map (Token.op ∘ Op.binary) ∧
      interpreter.compile (source ++ " =~ " ++ regexLiteral pattern flags) =
        .ok (matched ++ .regex pattern flags :: .op (.binary .regexMatch) ::
          tree.waiting.map (Token.op ∘ Op.binary))) ∧
      ((interpreter.evaluateExpression engine (source ++ " =~ " ++ literal)).1 ≠
          .error (.stepLimit interpreter.limits.maxSteps) →
        interpreter.evaluateExpression engine (source ++ " =~ " ++ regexLiteral pattern flags) =
          interpreter.evaluateExpression engine (source ++ " =~ " ++ literal)) := by
  obtain ⟨lexemes, tree, matched, cut, grammatical, inOrder, isProgram, withOperand⟩ :=
    exists_convert_matchOperand compiled
  have regexCompiled : interpreter.compile (source ++ " =~ " ++ regexLiteral pattern flags) = _ :=
    withOperand _ _ (spells_regexLiteral pairs letters)
  have textCompiled : interpreter.compile (source ++ " =~ " ++ literal) = _ :=
    withOperand _ _ spells
  refine ⟨⟨lexemes, tree, matched, cut, grammatical, inOrder, isProgram, regexCompiled⟩, ?_⟩
  intro unexhausted
  have textRuns : interpreter.evaluateExpression engine (source ++ " =~ " ++ literal) = _ :=
    evaluateExpression_of_compile engine textCompiled
  rw [textRuns] at unexhausted ⊢
  have sameRun := Evaluation.run_patternText (compileDelimited_delimitedText engine letters)
    matched (tree.waiting.map (Token.op ∘ Op.binary)) interpreter.table unexhausted
  rw [evaluateExpression_of_compile engine regexCompiled]
  unfold run
  exact congrArg (fun outcome => (outcome.1, { interpreter with table := outcome.2 })) sameRun

/-- A subject, a pattern and a string literal in which slashes and backslashes are escaped. -/
theorem evaluateExpression_regexLiteral_slash :
    let engine : Pattern.Engine := fun _ _ => .ok fun subject => some [some subject]
    Interpreter.initial.compile "'a/b' =~ /a\\/\\./i" =
        .ok [.string "a/b", .regex "a/\\." "i", .op (.binary .regexMatch)] ∧
      (Interpreter.initial.evaluateExpression engine "'a/b' =~ \"/a/\\\\./i\"").1 =
        .ok (.number 1) ∧
      Interpreter.initial.evaluateExpression engine "'a/b' =~ /a\\/\\./i" =
        Interpreter.initial.evaluateExpression engine "'a/b' =~ \"/a/\\\\./i\"" := by
  intro engine
  have subjectCompiled : Interpreter.initial.compile "'a/b'" = .ok [.string "a/b"] := by
    with_unfolding_all rfl
  have compiled : Interpreter.initial.compile "'a/b' =~ /a\\/\\./i" =
      .ok [.string "a/b", .regex "a/\\." "i", .op (.binary .regexMatch)] := by
    with_unfolding_all rfl
  have ended : (Interpreter.initial.evaluateExpression engine "'a/b' =~ \"/a/\\\\./i\"").1 =
      .ok (.number 1) := by
    with_unfolding_all rfl
  have isPattern : "a/\\.".toList = ['a', '/', '\\', '.'] := by decide
  have pairs : PairsBackslashes "a/\\.".toList := by
    rw [isPattern]
    exact .plain (by decide) (.plain (by decide) (.pair (by decide) .nil))
  have isFlag : "i".toList = ['i'] := by decide
  have letters : ∀ c ∈ "i".toList, c.isAlpha = true := by
    rw [isFlag, List.forall_mem_singleton]
    rfl
  have isLiteral : "\"/a/\\\\./i\"" = Text.stringLiteral '"' (delimitedText "a/\\." "i") := by
    decide
  have spells : Spells "\"/a/\\\\./i\"".toList (.string (delimitedText "a/\\." "i")) := by
    rw [isLiteral]
    exact spells_stringLiteral (Or.inl rfl) _
  have isText : "'a/b' =~ \"/a/\\\\./i\"" = "'a/b'" ++ " =~ " ++ "\"/a/\\\\./i\"" := by decide
  have isRegex : "'a/b' =~ /a\\/\\./i" = "'a/b'" ++ " =~ " ++ regexLiteral "a/\\." "i" := by decide
  obtain ⟨-, same⟩ :=
    evaluateExpression_regexLiteral engine Interpreter.initial subjectCompiled pairs letters spells
  refine ⟨compiled, ended, ?_⟩
  rw [isText] at ended ⊢
  rw [isRegex]
  apply same
  rw [ended]
  exact nofun

end Interpreter

end Calculator
