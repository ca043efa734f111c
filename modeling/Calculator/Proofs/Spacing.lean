import Calculator.Proofs.DelimitedParts

/-!
# Blanks between lexemes

Blanks separate lexemes and mean nothing else.  Every lexeme is read from its own characters, and
where the reader looks at the characters that follow, to decide whether the lexeme ends there, a
blank ends it.  The main statement is that an expression keeps its program when any blanks are
inserted before any of its lexemes or at its end.
-/

namespace Calculator

section Blanks

variable {rest other : List Char}

theorem AgreesUntilSeparator.of_blanks (areBlanks : ∀ c ∈ other, Text.isBlank c = true)
    (rest : List Char) : AgreesUntilSeparator rest other := by
  cases other with
  | nil => exact .ended rest
  | cons c later => exact .separated (Or.inl (areBlanks c List.mem_cons_self)) rest later

theorem AgreesUntilSeparator.append (agrees : AgreesUntilSeparator rest other) (taken : List Char) :
    AgreesUntilSeparator (taken ++ rest) (taken ++ other) := by
  induction taken with
  | nil => exact agrees
  | cons c later ih => exact .cons c ih

/-- A run of blanks put among blanks leaves only blanks. -/
theorem forall_isBlank_insert {before run after : List Char}
    (around : ∀ c ∈ before ++ after, Text.isBlank c = true)
    (areBlanks : ∀ c ∈ run, Text.isBlank c = true) :
    ∀ c ∈ before ++ (run ++ after), Text.isBlank c = true := by
  obtain ⟨left, right⟩ := List.forall_mem_append.mp around
  exact List.forall_mem_append.mpr ⟨left, List.forall_mem_append.mpr ⟨areBlanks, right⟩⟩

end Blanks

namespace Conversion

/-- A second text is the rest of an expression with blanks inserted before each of its lexemes and
at its end, as a pass that stands in a state before that rest reads them.  There is one run of
blanks for each place, perhaps an empty one, and it may stand anywhere among the blanks that are
already there. -/
inductive Spaced (arity? : String → Option Nat) :
    Conversion → List (List Char) → List Char → List Char → Prop
  | ended {state : Conversion} {before run after : List Char}
      (read : Lexeme.next arity? state.mode (before ++ after) = .ok none)
      (areBlanks : ∀ c ∈ run, Text.isBlank c = true) :
      Spaced arity? state [run] (before ++ after) (before ++ (run ++ after))
  | lexeme {state next : Conversion} {lexeme : Lexeme}
      {before run after taken rest spaced : List Char} {runs : List (List Char)}
      (read : Lexeme.next arity? state.mode ((before ++ after) ++ (taken ++ rest)) =
        .ok (some (lexeme, taken ++ rest, rest)))
      (accepted : state.accept arity? lexeme (taken ++ rest) rest = .ok next)
      (areBlanks : ∀ c ∈ run, Text.isBlank c = true)
      (later : Spaced arity? next runs rest spaced) :
      Spaced arity? state (run :: runs) ((before ++ after) ++ (taken ++ rest))
        ((before ++ (run ++ after)) ++ (taken ++ spaced))

section Passes

variable {arity? : String → Option Nat} {state : Conversion} {chars spaced : List Char}
  {runs : List (List Char)}

/-- Blanks can be inserted at every place. -/
theorem exists_spaced_of_run (tidy : state.Tidy) {program : Program}
    (converted : state.run arity? chars = .ok program) :
    ∃ lexemes, Lexeme.lexemesOf arity? state.mode chars = .ok lexemes ∧
      ∀ runs : List (List Char), runs.length = lexemes.length + 1 →
        (∀ run ∈ runs, ∀ c ∈ run, Text.isBlank c = true) →
          ∃ spaced, Spaced arity? state runs chars spaced := by
  fun_induction run arity? state chars with
  | case1 state chars error read => cases converted
  | case2 state chars read =>
      refine ⟨[], Lexeme.lexemesOf_of_next_none read, fun runs count areBlanks => ?_⟩
      obtain ⟨run, rfl⟩ := List.length_eq_one_iff.mp count
      exact ⟨_, @Spaced.ended _ _ [] run chars read (areBlanks run List.mem_cons_self)⟩
  | case3 state chars lexeme source rest read error refused => cases converted
  | case4 state chars lexeme source rest read next accepted ih =>
      obtain ⟨nextTidy, nextMode⟩ := accept_mode tidy accepted
      obtain ⟨lexemes, isRest, laterSpaced⟩ := ih nextTidy converted
      refine ⟨lexeme :: lexemes, ?_, fun runs count areBlanks => ?_⟩
      · rw [Lexeme.lexemesOf_of_next read, ← nextMode, isRest]
        rfl
      · obtain ⟨run, runs, rfl⟩ := List.exists_cons_of_length_eq_add_one count
        obtain ⟨first, others⟩ := List.forall_mem_cons.mp areBlanks
        obtain ⟨spaced, later⟩ := laterSpaced runs (Nat.succ.inj count) others
        obtain ⟨blanks, taken, rfl, rfl⟩ := Lexeme.exists_taken_of_next read
        rw [← List.append_nil blanks] at read ⊢
        exact ⟨_, .lexeme read accepted first later⟩

/-- A spaced text differs from the text only after blanks. -/
theorem Spaced.agrees (related : Spaced arity? state runs chars spaced) :
    AgreesUntilSeparator chars spaced := by
  induction related with
  | ended read areBlanks =>
      exact .of_blanks (forall_isBlank_insert (Lexeme.isBlank_of_next_none read) areBlanks) _
  | @lexeme state next lexeme before run after taken rest spaced runs read accepted areBlanks later
      ih =>
      have around := (Lexeme.exists_readAt_of_next read).1
      cases gap : before ++ (run ++ after) with
      | nil =>
          obtain ⟨rfl, rfl, rfl⟩ : before = [] ∧ run = [] ∧ after = [] := by simpa using gap
          exact ih.append taken
      | cons c others =>
          have areAll := forall_isBlank_insert around areBlanks
          rw [gap] at areAll
          exact .separated (Or.inl (areAll c List.mem_cons_self)) _ _

theorem Spaced.lexemesOf (related : Spaced arity? state runs chars spaced) (tidy : state.Tidy) :
    Lexeme.lexemesOf arity? state.mode spaced = Lexeme.lexemesOf arity? state.mode chars := by
  induction related with
  | @ended state before run after read areBlanks =>
      have areAll := forall_isBlank_insert (Lexeme.isBlank_of_next_none read) areBlanks
      have readAgain : Lexeme.next arity? state.mode (before ++ (run ++ after)) = .ok none :=
        Lexeme.next_eq_none_of_forall_isBlank areAll
      rw [Lexeme.lexemesOf_of_next_none read, Lexeme.lexemesOf_of_next_none readAgain]
  | @lexeme state next lexeme before run after taken rest spaced runs read accepted areBlanks later
      ih =>
      obtain ⟨nextTidy, nextMode⟩ := accept_mode tidy accepted
      have areAll := forall_isBlank_insert (Lexeme.exists_readAt_of_next read).1 areBlanks
      have readAgain := Lexeme.next_of_taken read areAll
        (Lexeme.endsBefore_of_agrees later.agrees lexeme)
      rw [Lexeme.lexemesOf_of_next read, Lexeme.lexemesOf_of_next readAgain, ← nextMode,
        ih nextTidy]

end Passes

/-- An expression keeps its program when blanks are inserted between its lexemes and at its ends,
whatever blanks, and wherever. -/
theorem convert_of_spaced {arity? : String → Option Nat} {source : String} {program : Program}
    (converted : convert arity? source = .ok program) :
    (∃ lexemes, Lexeme.lexemesOf arity? LexMode.initial source.toList = .ok lexemes ∧
      ∀ runs : List (List Char), runs.length = lexemes.length + 1 →
        (∀ run ∈ runs, ∀ c ∈ run, Text.isBlank c = true) →
          ∃ spaced : String, Spaced arity? start runs source.toList spaced.toList) ∧
      ∀ (runs : List (List Char)) (spaced : String),
        Spaced arity? start runs source.toList spaced.toList →
          convert arity? spaced = .ok program := by
  constructor
  · obtain ⟨lexemes, isSource, exist⟩ := exists_spaced_of_run start_tidy converted
    refine ⟨lexemes, isSource, fun runs count areBlanks => ?_⟩
    obtain ⟨spaced, related⟩ := exist runs count areBlanks
    exact ⟨String.ofList spaced, by rwa [String.toList_ofList]⟩
  · intro runs spaced related
    obtain ⟨tree, lexemes, written, isProgram, sequenced, -⟩ :=
      exists_writtenAs_of_convert converted
    have sameLexemes := related.lexemesOf start_tidy
    rw [← isProgram]
    exact written.convert (sameLexemes.trans sequenced)

/-- Blanks of several kinds in a call.  Without them the number is followed by a letter and a sign
as in an exponent. -/
theorem convert_of_spaced_call :
    let arity? : String → Option Nat := fun name => if name = "f" then some 1 else none
    let program : Program := [.number 2, .var "e", .op (.binary .multiply), .var "x",
      .op (.binary .add), .call "f" 1, .var "y", .op (.binary .lessEqual)]
    convert arity? "f(2e+x)<=y" = .ok program ∧
      convert arity? "\tf( 2 e\u2003+ x)\n<=\u00a0y " = .ok program := by
  intro arity? program
  have converted : convert arity? "f(2e+x)<=y" = .ok program := by with_unfolding_all rfl
  have isSource : "f(2e+x)<=y".toList =
      ['f', '(', '2', 'e', '+', 'x', ')', '<', '=', 'y'] := by decide
  have isSpaced : "\tf( 2 e\u2003+ x)\n<=\u00a0y ".toList =
      ['\t', 'f', '(', ' ', '2', ' ', 'e', '\u2003', '+', ' ', 'x', ')', '\n', '<', '=', '\u00a0',
        'y', ' '] := by decide
  let runs : List (List Char) :=
    [['\t'], [' '], [' '], ['\u2003'], [' '], [], ['\n'], ['\u00a0'], [' ']]
  have single {c : Char} (blank : Text.isBlank c = true) : ∀ b ∈ [c], Text.isBlank b = true :=
    List.forall_mem_singleton.mpr blank
  have related : Spaced arity? start runs "f(2e+x)<=y".toList
      "\tf( 2 e\u2003+ x)\n<=\u00a0y ".toList := by
    rw [isSource, isSpaced]
    refine @Spaced.lexeme _ _ _ _ [] _ [] ['f', '('] _ _ _ rfl rfl (single rfl) ?_
    refine @Spaced.lexeme _ _ _ _ [] _ [] ['2'] _ _ _ rfl rfl (single rfl) ?_
    refine @Spaced.lexeme _ _ _ _ [] _ [] ['e'] _ _ _ rfl rfl (single rfl) ?_
    refine @Spaced.lexeme _ _ _ _ [] _ [] ['+'] _ _ _ rfl rfl (single rfl) ?_
    refine @Spaced.lexeme _ _ _ _ [] _ [] ['x'] _ _ _ rfl rfl (single rfl) ?_
    refine @Spaced.lexeme _ _ _ _ [] _ [] [')'] _ _ _ rfl rfl nofun ?_
    refine @Spaced.lexeme _ _ _ _ [] _ [] ['<', '='] _ _ _ rfl rfl (single rfl) ?_
    refine @Spaced.lexeme _ _ _ _ [] _ [] ['y'] _ _ _ rfl rfl (single rfl) ?_
    exact @Spaced.ended _ _ [] _ [] rfl (single rfl)
  exact ⟨converted, (convert_of_spaced converted).2 runs _ related⟩

end Conversion

end Calculator
