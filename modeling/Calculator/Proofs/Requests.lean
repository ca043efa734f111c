import Calculator.Interpreter
import Calculator.Proofs.Definitions

/-!
# What an interpreter can be asked

An interpreter answers requests one after another.  A program that it has compiled may be run at
any later time, however functions were defined in between.  In every state that requests can lead
to, the interpreter can run the bodies of its functions and the programs that it compiled.  The
main statement is that no request ever fails with an internal error or for a function that does
not exist.
-/

namespace Calculator

/-- An error that is neither internal nor about a function that does not exist. -/
def Error.IsExpected (error : Error) : Prop :=
  error.category ≠ .internal ∧ ∀ name, error ≠ .undefinedFunction name

theorem Error.IsOrdinary.isExpected {error : Error} (ordinary : error.IsOrdinary) :
    error.IsExpected :=
  ⟨by rw [ordinary.1]; exact nofun, ordinary.2⟩

theorem Error.IsRefusal.isExpected {error : Error} (refusal : error.IsRefusal) :
    error.IsExpected := by
  rcases refusal with syntactic | ⟨name, given, expected, rfl⟩
  · refine ⟨by rw [syntactic]; exact nofun, fun name isUndefined => ?_⟩
    rw [isUndefined] at syntactic
    cases syntactic
  · exact ⟨nofun, nofun⟩

namespace SymbolTable

variable {table : SymbolTable}

theorem WellDefined.exists_bodyOf (wellDefined : table.WellDefined) :
    ∃ bodyOf, Evaluation.BodiesAre bodyOf table := by
  have body (function : UserFunction) :
      ∃ tree : Tree Leaf, table.Defines function → function.body = tree.program := by
    by_cases defined : table.Defines function
    · obtain ⟨tree, equal⟩ := (wellDefined function defined).isTree
      exact ⟨tree, fun _ => equal⟩
    · exact ⟨.leaf (.value .null), fun holds => absurd holds defined⟩
  exact ⟨fun function => (body function).choose, fun function => (body function).choose_spec⟩

theorem CanRun.meets {program : Program} (runs : table.CanRun program)
    (errors : Error → Prop) : Evaluation.Meets table errors program := by
  intro name count isCall unknown
  have known := runs.calls name count isCall
  rw [Knows, unknown] at known
  cases known

/-- A program that a table can run fails only with ordinary errors, and leaves the functions of the
table as they are. -/
theorem CanRun.run {program : Program} (runs : table.CanRun program)
    (wellDefined : table.WellDefined) (engine : Pattern.Engine) (limits : Limits) :
    FailsOnly Error.IsOrdinary (Evaluation.run engine limits program table).1 ∧
      (Evaluation.run engine limits program table).2.functions = table.functions ∧
      (Evaluation.run engine limits program table).2.hosts = table.hosts := by
  obtain ⟨bodyOf, bodies⟩ := wellDefined.exists_bodyOf
  obtain ⟨tree, rfl⟩ := runs.isTree
  have bodiesMeet : ∀ function, table.Defines function →
      Evaluation.Meets table Error.IsOrdinary (bodyOf function).program := by
    intro function defined
    have bodyRuns := wellDefined function defined
    rw [bodies function defined] at bodyRuns
    exact bodyRuns.meets _
  have kept : Run.Keeps (Machine.Serves table) Error.IsOrdinary
      (Evaluation.evaluateNested engine limits bodyOf limits.maxDepth [] tree) :=
    Evaluation.evaluateNested_keeps (fun _ ordinary => ordinary) bodiesMeet _ _ (runs.meets _)
  have agree : Run.Agree (Machine.Serves table)
      (Evaluation.runNested engine limits limits.maxDepth [] tree.program)
      (Evaluation.evaluateNested engine limits bodyOf limits.maxDepth [] tree) :=
    Evaluation.runNested_agree bodies limits.maxDepth [] tree
  obtain ⟨serves, fails⟩ := kept.of_agree agree { table, steps := 0 } ⟨rfl, rfl⟩
  exact ⟨fails, serves.1, serves.2⟩

end SymbolTable

namespace Interpreter

variable {α β : Type} {engine : Pattern.Engine} {interpreter : Interpreter}

/-- An outcome that has only expected errors and leaves an interpreter that can still run all that
it could run. -/
structure Answers (interpreter : Interpreter) (outcome : Except Error α × Interpreter) : Prop where
  fails : FailsOnly Error.IsExpected outcome.1
  grows : interpreter.table.Grows outcome.2.table
  wellDefined : outcome.2.table.WellDefined

theorem answers_unchanged {result : Except Error α}
    (wellDefined : interpreter.table.WellDefined) (fails : FailsOnly Error.IsExpected result) :
    interpreter.Answers (result, interpreter) :=
  ⟨fails, fun _ known => known, wellDefined⟩

theorem answers_update (wellDefined : interpreter.table.WellDefined)
    {outcome : Except Error SymbolTable} (fails : FailsOnly Error.IsExpected outcome)
    (changes : ∀ table, outcome = .ok table →
      interpreter.table.Grows table ∧ table.WellDefined) :
    interpreter.Answers (interpreter.update outcome) := by
  cases outcome with
  | error error => exact answers_unchanged wellDefined (.error (fails error rfl))
  | ok table =>
      obtain ⟨grows, newWellDefined⟩ := changes table rfl
      exact ⟨.ok _, grows, newWellDefined⟩

theorem answers_assign (wellDefined : interpreter.table.WellDefined) (name : String)
    (value : Value) : interpreter.Answers (interpreter.assign name value) :=
  answers_update wellDefined
    ((SymbolTable.assign_failsOnly name value _).mono fun _ ordinary => ordinary.isExpected)
    fun _ assigned => SymbolTable.assign_wellDefined wellDefined assigned

theorem answers_define (wellDefined : interpreter.table.WellDefined) (name : String)
    (params : List String) (body : String) :
    interpreter.Answers (interpreter.define name params body) := by
  refine answers_update wellDefined ?_
    fun _ defined => SymbolTable.define_wellDefined wellDefined defined
  refine (SymbolTable.define_failsOnly name params body _).mono fun error cause => ?_
  exact cause.elim Error.IsOrdinary.isExpected Error.IsRefusal.isExpected

theorem answers_registerHost (wellDefined : interpreter.table.WellDefined) (name : String)
    (function : HostFunction) : interpreter.Answers (interpreter.registerHost name function) :=
  answers_update wellDefined
    ((SymbolTable.registerHost_failsOnly name function _).mono
      fun _ ordinary => ordinary.isExpected)
    fun _ registered => SymbolTable.registerHost_wellDefined wellDefined registered

theorem compile_failsOnly (interpreter : Interpreter) (source : String) :
    FailsOnly Error.IsRefusal (interpreter.compile source) :=
  Conversion.convert_failsOnly _ source

theorem run_failsOnly {program : Program} (wellDefined : interpreter.table.WellDefined)
    (runs : interpreter.table.CanRun program) :
    FailsOnly Error.IsOrdinary (interpreter.run engine program).1 :=
  (runs.run wellDefined engine interpreter.limits).1

theorem answers_run {program : Program} (wellDefined : interpreter.table.WellDefined)
    (runs : interpreter.table.CanRun program) :
    interpreter.Answers (interpreter.run engine program) := by
  obtain ⟨fails, functions, hosts⟩ := runs.run wellDefined engine interpreter.limits
  have grows := SymbolTable.grows_of_same functions hosts
  exact ⟨fails.mono fun _ ordinary => ordinary.isExpected, grows,
    wellDefined.of_same grows functions⟩

theorem answers_evaluateExpression (wellDefined : interpreter.table.WellDefined)
    (source : String) : interpreter.Answers (interpreter.evaluateExpression engine source) := by
  unfold evaluateExpression
  split
  · next failed =>
    exact answers_unchanged wellDefined
      (.error (compile_failsOnly interpreter source _ failed).isExpected)
  · next compiled => exact answers_run wellDefined (SymbolTable.canRun_of_convert compiled)

theorem Answers.map {outcome : Except Error α × Interpreter} (answers : interpreter.Answers outcome)
    (change : α → β) : interpreter.Answers (outcome.1.map change, outcome.2) :=
  ⟨answers.fails.map change, answers.grows, answers.wellDefined⟩

/-- An assignment evaluates its expression, and assigns the value if there is one. -/
theorem perform_assign_cases (engine : Pattern.Engine) (interpreter : Interpreter)
    (name source : String) :
    (∃ error after, interpreter.evaluateExpression engine source = (.error error, after) ∧
      interpreter.perform engine (.assign name source) = (.error error, after)) ∨
    ∃ value after, interpreter.evaluateExpression engine source = (.ok value, after) ∧
      interpreter.perform engine (.assign name source) =
        ((after.assign name value).1.map fun _ => value, (after.assign name value).2) := by
  unfold perform
  cases evaluated : interpreter.evaluateExpression engine source with
  | mk outcome after =>
      cases outcome with
      | error error => exact Or.inl ⟨error, after, rfl, by simp only [evaluated]⟩
      | ok value => exact Or.inr ⟨value, after, rfl, by simp only [evaluated]⟩

theorem answers_perform (wellDefined : interpreter.table.WellDefined) (statement : Statement) :
    interpreter.Answers (interpreter.perform engine statement) := by
  cases statement with
  | expression source => exact answers_evaluateExpression wellDefined source
  | define name params body => exact (answers_define wellDefined name params body).map _
  | assign name source =>
      have evaluated : interpreter.Answers (interpreter.evaluateExpression engine source) :=
        answers_evaluateExpression wellDefined source
      rcases perform_assign_cases engine interpreter name source with
        ⟨error, after, outcome, performed⟩ | ⟨value, after, outcome, performed⟩
      · rw [outcome] at evaluated
        rw [performed]
        exact ⟨.error (evaluated.fails _ rfl), evaluated.grows, evaluated.wellDefined⟩
      · rw [outcome] at evaluated
        rw [performed]
        have assigned := (answers_assign evaluated.wellDefined name value).map fun _ => value
        exact ⟨assigned.fails,
          fun called known => assigned.grows called (evaluated.grows called known),
          assigned.wellDefined⟩

theorem answers_evaluate (wellDefined : interpreter.table.WellDefined) (line : String) :
    interpreter.Answers (interpreter.evaluate engine line) := by
  have performed : interpreter.Answers (interpreter.perform engine (Statement.ofLine line)) :=
    answers_perform wellDefined _
  unfold evaluate
  exact ⟨performed.fails, performed.grows, performed.wellDefined⟩

end Interpreter

/-- What can be asked of an interpreter. -/
inductive Request
  | evaluate (line : String)
  | compile (source : String)
  | assign (name : String) (value : Value)
  | define (name : String) (params : List String) (body : String)
  | registerHost (name : String) (function : HostFunction)
  | setLimits (limits : Limits)
  | run (program : Program)

namespace Request

/-- The error of an outcome, if it is one, and the interpreter that it leaves. -/
def report {α : Type} (outcome : Except Error α × Interpreter) : Option Error × Interpreter :=
  (Interpreter.errorOf? outcome.1, outcome.2)

/-- The error with which an interpreter answers a request, if there is one, and the interpreter
after it. -/
def serve (engine : Pattern.Engine) (request : Request) (interpreter : Interpreter) :
    Option Error × Interpreter :=
  match request with
  | evaluate line => report (interpreter.evaluate engine line)
  | compile source => report (interpreter.compile source, interpreter)
  | assign name value => report (interpreter.assign name value)
  | define name params body => report (interpreter.define name params body)
  | registerHost name function => report (interpreter.registerHost name function)
  | setLimits limits => (none, interpreter.setLimits limits)
  | run program => report (interpreter.run engine program)

/-- The programs that the answer to a request holds. -/
def programs (request : Request) (interpreter : Interpreter) : List Program :=
  match request with
  | compile source => (interpreter.compile source).toOption.toList
  | _ => []

/-- Only programs that were compiled before can be run. -/
def Admissible (request : Request) (compiled : List Program) : Prop :=
  ∀ program, request = run program → program ∈ compiled

end Request

/-- The interpreters that requests can lead to, each with the programs that were compiled so far. -/
inductive Reachable (engine : Pattern.Engine) : Interpreter → List Program → Prop
  | initial : Reachable engine Interpreter.initial []
  | serve {interpreter : Interpreter} {compiled : List Program}
      (earlier : Reachable engine interpreter compiled) (request : Request)
      (admissible : request.Admissible compiled) :
      Reachable engine (request.serve engine interpreter).2
        (request.programs interpreter ++ compiled)

/-- The interpreter can run all that was compiled and all that was defined. -/
structure Interpreter.Sound (interpreter : Interpreter) (compiled : List Program) : Prop where
  wellDefined : interpreter.table.WellDefined
  runnable : ∀ program ∈ compiled, interpreter.table.CanRun program

section Soundness

variable {engine : Pattern.Engine} {interpreter : Interpreter} {compiled : List Program}
  {request : Request}

theorem Interpreter.errorOf?_eq_some {α : Type} {outcome : Except Error α} {error : Error} :
    Interpreter.errorOf? outcome = some error ↔ outcome = .error error := by
  cases outcome with
  | ok result => exact ⟨nofun, nofun⟩
  | error cause => simp [errorOf?]

/-- A reply that has only expected errors and leaves an interpreter that can still run all that it
could run. -/
structure Interpreter.Replies (interpreter : Interpreter) (reply : Option Error × Interpreter) :
    Prop where
  expected : ∀ error, reply.1 = some error → error.IsExpected
  grows : interpreter.table.Grows reply.2.table
  wellDefined : reply.2.table.WellDefined

theorem Interpreter.Answers.report {α : Type} {outcome : Except Error α × Interpreter}
    (answers : interpreter.Answers outcome) : interpreter.Replies (Request.report outcome) :=
  ⟨fun error failed => answers.fails error (errorOf?_eq_some.mp failed), answers.grows,
    answers.wellDefined⟩

theorem Interpreter.Sound.replies (sound : interpreter.Sound compiled)
    (admissible : request.Admissible compiled) :
    interpreter.Replies (request.serve engine interpreter) := by
  have wellDefined := sound.wellDefined
  cases request with
  | evaluate line => exact (answers_evaluate wellDefined line).report
  | compile source =>
      have fails := (interpreter.compile_failsOnly source).mono fun _ refusal => refusal.isExpected
      exact (answers_unchanged wellDefined fails).report
  | assign name value => exact (answers_assign wellDefined name value).report
  | define name params body => exact (answers_define wellDefined name params body).report
  | registerHost name function =>
      exact (answers_registerHost wellDefined name function).report
  | setLimits limits => exact ⟨nofun, fun _ known => known, wellDefined⟩
  | run program =>
      exact (answers_run wellDefined (sound.runnable program (admissible program rfl))).report

theorem Request.canRun_of_mem_programs {program : Program}
    (isCompiled : program ∈ request.programs interpreter) : interpreter.table.CanRun program := by
  cases request with
  | compile source =>
      cases converted : interpreter.compile source with
      | ok produced =>
          rw [Request.programs, converted] at isCompiled
          cases List.mem_singleton.mp isCompiled
          exact SymbolTable.canRun_of_convert converted
      | error error =>
          rw [Request.programs, converted] at isCompiled
          cases isCompiled
  | _ => cases isCompiled

/-- A request keeps an interpreter sound, with what it compiles. -/
theorem Interpreter.Sound.serve (sound : interpreter.Sound compiled)
    (admissible : request.Admissible compiled) :
    (request.serve engine interpreter).2.Sound (request.programs interpreter ++ compiled) := by
  have replies : interpreter.Replies (request.serve engine interpreter) := sound.replies admissible
  refine ⟨replies.wellDefined, fun program member => ?_⟩
  -- A program may be older than functions that were defined again, but none of them was removed.
  rcases List.mem_append.mp member with isNew | isOld
  · exact (Request.canRun_of_mem_programs isNew).grows replies.grows
  · exact (sound.runnable program isOld).grows replies.grows

/-- Every interpreter that requests lead to is sound. -/
theorem Reachable.sound (reachable : Reachable engine interpreter compiled) :
    interpreter.Sound compiled := by
  induction reachable with
  | initial => exact ⟨SymbolTable.initial_wellDefined, fun _ member => nomatch member⟩
  | serve earlier request admissible ih => exact ih.serve admissible

/-- After any requests, no request fails with an internal error or for a function that does not
exist.  Compiling fails for the syntax or for a number of arguments, and running a compiled
program fails with a semantic error. -/
theorem error_of_reachable (reachable : Reachable engine interpreter compiled)
    (admissible : request.Admissible compiled) {error : Error}
    (failed : (request.serve engine interpreter).1 = some error) :
    error.category ≠ .internal ∧ (∀ name, error ≠ .undefinedFunction name) ∧
      (∀ source, request = .compile source →
        error.category = .syntactic ∨
          ∃ name given expected, error = .argumentCount name given expected) ∧
      ∀ program, request = .run program → error.category = .semantic := by
  have sound := reachable.sound
  obtain ⟨notInternal, notUndefined⟩ := (sound.replies admissible).expected error failed
  refine ⟨notInternal, notUndefined, ?_, ?_⟩
  · rintro source rfl
    exact interpreter.compile_failsOnly source error (Interpreter.errorOf?_eq_some.mp failed)
  · rintro program rfl
    have runs := sound.runnable program (admissible program rfl)
    have fails : FailsOnly Error.IsOrdinary (interpreter.run engine program).1 :=
      Interpreter.run_failsOnly sound.wellDefined runs
    exact (fails error (Interpreter.errorOf?_eq_some.mp failed)).1

theorem convert_variable (arity? : String → Option Nat) :
    convert arity? "a" = .ok [.var "a"] := by
  with_unfolding_all rfl

/-- An interpreter that may take no step, after it has compiled a variable. -/
theorem reachable_without_steps :
    Reachable (fun _ _ => .error "none")
      (Interpreter.initial.setLimits { maxDepth := 0, maxSteps := 0 }) [[.var "a"]] := by
  have limited : Reachable (fun _ _ => .error "none")
      (Interpreter.initial.setLimits { maxDepth := 0, maxSteps := 0 }) [] :=
    Reachable.initial.serve (.setLimits { maxDepth := 0, maxSteps := 0 }) nofun
  have compiled := limited.serve (.compile "a") nofun
  rw [Request.programs, Interpreter.compile, convert_variable] at compiled
  exact compiled

theorem error_of_reachable_stepLimit :
    (Error.stepLimit 0).category ≠ .internal ∧
      (∀ name, Error.stepLimit 0 ≠ .undefinedFunction name) ∧
      (∀ source, Request.run [.var "a"] = .compile source →
        (Error.stepLimit 0).category = .syntactic ∨
          ∃ name given expected, Error.stepLimit 0 = .argumentCount name given expected) ∧
      ∀ program, Request.run [.var "a"] = .run program →
        (Error.stepLimit 0).category = .semantic := by
  refine error_of_reachable reachable_without_steps ?_ rfl
  intro program isRun
  cases isRun
  exact List.mem_singleton.mpr rfl

end Soundness

end Calculator
