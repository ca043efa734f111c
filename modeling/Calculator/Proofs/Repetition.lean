import Calculator.Pattern.Standard
import Calculator.Proofs.Bindings
import Calculator.Proofs.Expansion

/-!
# Evaluating a line twice

A run writes captures, so that another run of its program starts from another table.  Where nothing
that runs reads a capture, the second run meets the same values as the first one, and writes what
the first one has written.  So both have the same outcome, and leave the same bindings.  Tables are
sorted, and then the same bindings are the same table.
-/

namespace Calculator

namespace Variables

/-- Captures that are written bind a name whatever it was bound to, or leave it alone. -/
theorem get?_setCaptures_written_or_kept (name : String) (index : Nat) (texts : List String) :
    (∃ value, ∀ globals, Entries.get? (setCaptures index texts globals) name = some value) ∨
      ∀ globals, Entries.get? (setCaptures index texts globals) name =
        Entries.get? globals name := by
  induction texts generalizing index with
  | nil => exact Or.inr fun _ => rfl
  | cons text later ih =>
      rcases ih (index + 1) with ⟨value, written⟩ | kept
      · exact Or.inl ⟨value, fun globals => written _⟩
      · by_cases isIndex : captureName index = name
        · refine Or.inl ⟨.string text, fun globals => ?_⟩
          rw [setCaptures, kept, setCapture, isIndex, Entries.get?_put_self]
        · refine Or.inr fun globals => ?_
          rw [setCaptures, kept, setCapture, Entries.get?_put_of_ne _ _ isIndex]

theorem sorted_setCaptures {globals : Variables} (sorted : Entries.Sorted globals) (index : Nat)
    (texts : List String) : Entries.Sorted (setCaptures index texts globals) := by
  induction texts generalizing index globals with
  | nil => exact sorted
  | cons text later ih =>
      exact ih (Entries.sorted_put sorted (captureName index) (.string text)) (index + 1)

end Variables

section Order

variable {older newer : SymbolTable}

theorem SymbolTable.Change.sorted (change : older.Change newer)
    (sorted : Entries.Sorted older.globals) : Entries.Sorted newer.globals := by
  cases change with
  | captures texts => exact Variables.sorted_setCaptures sorted 0 texts
  | assign name value assigned =>
      obtain ⟨-, -, -, rfl⟩ := assign_eq_ok assigned
      exact Entries.sorted_put sorted name value
  | define name params body defined =>
      obtain ⟨-, -, _, _, -, -, rfl⟩ := define_eq_ok defined
      exact sorted
  | registerHost name function registered =>
      obtain ⟨-, rfl⟩ := registerHost_eq_ok registered
      exact sorted

theorem SymbolTable.Changes.sorted (changes : older.Changes newer)
    (sorted : Entries.Sorted older.globals) : Entries.Sorted newer.globals := by
  induction changes with
  | refl => exact sorted
  | tail _ change ih => exact change.sorted ih

theorem Reachable.sorted {engine : Pattern.Engine} {interpreter : Interpreter}
    {compiled : List Program} (reachable : Reachable engine interpreter compiled) :
    Entries.Sorted interpreter.table.globals :=
  reachable.fromInitial.changes.sorted (Entries.sorted_ofList _)

end Order

namespace SymbolTable

/-- A program calls a function itself or through the bodies of other functions. -/
def Reaches (table : SymbolTable) (program : Program) (function : UserFunction) : Prop :=
  ∃ first, table.Calls program first ∧ Relation.ReflTransGen table.BodyCalls first function

/-- No capture is read by a program, nor by the body of a function that it reaches. -/
structure ReadsNoCaptures (table : SymbolTable) (program : Program) : Prop where
  itself : ∀ name, Token.capture name ∉ program
  bodies : ∀ function, table.Reaches program function →
    ∀ name, Token.capture name ∉ function.body

/-- A program reaches the function of a name, if that name means a defined function. -/
def ReachesName (table : SymbolTable) (program : Program) (name : String) : Prop :=
  ∀ function, table.function? name = some (.user function) → table.Reaches program function

variable {table : SymbolTable} {program : Program}

theorem eq_of_fields {one other : SymbolTable} (globals : one.globals = other.globals)
    (functions : one.functions = other.functions) (hosts : one.hosts = other.hosts) :
    one = other := by
  cases one
  simp_all

theorem Reaches.tail {caller function : UserFunction} (reaches : table.Reaches program caller)
    (calls : table.BodyCalls caller function) : table.Reaches program function := by
  obtain ⟨first, firstCalled, path⟩ := reaches
  exact ⟨first, firstCalled, path.tail calls⟩

theorem callsOnly_reachesName (table : SymbolTable) (program : Program) :
    Evaluation.CallsOnly (table.ReachesName program) program := by
  intro name count isCall function found
  exact ⟨function, ⟨_, isCall, callee?_call found⟩, .refl⟩

theorem Reaches.callsOnly {function : UserFunction} (reaches : table.Reaches program function) :
    Evaluation.CallsOnly (table.ReachesName program) function.body := by
  intro name count isCall callee found
  exact reaches.tail ⟨_, isCall, callee?_call found⟩

end SymbolTable

/-- A machine of the second run beside one of the first run, which has led from one table to
another.  What the first run has not written in the meantime is bound as before it and after it. -/
structure Machine.Repeats (before after : SymbolTable) (one other : Machine) : Prop where
  steps : one.steps = other.steps
  first : before.SameButCaptures one.table
  second : before.SameButCaptures other.table
  bindings : ∀ name, other.table.valueOf? name = one.table.valueOf? name ∨
    (one.table.valueOf? name = before.valueOf? name ∧
      other.table.valueOf? name = after.valueOf? name)

namespace Machine.Repeats

variable {before after : SymbolTable} {one other : Machine}

theorem start (same : before.SameButCaptures after) (steps : Nat) :
    Repeats before after { table := before, steps } { table := after, steps } :=
  ⟨rfl, .refl before, same, fun _ => Or.inr ⟨rfl, rfl⟩⟩

theorem function? (repeats : one.Repeats before after other) (name : String) :
    one.table.function? name = other.table.function? name :=
  (repeats.first.function? name).trans (repeats.second.function? name).symm

/-- Both runs write the same captures. -/
theorem setCaptures (repeats : Repeats before after one other) (texts : List String) :
    Repeats before after { one with table := one.table.setCaptures texts }
      { other with table := other.table.setCaptures texts } := by
  refine ⟨repeats.steps, repeats.first.setCaptures texts, repeats.second.setCaptures texts, ?_⟩
  intro name
  rcases Variables.get?_setCaptures_written_or_kept name 0 texts with ⟨value, written⟩ | kept
  · exact Or.inl ((written _).trans (written _).symm)
  · have oneKept : (one.table.setCaptures texts).valueOf? name = one.table.valueOf? name :=
      kept one.table.globals
    have otherKept : (other.table.setCaptures texts).valueOf? name = other.table.valueOf? name :=
      kept other.table.globals
    rw [oneKept, otherKept]
    exact repeats.bindings name

theorem reads?_eq (repeats : Repeats before after one other) {token : Token}
    (wellNamed : token.WellNamed) (noCapture : ∀ name, token ≠ .capture name)
    (locals : Entries Value) :
    token.reads? locals one.table = token.reads? locals other.table := by
  cases token with
  | var name =>
      have plain : Variables.isCapture name = false :=
        Variables.isCapture_of_isIdentifier wellNamed
      have sameValue : one.table.valueOf? name = other.table.valueOf? name :=
        (repeats.first.bindings name plain).trans (repeats.second.bindings name plain).symm
      rw [Token.reads?, Token.reads?, sameValue]
  | capture name => exact absurd rfl (noCapture name)
  | number | string | literal | value | regex | op | call | index => rfl

/-- When the first run has ended, every name is bound alike after both runs. -/
theorem valueOf?_eq (repeats : Repeats before one.table one other) (name : String) :
    other.table.valueOf? name = one.table.valueOf? name := by
  rcases repeats.bindings name with same | ⟨-, same⟩
  · exact same
  · exact same

theorem table_eq (repeats : Repeats before one.table one other)
    (oneSorted : Entries.Sorted one.table.globals)
    (otherSorted : Entries.Sorted other.table.globals) : other.table = one.table := by
  apply SymbolTable.eq_of_fields
  · exact Entries.ext_sorted otherSorted oneSorted repeats.valueOf?_eq
  · exact repeats.second.functions.trans repeats.first.functions.symm
  · exact repeats.second.hosts.trans repeats.first.hosts.symm

end Machine.Repeats

section Runs

open Evaluation

variable {engine : Pattern.Engine} {before after table : SymbolTable} {program : Program}

theorem Machine.repeats_lockstep (named : before.WellNamed)
    (readsNone : before.ReadsNoCaptures program) :
    LockstepWithin (before.ReachesName program) (Machine.Repeats before after) where
  functions := fun _ _ repeats => repeats.function?
  captures := fun _ _ repeats => repeats.setCaptures
  bodies := by
    intro one other repeats name function isCallable found arguments length token member later
      another together
    have isDefined : before.function? name = some (.user function) :=
      (repeats.first.function? name).symm.trans found
    have defines : before.Defines function := SymbolTable.defines_of_function? isDefined
    obtain ⟨definedName, defined⟩ := defines
    have closed : function.Closed := (named.functions definedName function defined).2
    refine together.reads?_eq (closed.wellNamed token member) (fun capture isCapture => ?_) _
    exact readsNone.bodies function (isCallable function isDefined) capture (isCapture ▸ member)
  calls := by
    intro one other repeats name function isCallable found
    have isDefined : before.function? name = some (.user function) :=
      (repeats.first.function? name).symm.trans found
    exact (isCallable function isDefined).callsOnly

/-- Without a look at captures, a run from the table that an earlier run of the program has left
ends like that one. -/
theorem Evaluation.run_run (engine : Pattern.Engine) (limits : Limits) (named : table.WellNamed)
    (sorted : Entries.Sorted table.globals) (wellNamed : ∀ token ∈ program, token.WellNamed)
    (readsNone : table.ReadsNoCaptures program) :
    run engine limits program (run engine limits program table).2 =
      run engine limits program table := by
  let after : SymbolTable := (run engine limits program table).2
  have counts : Run.Relates (Machine.Repeats table after) (fun _ => False) (countStep limits)
      (countStep limits) :=
    countStep_relates
      (fun _ _ repeats =>
        ⟨congrArg (· + 1) repeats.steps, repeats.first, repeats.second, repeats.bindings⟩)
      fun _ _ repeats => Or.inl repeats.steps
  have correspond : List.Forall₂ (Corresponds (Machine.Repeats table after) [] []) program
      program := by
    rw [List.forall₂_same]
    intro token member
    refine .same token fun one other repeats => ?_
    refine repeats.reads?_eq (wellNamed token member) (fun name isCapture => ?_) []
    exact readsNone.itself name (isCapture ▸ member)
  have sideBySide : Run.Relates (Machine.Repeats table after) (fun _ => False)
      (runNested engine limits limits.maxDepth [] program)
      (runNested engine limits limits.maxDepth [] program) :=
    runNested_relates_within (Machine.repeats_lockstep named readsNone) counts
      (.refl limits limits.maxDepth) correspond (table.callsOnly_reachesName program)
  have kept : table.SameButCaptures after :=
    SymbolTable.sameButCaptures_run engine limits program table
  rcases sideBySide { table, steps := 0 } { table := after, steps := 0 } (.start kept 0) with
    ⟨_, isExcused, -⟩ | ⟨sameResult, repeats⟩
  · exact isExcused.elim
  · have staysSorted (start : SymbolTable) (startSorted : Entries.Sorted start.globals) :
        Entries.Sorted (run engine limits program start).2.globals :=
      run_keeps (fun _ texts sorted => Variables.sorted_setCaptures sorted 0 texts) startSorted
        engine limits program
    have afterSorted : Entries.Sorted after.globals := staysSorted table sorted
    have sameTable : (run engine limits program after).2 = after :=
      repeats.table_eq afterSorted (staysSorted after afterSorted)
    exact Prod.ext sameResult.symm sameTable

end Runs

namespace Interpreter

variable {engine : Pattern.Engine} {interpreter : Interpreter} {compiled : List Program}

theorem compile_congr {other : Interpreter}
    (same : interpreter.table.SameButCaptures other.table) (source : String) :
    other.compile source = interpreter.compile source := by
  have sameArity : other.table.arity? = interpreter.table.arity? := by
    funext name
    rw [SymbolTable.arity?, SymbolTable.arity?, same.function?]
  rw [compile, compile, sameArity]

theorem evaluate_of_expression {line source : String}
    (isExpression : Statement.ofLine line = .expression source) (interpreter : Interpreter) :
    interpreter.evaluate engine line =
      ((interpreter.evaluateExpression engine source).1,
        { (interpreter.evaluateExpression engine source).2 with
          lastError := errorOf? (interpreter.evaluateExpression engine source).1 }) := by
  rw [evaluate, isExpression, perform]

theorem run_again (reachable : Reachable engine interpreter compiled) {source : String}
    {program : Program} (compiles : interpreter.compile source = .ok program)
    (readsNone : interpreter.table.ReadsNoCaptures program) (lastError : Option Error) :
    run engine program { (interpreter.run engine program).2 with lastError } =
      ((interpreter.run engine program).1,
        { (interpreter.run engine program).2 with lastError }) := by
  have again : Evaluation.run engine interpreter.limits program
      (Evaluation.run engine interpreter.limits program interpreter.table).2 =
        Evaluation.run engine interpreter.limits program interpreter.table :=
    Evaluation.run_run engine interpreter.limits reachable.wellNamed reachable.sorted
      (Conversion.convert_wellNamed compiles) readsNone
  simp only [run, again]

/-- An expression line that reads no captures, neither itself nor in the functions that it
reaches, can be evaluated again without a difference: the outcome and the interpreter that is left
are those of the first time. -/
theorem evaluate_evaluate (reachable : Reachable engine interpreter compiled) {line source : String}
    (isExpression : Statement.ofLine line = .expression source)
    (readsNone : ∀ program, interpreter.compile source = .ok program →
      interpreter.table.ReadsNoCaptures program) :
    (interpreter.evaluate engine line).2.evaluate engine line =
      interpreter.evaluate engine line := by
  simp only [evaluate_of_expression isExpression]
  cases compiles : interpreter.compile source with
  | error error =>
      have fails (lastError : Option Error) :
          evaluateExpression engine source { interpreter with lastError } =
            (.error error, { interpreter with lastError }) := by
        have sameCompile : compile { interpreter with lastError } source = .error error := compiles
        rw [evaluateExpression, sameCompile]
      have failsFirst : interpreter.evaluateExpression engine source =
          (.error error, interpreter) :=
        fails interpreter.lastError
      simp only [failsFirst, fails]
  | ok program =>
      have runs : interpreter.evaluateExpression engine source =
          interpreter.run engine program := by
        rw [evaluateExpression, compiles]
      have kept : interpreter.table.SameButCaptures (interpreter.run engine program).2.table :=
        SymbolTable.sameButCaptures_run engine interpreter.limits program interpreter.table
      have runsAgain (lastError : Option Error) :
          evaluateExpression engine source
              { (interpreter.run engine program).2 with lastError } =
            ((interpreter.run engine program).1,
              { (interpreter.run engine program).2 with lastError }) := by
        have compilesAgain :
            compile { (interpreter.run engine program).2 with lastError } source = .ok program :=
          (compile_congr kept source).trans compiles
        rw [evaluateExpression, compilesAgain]
        exact run_again reachable compiles (readsNone program compiles) lastError
      simp only [runs, runsAgain]

theorem convert_match (arity? : String → Option Nat) :
    convert arity? "\"b\"=~/b/" =
      .ok [.string "b", .regex "b" "", .op (.binary .regexMatch)] := by
  with_unfolding_all rfl

/-- A match writes a capture, which a second evaluation of its line writes again. -/
theorem evaluate_evaluate_match :
    Statement.ofLine "\"b\"=~/b/" = .expression "\"b\"=~/b/" ∧
      (Interpreter.initial.evaluate Pattern.standardEngine "\"b\"=~/b/").2.evaluate
          Pattern.standardEngine "\"b\"=~/b/" =
        Interpreter.initial.evaluate Pattern.standardEngine "\"b\"=~/b/" := by
  have isExpression : Statement.ofLine "\"b\"=~/b/" = .expression "\"b\"=~/b/" := by
    decide +kernel
  refine ⟨isExpression, evaluate_evaluate .initial isExpression fun program compiles => ?_⟩
  have isProgram : [.string "b", .regex "b" "", .op (.binary .regexMatch)] = program :=
    Except.ok.inj ((convert_match _).symm.trans compiles)
  subst isProgram
  constructor
  · simp
  · rintro function ⟨first, ⟨token, member, isCallee⟩, -⟩
    simp only [List.mem_cons, List.not_mem_nil, or_false] at member
    rcases member with rfl | rfl | rfl <;> cases isCallee

end Interpreter

end Calculator
