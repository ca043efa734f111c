import Calculator.Proofs.Bindings

/-!
# Functions do not see variables

The body of a function has no variables but its parameters, and a call binds all of them.  So what
a function computes from its arguments depends on captures and on other functions, but on no
variable: neither on one that is assigned later, nor on a parameter of a function that calls it.
The same is true of every program without variables.
-/

namespace Calculator

/-- Two tables have the same functions and the same captures.  Other variables may differ. -/
structure SymbolTable.SameButVariables (first second : SymbolTable) : Prop where
  functions : ∀ name, Entries.get? first.functions name = Entries.get? second.functions name
  hosts : ∀ name, Entries.get? first.hosts name = Entries.get? second.hosts name
  captures : ∀ name, Variables.isCapture name = true →
    first.valueOf? name = second.valueOf? name

/-- Two runs end with the same result or the same error after the same number of steps, and leave
the same captures. -/
structure Evaluation.EndAlike (first second : Except Error Value × Machine) : Prop where
  result : first.1 = second.1
  steps : first.2.steps = second.2.steps
  captures : ∀ name, Variables.isCapture name = true →
    first.2.table.valueOf? name = second.2.table.valueOf? name

/-- All functions of a table are closed over their definitions. -/
def SymbolTable.DefinesClosed (table : SymbolTable) : Prop :=
  ∀ function, table.Defines function → function.Closed

/-- Two machines have taken the same number of steps with tables that differ in variables only. -/
structure Machine.Alike (one other : Machine) : Prop where
  steps : one.steps = other.steps
  tables : one.table.SameButVariables other.table
  closed : one.table.DefinesClosed

section Tables

variable {first second : SymbolTable}

theorem SymbolTable.SameButVariables.function? (same : first.SameButVariables second)
    (name : String) : first.function? name = second.function? name :=
  function?_congr (same.functions name) (same.hosts name)

theorem SymbolTable.SameButVariables.setCaptures (same : first.SameButVariables second)
    (texts : List String) :
    (first.setCaptures texts).SameButVariables (second.setCaptures texts) := by
  refine ⟨same.functions, same.hosts, fun name isCapture => ?_⟩
  exact Variables.get?_setCaptures_congr (same.captures name isCapture) 0 texts

theorem SymbolTable.WellNamed.definesClosed {table : SymbolTable} (named : table.WellNamed) :
    table.DefinesClosed := by
  rintro function ⟨name, found⟩
  exact (named.functions name function found).2

theorem SymbolTable.sameButVariables_assign {older newer : SymbolTable} {name : String}
    {value : Value} (assigned : older.assign name value = .ok newer) :
    older.SameButVariables newer := by
  obtain ⟨-, identifier, -, rfl⟩ := assign_eq_ok assigned
  refine ⟨fun _ => rfl, fun _ => rfl, fun capture isCapture => ?_⟩
  have different : name ≠ capture := by
    rintro rfl
    rw [Variables.isCapture_of_isIdentifier identifier] at isCapture
    cases isCapture
  exact (Entries.get?_put_of_ne older.globals value different).symm

theorem Interpreter.sameButVariables_assign (interpreter : Interpreter) (name : String)
    (value : Value) :
    interpreter.table.SameButVariables (interpreter.assign name value).2.table := by
  unfold Interpreter.assign
  cases assigned : interpreter.table.assign name value with
  | error error => exact ⟨fun _ => rfl, fun _ => rfl, fun _ _ => rfl⟩
  | ok table => exact SymbolTable.sameButVariables_assign assigned

theorem Interpreter.limits_assign (interpreter : Interpreter) (name : String) (value : Value) :
    (interpreter.assign name value).2.limits = interpreter.limits := by
  unfold Interpreter.assign
  cases interpreter.table.assign name value <;> rfl

end Tables

section Runs

variable {engine : Pattern.Engine} {limits : Limits}

/-- A token without a name, or with the name of a capture, reads the same from alike machines. -/
theorem Machine.Alike.reads?_eq {one other : Machine} (alike : one.Alike other) {token : Token}
    (wellNamed : token.WellNamed) (notVariable : ∀ name, token ≠ .var name)
    (firstLocals secondLocals : Entries Value) :
    token.reads? firstLocals one.table = token.reads? secondLocals other.table := by
  cases token with
  | var name => exact absurd rfl (notVariable name)
  | capture name => exact alike.tables.captures name wellNamed
  | number | string | literal | value | regex | op | call | index => rfl

/-- All tokens of a closed body read the same from alike machines. -/
theorem Machine.Alike.reads?_body {one other : Machine} (alike : one.Alike other)
    {function : UserFunction} (closed : function.Closed) {arguments : List Value}
    (length : arguments.length = function.params.length) {token : Token}
    (member : token ∈ function.body) :
    token.reads? (function.params.zip arguments) one.table =
      token.reads? (function.params.zip arguments) other.table := by
  by_cases isVariable : ∃ name, token = .var name
  · obtain ⟨name, rfl⟩ := isVariable
    obtain ⟨value, bound⟩ := Entries.exists_get?_zip length (closed.variables_mem name member)
    rw [Token.reads?, Token.reads?, bound]
    rfl
  · exact alike.reads?_eq (closed.wellNamed token member) (not_exists.mp isVariable) _ _

theorem Machine.alike_lockstep : Evaluation.Lockstep Machine.Alike := by
  constructor
  · intro one other alike name
    exact alike.tables.function? name
  · intro one other alike texts
    exact ⟨alike.steps, alike.tables.setCaptures texts, alike.closed⟩
  · intro one other alike name function found arguments length token member later another together
    have closed : function.Closed := alike.closed function (SymbolTable.defines_of_function? found)
    exact together.reads?_body closed length member

theorem Machine.alike_counts :
    Run.Relates Machine.Alike (fun _ => False) (Evaluation.countStep limits)
      (Evaluation.countStep limits) := by
  refine Evaluation.countStep_relates (fun one other alike => ?_) fun one other alike => ?_
  · exact ⟨congrArg (· + 1) alike.steps, alike.tables, alike.closed⟩
  · exact Or.inl alike.steps

section Programs

variable {first second : SymbolTable} {firstLocals secondLocals : Entries Value}
  {program : Program}

/-- A program whose tokens read the same from alike machines ends alike from tables that differ in
variables only. -/
theorem SymbolTable.SameButVariables.endAlike (same : first.SameButVariables second)
    (closed : first.DefinesClosed)
    (reads : ∀ token ∈ program, ∀ one other : Machine, one.Alike other →
      token.reads? firstLocals one.table = token.reads? secondLocals other.table)
    (depth steps : Nat) :
    Evaluation.EndAlike
      ((Evaluation.runNested engine limits depth firstLocals program).run.run
        { table := first, steps })
      ((Evaluation.runNested engine limits depth secondLocals program).run.run
        { table := second, steps }) := by
  have correspond : List.Forall₂
      (Evaluation.Corresponds Machine.Alike firstLocals secondLocals) program program := by
    rw [List.forall₂_same]
    exact fun token member => .same token (reads token member)
  have related : Run.Relates Machine.Alike (fun _ => False)
      (Evaluation.runNested engine limits depth firstLocals program)
      (Evaluation.runNested engine limits depth secondLocals program) :=
    Evaluation.runNested_relates Machine.alike_lockstep Machine.alike_counts (.refl limits depth)
      correspond
  rcases related { table := first, steps } { table := second, steps } ⟨rfl, same, closed⟩ with
    ⟨_, isExcused, -⟩ | ⟨result, alike⟩
  · exact isExcused.elim
  · exact ⟨result, alike.steps, alike.tables.captures⟩

theorem SymbolTable.SameButVariables.endAlike_of_noVariables
    (same : first.SameButVariables second) (closed : first.DefinesClosed)
    (wellNamed : ∀ token ∈ program, token.WellNamed)
    (noVariables : ∀ name, Token.var name ∉ program) (depth steps : Nat)
    (firstLocals secondLocals : Entries Value) :
    Evaluation.EndAlike
      ((Evaluation.runNested engine limits depth firstLocals program).run.run
        { table := first, steps })
      ((Evaluation.runNested engine limits depth secondLocals program).run.run
        { table := second, steps }) := by
  refine same.endAlike closed (fun token member one other alike => ?_) depth steps
  refine alike.reads?_eq (wellNamed token member) (fun name isVariable => ?_) _ _
  exact noVariables name (isVariable ▸ member)

theorem SymbolTable.SameButVariables.endAlike_of_body
    (same : first.SameButVariables second) (closed : first.DefinesClosed)
    {function : UserFunction} (defines : first.Defines function) {arguments : List Value}
    (length : arguments.length = function.params.length) (depth steps : Nat) :
    Evaluation.EndAlike
      ((Evaluation.runNested engine limits depth (function.params.zip arguments)
        function.body).run.run { table := first, steps })
      ((Evaluation.runNested engine limits depth (function.params.zip arguments)
        function.body).run.run { table := second, steps }) :=
  same.endAlike closed
    (fun _ member _ _ alike => alike.reads?_body (closed function defines) length member)
    depth steps

end Programs

variable {interpreter : Interpreter} {compiled : List Program}

/-- A program without variables does the same in two interpreters that differ in variables only, so
no assignment changes what it does, and no parameters of a function that runs it.  What a function
computes from its arguments is the same in both interpreters. -/
theorem run_eq_of_noVariables (reachable : Reachable engine interpreter compiled)
    {other : Interpreter} (sameLimits : interpreter.limits = other.limits)
    (same : interpreter.table.SameButVariables other.table)
    {arity? : String → Option Nat} {source : String} {program : Program}
    (converted : convert arity? source = .ok program)
    (noVariables : ∀ name, Token.var name ∉ program) :
    ((interpreter.run engine program).1 = (other.run engine program).1 ∧
      ∀ name, Variables.isCapture name = true →
        (interpreter.run engine program).2.table.valueOf? name =
          (other.run engine program).2.table.valueOf? name) ∧
    (∀ name value,
      (interpreter.run engine program).1 =
        ((interpreter.assign name value).2.run engine program).1) ∧
    (∀ depth steps locals otherLocals,
      Evaluation.EndAlike
        ((Evaluation.runNested engine interpreter.limits depth locals program).run.run
          { table := interpreter.table, steps })
        ((Evaluation.runNested engine other.limits depth otherLocals program).run.run
          { table := other.table, steps })) ∧
    ∀ function, interpreter.table.Defines function → ∀ arguments : List Value,
      arguments.length = function.params.length → ∀ depth steps,
        Evaluation.EndAlike
          ((Evaluation.runNested engine interpreter.limits depth (function.params.zip arguments)
            function.body).run.run { table := interpreter.table, steps })
          ((Evaluation.runNested engine other.limits depth (function.params.zip arguments)
            function.body).run.run { table := other.table, steps }) := by
  have closed : interpreter.table.DefinesClosed := reachable.wellNamed.definesClosed
  have wellNamed : ∀ token ∈ program, token.WellNamed := Conversion.convert_wellNamed converted
  have alike {later : Interpreter} (limits : interpreter.limits = later.limits)
      (same : interpreter.table.SameButVariables later.table) :
      Evaluation.EndAlike
        ((Evaluation.runNested engine interpreter.limits interpreter.limits.maxDepth []
          program).run.run { table := interpreter.table, steps := 0 })
        ((Evaluation.runNested engine later.limits later.limits.maxDepth [] program).run.run
          { table := later.table, steps := 0 }) := by
    rw [← limits]
    exact same.endAlike_of_noVariables closed wellNamed noVariables _ 0 [] []
  refine ⟨?_, ?_, ?_, ?_⟩
  · have ended := alike sameLimits same
    exact ⟨ended.result, ended.captures⟩
  · intro name value
    have assigned := interpreter.sameButVariables_assign name value
    exact (alike (interpreter.limits_assign name value).symm assigned).result
  · rw [← sameLimits]
    exact same.endAlike_of_noVariables closed wellNamed noVariables
  · rw [← sameLimits]
    intro function defines arguments length
    exact same.endAlike_of_body closed defines length

theorem convert_callOfKeyword :
    convert (fun _ => some 1) "f(true)" = .ok [.value (.boolean true), .call "f" 1] := by
  with_unfolding_all rfl

/-- A call of a function with a constant does the same after a variable was assigned. -/
theorem run_eq_of_noVariables_callOfKeyword :
    convert (fun _ => some 1) "f(true)" = .ok [.value (.boolean true), .call "f" 1] ∧
      (∀ name, Token.var name ∉ [.value (.boolean true), .call "f" 1]) ∧
      ((Interpreter.initial.define "f" ["x"] "x").2.run (fun _ _ => .error "none")
          [.value (.boolean true), .call "f" 1]).1 =
        (((Interpreter.initial.define "f" ["x"] "x").2.assign "x" .null).2.run
          (fun _ _ => .error "none") [.value (.boolean true), .call "f" 1]).1 := by
  have reachable : Reachable (fun _ _ => .error "none")
      (Interpreter.initial.define "f" ["x"] "x").2 [] :=
    Reachable.initial.define "f" ["x"] "x"
  have noVariables : ∀ name, Token.var name ∉ [.value (.boolean true), .call "f" 1] := by
    intro name isVariable
    simp at isVariable
  have limits := Interpreter.limits_assign (Interpreter.initial.define "f" ["x"] "x").2 "x" .null
  have same := Interpreter.sameButVariables_assign
    (Interpreter.initial.define "f" ["x"] "x").2 "x" .null
  obtain ⟨⟨result, -⟩, -⟩ := run_eq_of_noVariables reachable limits.symm same
    convert_callOfKeyword noVariables
  exact ⟨convert_callOfKeyword, noVariables, result⟩

end Runs

end Calculator
