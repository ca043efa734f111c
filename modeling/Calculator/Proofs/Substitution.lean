import Calculator.Proofs.Definitions
import Calculator.Proofs.Names

/-!
# Calls as substitution

A definition replaces the variables of its body by their values, and a call binds the parameters.
Both together mean what the body means with its parameters replaced by the arguments: a call does
the same as that program, which reads all other variables when it runs.  Only the limits tell them
apart, since the call takes steps of its own and nests one level deeper.
-/

namespace Calculator

/-- Replace a variable by the value that it is bound to. -/
def Token.substitute (bindings : Entries Value) : Token → Token
  | var name =>
    match Entries.get? bindings name with
    | some held => .value held
    | none => .var name
  | token => token

/-- Replace variables by the values that they are bound to. -/
def Program.substitute (bindings : Entries Value) (program : Program) : Program :=
  program.map (Token.substitute bindings)

/-- The program that calls a function with values. -/
def Program.callOf (name : String) (values : List Value) : Program :=
  values.map Token.value ++ [.call name values.length]

/-- A machine has taken at least as many steps as another one with the same table, which differs
from a given one in captures only. -/
structure Machine.Ahead (start : SymbolTable) (one other : Machine) : Prop where
  table : one.table = other.table
  steps : other.steps ≤ one.steps
  same : start.SameButCaptures one.table

section Ahead

variable {start : SymbolTable} {limits : Limits}

theorem Machine.ahead_lockstep : Evaluation.Lockstep (Machine.Ahead start) := by
  constructor
  · intro one other ahead name
    rw [ahead.table]
  · intro one other ahead texts
    exact ⟨congrArg (SymbolTable.setCaptures texts) ahead.table, ahead.steps,
      ahead.same.setCaptures texts⟩
  · intro _ _ _ _ _ _ _ _ _ _ later another together
    rw [together.table]

theorem Machine.ahead_counts :
    Run.Relates (Machine.Ahead start) Error.IsLimit (Evaluation.countStep limits)
      (Evaluation.countStep limits) := by
  refine Evaluation.countStep_relates (fun one other ahead => ?_) fun one other ahead => ?_
  · exact ⟨ahead.table, Nat.succ_le_succ ahead.steps, ahead.same⟩
  · exact Or.inr ⟨ahead.steps, .steps limits.maxSteps⟩

theorem Machine.Ahead.step {one other : Machine} (ahead : one.Ahead start other) :
    ({ one with steps := one.steps + 1 } : Machine).Ahead start other :=
  ⟨ahead.table, Nat.le_succ_of_le ahead.steps, ahead.same⟩

end Ahead

section Freezing

variable {table start : SymbolTable} {params : List String} {values : List Value}

/-- A frozen token in a call does the same as the token with its parameter replaced. -/
theorem SymbolTable.corresponds_of_freezeToken {token frozen : Token}
    (wellNamed : token.WellNamed) (froze : table.freezeToken params token = .ok frozen)
    (length : values.length = params.length) (sameGlobals : start.globals = table.globals) :
    Evaluation.Corresponds (Machine.Ahead start) (params.zip values) [] frozen
      (token.substitute (params.zip values)) := by
  cases token with
  | var name =>
      unfold freezeToken at froze
      dsimp only at froze
      by_cases isParameter : name ∈ params
      · -- The parameter is bound in the call, and replaced by the same value in the other run.
        obtain ⟨held, bound⟩ := Entries.exists_get?_zip length isParameter
        rw [if_pos (List.contains_iff_mem.mpr isParameter)] at froze
        cases froze
        rw [Token.substitute, bound]
        refine .value _ _ held (fun one other ahead => ?_) fun _ _ _ => rfl
        rw [Token.reads?, bound, Option.some_or]
      · -- The value at the definition is still there, as a run writes captures only.
        rw [if_neg fun isIn => isParameter (List.contains_iff_mem.mp isIn)] at froze
        rw [Token.substitute, Entries.get?_zip_eq_none isParameter values]
        split at froze
        · next held bound =>
          cases froze
          refine .value _ _ held (fun _ _ _ => rfl) fun one other ahead => ?_
          have plain : Variables.isCapture name = false :=
            Variables.isCapture_of_isIdentifier wellNamed
          have atStart : start.valueOf? name = some held := by
            rw [← bound, valueOf?, valueOf?, sameGlobals]
          rw [Token.reads?, Entries.get?_nil, Option.none_or, ← ahead.table,
            ahead.same.bindings name plain, atStart]
        · cases froze
  | capture name =>
      cases froze
      refine .same (.capture name) fun one other ahead => ?_
      rw [Token.reads?, Token.reads?, ahead.table]
  | number | string | literal | value | regex | op | call | index =>
      cases froze
      exact .same _ fun _ _ _ => rfl

theorem SymbolTable.correspond_of_freeze {program frozen : Program}
    (wellNamed : ∀ token ∈ program, token.WellNamed)
    (froze : table.freeze params program = .ok frozen)
    (length : values.length = params.length) (sameGlobals : start.globals = table.globals) :
    List.Forall₂ (Evaluation.Corresponds (Machine.Ahead start) (params.zip values) []) frozen
      (program.substitute (params.zip values)) := by
  induction program generalizing frozen with
  | nil =>
      cases froze
      exact .nil
  | cons token rest ih =>
      obtain ⟨first, later, firstFroze, laterFroze, rfl⟩ := freeze_cons froze
      obtain ⟨firstNamed, restNamed⟩ := List.forall_mem_cons.mp wellNamed
      exact .cons (corresponds_of_freezeToken firstNamed firstFroze length sameGlobals)
        (ih restNamed laterFroze)

end Freezing

section Calling

variable {start : SymbolTable} {engine : Pattern.Engine} {limits : Limits}
  {context : Evaluation.Context}

/-- The tree of a call with values. -/
def Tree.callOf (name : String) (values : List Value) : Tree Leaf :=
  .call name (values.map fun held => .leaf (.value held))

theorem Tree.program_callOf (name : String) (values : List Value) :
    (Tree.callOf name values).program = Program.callOf name values := by
  have arguments : Tree.postorderAll Leaf.token (values.map fun held => .leaf (.value held)) =
      values.map Token.value := by
    induction values with
    | nil => rfl
    | cons held rest ih =>
        rw [List.map_cons, Tree.postorderAll, ih]
        rfl
  rw [Tree.callOf, Tree.program, Tree.postorder, arguments, List.length_map, Program.callOf]

theorem argumentValues_value (name : String) (values : List Value) :
    Evaluation.argumentValues name (values.map Operand.value) = .ok values := by
  induction values with
  | nil => rfl
  | cons held rest ih =>
      rw [List.map_cons, Evaluation.argumentValues, ih]
      rfl

theorem evaluateAll_values_relates {α : Type} {locals : Entries Value} {values : List Value}
    {next : List Operand → Run α} {second : Run α}
    (follows : Run.Relates (Machine.Ahead start) Error.IsLimit
      (next (values.map Operand.value)) second) :
    Run.Relates (Machine.Ahead start) Error.IsLimit
      (Tree.evaluateAll context locals (values.map fun held => .leaf (.value held)) >>= next)
      second := by
  induction values generalizing next with
  | nil => exact follows
  | cons held rest ih =>
      have stepped : Tree.evaluateAll context locals
            ((held :: rest).map fun held => .leaf (.value held)) >>= next =
          Evaluation.countStep context.limits >>= fun _ =>
            Tree.evaluateAll context locals (rest.map fun held => .leaf (.value held)) >>=
              fun later => next (.value held :: later) := by
        simp [Tree.evaluateAll, Tree.evaluate, Evaluation.readLeaf]
      rw [stepped]
      exact Evaluation.countStep_relates_left (fun _ _ ahead => ahead.step) (.steps _) (ih follows)

theorem run_applyCall_user {name : String} {function : UserFunction} {operands : List Operand}
    {machine : Machine} (found : machine.table.function? name = some (.user function))
    (fits : operands.length = function.params.length) :
    (Evaluation.applyCall context name operands).run.run machine =
      (match context.userCall with
        | none => throw (.recursionLimit context.limits.maxDepth)
        | some runBody => do
          let arguments ← Evaluation.lift (Evaluation.argumentValues name operands)
          Operand.value <$> runBody function arguments : Run Operand).run.run machine := by
  have reads : (get : Run Machine).run.run machine = (.ok machine, machine) := rfl
  rw [Evaluation.applyCall, Run.run_bind, reads]
  dsimp only
  rw [found]
  cases context.userCall <;> simp only [if_pos fits]

/-- A call with values of a function is ahead of whatever the run of its body is ahead of. -/
theorem valueIn_callOf_relates {locals : Entries Value} {name : String} {function : UserFunction}
    {values : List Value} {second : Run Value}
    (found : start.function? name = some (.user function))
    (length : values.length = function.params.length)
    (calls : ∀ runBody, context.userCall = some runBody →
      Run.Relates (Machine.Ahead start) Error.IsLimit (runBody function values) second) :
    Run.Relates (Machine.Ahead start) Error.IsLimit
      ((Tree.callOf name values).valueIn context locals) second := by
  rw [Tree.valueIn, Tree.callOf, Tree.evaluate]
  simp only [bind_assoc]
  refine evaluateAll_values_relates ?_
  refine Evaluation.countStep_relates_left (fun _ _ ahead => ahead.step) (.steps _) ?_
  intro one other ahead
  have meets : one.table.function? name = some (.user function) :=
    (ahead.same.function? name).trans found
  have fits : (values.map Operand.value).length = function.params.length :=
    (List.length_map _).trans length
  cases isBody : context.userCall with
  | none =>
      rw [Run.run_bind, run_applyCall_user meets fits, isBody]
      exact Or.inl ⟨_, .recursion context.limits.maxDepth, rfl⟩
  | some runBody =>
      have returned : (Operand.value <$> runBody function values >>= fun operand =>
          Evaluation.lift (Evaluation.valueOf "result" operand)) = runBody function values := by
        rw [bind_map_left]
        exact bind_pure (runBody function values)
      have applied : (Evaluation.applyCall context name (values.map Operand.value) >>=
          fun operand => Evaluation.lift (Evaluation.valueOf "result" operand)).run.run one =
            (runBody function values).run.run one := by
        rw [Run.run_bind, run_applyCall_user meets fits, isBody]
        dsimp only
        rw [argumentValues_value, Evaluation.lift_ok, pure_bind, ← Run.run_bind, returned]
      rw [applied]
      exact calls runBody isBody one other ahead

/-- A call with values of a new function is ahead of its body with the values for the parameters. -/
theorem runNested_callOf_relates {name : String} {table newer : SymbolTable}
    {params : List String} {program frozen : Program} {values : List Value}
    (found : newer.function? name = some (.user { params, body := frozen }))
    (wellNamed : ∀ token ∈ program, token.WellNamed)
    (froze : table.freeze params program = .ok frozen)
    (length : values.length = params.length) (sameGlobals : newer.globals = table.globals)
    (depth : Nat) :
    Run.Relates (Machine.Ahead newer) Error.IsLimit
      (Evaluation.runNested engine limits depth [] (Program.callOf name values))
      (Evaluation.runNested engine limits depth []
        (program.substitute (params.zip values))) := by
  rw [← Tree.program_callOf]
  cases depth with
  | zero =>
      rw [Evaluation.runNested, Evaluation.runProgram_program]
      refine valueIn_callOf_relates found length fun runBody isBody => ?_
      cases isBody
  | succ depth =>
      rw [Evaluation.runNested, Evaluation.runProgram_program]
      refine valueIn_callOf_relates found length fun runBody isBody => ?_
      cases isBody
      refine Evaluation.runNested_relates Machine.ahead_lockstep Machine.ahead_counts ?_ ?_
      · exact Or.inr ⟨Nat.le_succ depth, .recursion limits.maxDepth⟩
      · exact SymbolTable.correspond_of_freeze wellNamed froze length sameGlobals

/-- Calling a function that was just defined does the same as running its body with the parameters
replaced by the arguments, where all other variables are read at that time: the result or the error
and the table are equal, unless the call reaches a limit. -/
theorem run_callOf_eq_run_substitute {table newer : SymbolTable} {name body : String}
    {params : List String} (defined : table.define name params body = .ok newer) :
    ∃ program, convert table.arity? body = .ok program ∧
      ∀ (engine : Pattern.Engine) (limits : Limits) (values : List Value),
        values.length = params.length →
          (∀ error, (Evaluation.run engine limits (Program.callOf name values) newer).1 =
            .error error → ¬error.IsLimit) →
            Evaluation.run engine limits (Program.callOf name values) newer =
              Evaluation.run engine limits (program.substitute (params.zip values)) newer := by
  obtain ⟨nameChecked, -, program, frozen, converted, froze, isNewer⟩ :=
    SymbolTable.define_eq_ok defined
  have found : newer.function? name = some (.user { params, body := frozen }) := by
    have notBuiltin : Builtin.isName name = false :=
      (SymbolTable.checkFunctionName_eq_ok nameChecked).1
    rw [isNewer, SymbolTable.function?, notBuiltin, Entries.get?_put_self]
    rfl
  have sameGlobals : newer.globals = table.globals := by rw [isNewer]
  refine ⟨program, converted, fun engine limits values length unlimited => ?_⟩
  have related : Run.Relates (Machine.Ahead newer) Error.IsLimit
      (Evaluation.runNested engine limits limits.maxDepth [] (Program.callOf name values))
      (Evaluation.runNested engine limits limits.maxDepth []
        (program.substitute (params.zip values))) :=
    runNested_callOf_relates found (Conversion.convert_wellNamed converted) froze length
      sameGlobals limits.maxDepth
  rcases related { table := newer, steps := 0 } { table := newer, steps := 0 }
    ⟨rfl, Nat.le_refl 0, .refl newer⟩ with ⟨error, isLimit, failed⟩ | ⟨result, ahead⟩
  · exact absurd isLimit (unlimited error failed)
  · exact Prod.ext result ahead.table

/-- A table with a function that compares its argument with a constant. -/
def comparingTable : SymbolTable :=
  { SymbolTable.initial with
    functions := [("f", {
      params := ["x"]
      body := [.var "x", .value (.number 2.718281828459045), .op (.binary .equal)] })] }

theorem define_comparingTable :
    SymbolTable.initial.define "f" ["x"] "x == e" = .ok comparingTable := by
  with_unfolding_all rfl

theorem convert_comparison (arity? : String → Option Nat) :
    convert arity? "x == e" = .ok [.var "x", .var "e", .op (.binary .equal)] := by
  with_unfolding_all rfl

/-- A call of that function compares its argument with the variable. -/
theorem run_callOf_comparingTable :
    SymbolTable.initial.define "f" ["x"] "x == e" = .ok comparingTable ∧
      Evaluation.run (fun _ _ => .error "none") Limits.standard (Program.callOf "f" [.null])
          comparingTable =
        Evaluation.run (fun _ _ => .error "none") Limits.standard
          [.value .null, .var "e", .op (.binary .equal)] comparingTable := by
  have unlimited : (Evaluation.run (fun _ _ => .error "none") Limits.standard
      (Program.callOf "f" [.null]) comparingTable).1 = .ok (.boolean false) := by
    with_unfolding_all rfl
  obtain ⟨program, converted, same⟩ := run_callOf_eq_run_substitute define_comparingTable
  have isProgram : program = [.var "x", .var "e", .op (.binary .equal)] :=
    Except.ok.inj (converted.symm.trans (convert_comparison _))
  have substituted : program.substitute (["x"].zip [.null]) =
      [.value .null, .var "e", .op (.binary .equal)] := by
    rw [isProgram]
    rfl
  rw [← substituted]
  refine ⟨define_comparingTable, same _ Limits.standard [.null] rfl fun error failed => ?_⟩
  rw [unlimited] at failed
  cases failed

end Calling

end Calculator
