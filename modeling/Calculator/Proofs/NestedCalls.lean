import Calculator.Proofs.Failures
import Calculator.Proofs.TreeEvaluation

/-!
# Nested calls and the functions of a table

A run changes the captures of its symbol table, but never the functions in it.  So every call in a
run, however deeply it is nested, meets the functions that the table had at the start.  With this,
running programs on stacks agrees with evaluating trees also where the bodies of defined functions
are run: the same result or error, the same table and the same number of steps.
-/

namespace Calculator

namespace Run

/-- From every machine with an invariant a computation leads to one that has it too, and it fails
only with errors of some class. -/
def Keeps {α : Type} (invariant : Machine → Prop) (errors : Error → Prop)
    (computation : Run α) : Prop :=
  ∀ machine, invariant machine →
    invariant (computation.run.run machine).2 ∧ FailsOnly errors (computation.run.run machine).1

/-- Two computations do the same on every machine with an invariant. -/
def Agree {α : Type} (invariant : Machine → Prop) (first second : Run α) : Prop :=
  ∀ machine, invariant machine → first.run.run machine = second.run.run machine

section Sequences

variable {α β : Type} {invariant : Machine → Prop} {errors : Error → Prop}

/-- A failure ends a sequence of computations with the machine as it is. -/
theorem run_bind (computation : Run α) (next : α → Run β) (machine : Machine) :
    (computation >>= next).run.run machine =
      match computation.run.run machine with
      | (.ok result, after) => (next result).run.run after
      | (.error error, after) => (.error error, after) := by
  rw [ExceptT.run_bind, StateT.run_bind]
  cases computation.run.run machine with
  | mk outcome after => cases outcome <;> rfl

namespace Keeps

theorem pure (result : α) : Keeps invariant errors (Pure.pure result : Run α) :=
  fun _ holds => ⟨holds, .ok _⟩

theorem throw {error : Error} (allowed : errors error) :
    Keeps invariant errors (throw error : Run α) :=
  fun _ holds => ⟨holds, .error allowed⟩

theorem lift {outcome : Except Error α} (fails : FailsOnly errors outcome) :
    Keeps invariant errors (Evaluation.lift outcome) := by
  cases outcome with
  | ok result => exact pure result
  | error error => exact throw (fails error rfl)

theorem bind {computation : Run α} {next : α → Run β}
    (first : Keeps invariant errors computation)
    (second : ∀ result, Keeps invariant errors (next result)) :
    Keeps invariant errors (computation >>= next) := by
  intro machine holds
  have kept := first machine holds
  rw [run_bind]
  cases outcome : computation.run.run machine with
  | mk produced after =>
      rw [outcome] at kept
      cases produced with
      | ok result => exact second result after kept.1
      | error error => exact ⟨kept.1, .error (kept.2 error rfl)⟩

theorem map {computation : Run α} (kept : Keeps invariant errors computation)
    (change : α → β) : Keeps invariant errors (change <$> computation) := by
  rw [map_eq_pure_bind]
  exact kept.bind fun result => pure (change result)

theorem get_bind {next : Machine → Run α}
    (kept : ∀ machine, invariant machine → Keeps invariant errors (next machine)) :
    Keeps invariant errors (get >>= next) := by
  intro machine holds
  rw [run_bind]
  exact kept machine holds machine holds

theorem modify {change : Machine → Machine}
    (holds : ∀ machine, invariant machine → invariant (change machine)) :
    Keeps invariant errors (modify change : Run PUnit) :=
  fun machine held => ⟨holds machine held, .ok _⟩

theorem of_agree {first second : Run α} (kept : Keeps invariant errors second)
    (agree : Agree invariant first second) : Keeps invariant errors first := by
  intro machine holds
  rw [agree machine holds]
  exact kept machine holds

end Keeps

namespace Agree

theorem refl (computation : Run α) : Agree invariant computation computation :=
  fun _ _ => rfl

theorem bind {first second : Run α} {firstNext secondNext : α → Run β}
    (kept : Keeps invariant errors second) (agree : Agree invariant first second)
    (nextAgree : ∀ result, Agree invariant (firstNext result) (secondNext result)) :
    Agree invariant (first >>= firstNext) (second >>= secondNext) := by
  intro machine holds
  have after := (kept machine holds).1
  rw [run_bind, run_bind, agree machine holds]
  cases outcome : second.run.run machine with
  | mk produced reached =>
      rw [outcome] at after
      cases produced with
      | ok result => exact nextAgree result reached after
      | error error => rfl

theorem map {first second : Run α} (agree : Agree invariant first second) (change : α → β) :
    Agree invariant (change <$> first) (change <$> second) := by
  intro machine holds
  rw [map_eq_pure_bind, map_eq_pure_bind, run_bind, run_bind, agree machine holds]

theorem get_bind {first second : Machine → Run α}
    (agree : ∀ machine, invariant machine → Agree invariant (first machine) (second machine)) :
    Agree invariant (get >>= first) (get >>= second) := by
  intro machine holds
  rw [run_bind, run_bind]
  exact agree machine holds machine holds

end Agree

end Sequences

end Run

/-- A machine has the functions of a symbol table. -/
def Machine.Serves (table : SymbolTable) (machine : Machine) : Prop :=
  machine.table.functions = table.functions ∧ machine.table.hosts = table.hosts

theorem SymbolTable.function?_congr {first second : SymbolTable} {name : String}
    (functions : Entries.get? first.functions name = Entries.get? second.functions name)
    (hosts : Entries.get? first.hosts name = Entries.get? second.hosts name) :
    first.function? name = second.function? name := by
  unfold SymbolTable.function?
  rw [functions, hosts]

theorem Machine.Serves.function? {table : SymbolTable} {machine : Machine}
    (serves : machine.Serves table) (name : String) :
    machine.table.function? name = table.function? name :=
  SymbolTable.function?_congr (by rw [serves.1]) (by rw [serves.2])

/-- A function is one of those that a table defines. -/
def SymbolTable.Defines (table : SymbolTable) (function : UserFunction) : Prop :=
  ∃ name, Entries.get? table.functions name = some function

theorem SymbolTable.defines_of_function? {table : SymbolTable} {name : String}
    {function : UserFunction} (found : table.function? name = some (.user function)) :
    table.Defines function := by
  unfold function? at found
  split at found
  · obtain ⟨builtin, _, isUser⟩ := Option.map_eq_some_iff.mp found
    cases isUser
  · split at found
    · next defined =>
      cases found
      exact ⟨name, defined⟩
    · obtain ⟨host, _, isUser⟩ := Option.map_eq_some_iff.mp found
      cases isUser

/-- The calls of a program are of functions with some property. -/
def Program.CallsOnly (known : String → Prop) (program : Program) : Prop :=
  ∀ name count, Token.call name count ∈ program → known name

theorem Program.CallsOnly.subset {known : String → Prop} {smaller larger : Program}
    (calls : larger.CallsOnly known) (included : smaller ⊆ larger) : smaller.CallsOnly known :=
  fun name count isCall => calls name count (included isCall)

namespace Evaluation

open Run (Keeps Agree)

variable {engine : Pattern.Engine} {limits : Limits} {locals : Entries Value}
  {table : SymbolTable} {errors : Error → Prop}

section Operations

variable (ordinary : ∀ error : Error, error.IsOrdinary → errors error)

include ordinary

theorem countStep_keeps : Keeps (Machine.Serves table) errors (countStep limits) := by
  refine .bind (.modify fun machine serves => serves) fun _ => ?_
  refine .get_bind fun machine serves => ?_
  split
  · exact .throw (ordinary _ ⟨rfl, nofun⟩)
  · exact .pure _

theorem valueOf_keeps (operation : String) (operand : Operand) :
    Keeps (Machine.Serves table) errors (lift (valueOf operation operand)) := by
  cases operand with
  | value value => exact .pure value
  | pattern pattern => exact .throw (ordinary _ (concernsValues_typeMismatch _ _).ordinary)

theorem lift_keeps {α : Type} {outcome : Except Error α}
    (fails : FailsOnly Error.ConcernsValues outcome) :
    Keeps (Machine.Serves table) errors (lift outcome) :=
  .lift (fails.mono fun error concerns => ordinary error concerns.ordinary)

theorem lookup_keeps (name : String) :
    Keeps (Machine.Serves table) errors (lookup locals name) := by
  unfold lookup
  split
  · exact .pure _
  · refine .get_bind fun machine serves => ?_
    split
    · exact .pure _
    · exact .throw (ordinary _ ⟨rfl, nofun⟩)

theorem readLeaf_keeps (leaf : Leaf) :
    Keeps (Machine.Serves table) errors (readLeaf engine locals leaf) := by
  cases leaf with
  | number | string | value => exact .pure _
  | literal raw => exact (lift_keeps ordinary (Value.ofLiteral_failsOnly raw)).map _
  | var name | capture name => exact (lookup_keeps ordinary name).map _
  | regex source flags =>
      exact (lift_keeps ordinary (.mapError (fun _ => ⟨⟨rfl, nofun⟩, nofun⟩) _)).map _

theorem applyUnary_keeps (op : UnaryOp) (operand : Operand) :
    Keeps (Machine.Serves table) errors (applyUnary op operand) :=
  .bind (valueOf_keeps ordinary _ operand) fun value =>
    (lift_keeps ordinary (Value.applyUnary_failsOnly op value)).map _

omit ordinary in
/-- A match changes nothing but captures. -/
theorem matchPattern_keeps (pattern : Pattern) (subject : String) :
    Keeps (Machine.Serves table) errors (matchPattern pattern subject) := by
  unfold matchPattern
  split
  · exact .bind (.modify fun machine serves => serves) fun _ => .pure _
  · exact .pure _

theorem applyBinary_keeps (op : BinaryOp) (left right : Operand) :
    Keeps (Machine.Serves table) errors (applyBinary engine op left right) := by
  unfold applyBinary
  split
  · exact .bind (lift_keeps ordinary (patternOf_failsOnly engine right)) fun pattern =>
      .bind (valueOf_keeps ordinary _ left) fun subject =>
        (matchPattern_keeps pattern subject.asText).map _
  · next meaningful =>
    exact .bind (valueOf_keeps ordinary _ right) fun second =>
      .bind (valueOf_keeps ordinary _ left) fun first =>
        (lift_keeps ordinary (Value.apply_failsOnly meaningful first second)).map _

theorem applyIndex_keeps (container selector : Operand) :
    Keeps (Machine.Serves table) errors (applyIndex container selector) :=
  .bind (valueOf_keeps ordinary _ selector) fun key =>
    .bind (valueOf_keeps ordinary _ container) fun holder =>
      (lift_keeps ordinary (Value.select_failsOnly holder key)).map _

/-- How defined functions are run keeps the functions of a table. -/
def UserCall.Keeps (table : SymbolTable) (errors : Error → Prop) (userCall : UserCall) : Prop :=
  ∀ runBody, userCall = some runBody → ∀ function arguments, table.Defines function →
    Run.Keeps (Machine.Serves table) errors (runBody function arguments)

theorem applyCall_keeps {context : Context} {name : String}
    (bodies : UserCall.Keeps table errors context.userCall)
    (known : table.function? name = none → errors (.undefinedFunction name))
    (operands : List Operand) :
    Keeps (Machine.Serves table) errors (applyCall context name operands) := by
  have arguments : Keeps (Machine.Serves table) errors (lift (argumentValues name operands)) :=
    lift_keeps ordinary (argumentValues_failsOnly name operands)
  unfold applyCall
  refine .get_bind fun machine serves => ?_
  rw [serves.function? name]
  split
  · next unknown => exact .throw (known unknown)
  · split
    · exact .bind (valueOf_keeps ordinary name _) fun argument =>
        (lift_keeps ordinary (Builtin.call_failsOnly _ argument)).map _
    · exact .throw (ordinary _ ⟨rfl, nofun⟩)
  · next function found =>
    split
    · split
      · exact .throw (ordinary _ ⟨rfl, nofun⟩)
      · next runBody isUserCall =>
        have defined := SymbolTable.defines_of_function? found
        exact .bind arguments fun values =>
          (bodies runBody isUserCall function values defined).map _
    · exact .throw (ordinary _ ⟨rfl, nofun⟩)
  · split
    · refine .bind arguments fun values => ?_
      split
      · exact .pure _
      · exact .throw (ordinary _ ⟨rfl, nofun⟩)
    · exact .throw (ordinary _ ⟨rfl, nofun⟩)

/-- The calls of a program name functions of a table, or it is allowed that they do not. -/
def Meets (table : SymbolTable) (errors : Error → Prop) (program : Program) : Prop :=
  program.CallsOnly fun name => table.function? name = none → errors (.undefinedFunction name)

omit ordinary in
theorem evaluateAll_keeps {context : Context} {arguments : List (Tree Leaf)}
    (each : ∀ argument ∈ arguments,
      Keeps (Machine.Serves table) errors (argument.evaluate context locals)) :
    Keeps (Machine.Serves table) errors (Tree.evaluateAll context locals arguments) := by
  induction arguments with
  | nil => exact .pure _
  | cons argument rest ih =>
      have later := ih fun other isOther => each other (List.mem_cons_of_mem _ isOther)
      exact .bind (each argument List.mem_cons_self) fun _ => .bind later fun _ => .pure _

theorem evaluate_keeps {context : Context} (bodies : UserCall.Keeps table errors context.userCall)
    {tree : Tree Leaf} (meets : Meets table errors tree.program) :
    Keeps (Machine.Serves table) errors (tree.evaluate context locals) := by
  have counts : Keeps (Machine.Serves table) errors (countStep context.limits) :=
    countStep_keeps ordinary
  induction tree with
  | leaf operand => exact .bind counts fun _ => readLeaf_keeps ordinary operand
  | group body ih => exact ih meets
  | unary op operand ih =>
      have operandMeets := meets.subset (List.subset_append_left operand.program _)
      exact .bind (ih operandMeets) fun value => .bind counts fun _ =>
        applyUnary_keeps ordinary op value
  | binary op left right leftIH rightIH =>
      rw [Tree.program_binary] at meets
      have leftMeets := meets.subset (List.subset_append_left left.program _)
      have rightMeets := (meets.subset (List.subset_append_right left.program _)).subset
        (List.subset_append_left right.program _)
      exact .bind (leftIH leftMeets) fun first => .bind (rightIH rightMeets) fun second =>
        .bind counts fun _ => applyBinary_keeps ordinary op first second
  | index container selector containerIH selectorIH =>
      rw [Tree.program_index] at meets
      have containerMeets := meets.subset (List.subset_append_left container.program _)
      have selectorMeets := (meets.subset (List.subset_append_right container.program _)).subset
        (List.subset_append_left selector.program _)
      exact .bind (containerIH containerMeets) fun holder =>
        .bind (selectorIH selectorMeets) fun key => .bind counts fun _ =>
          applyIndex_keeps ordinary holder key
  | call name arguments ih =>
      have known := meets name arguments.length
        (List.mem_append_right _ (List.mem_singleton.mpr rfl))
      have each : ∀ argument ∈ arguments,
          Keeps (Machine.Serves table) errors (argument.evaluate context locals) :=
        fun argument isArgument => ih argument isArgument ((meets.subset
          (List.subset_append_left _ _)).subset
            (Tree.postorder_subset_postorderAll Leaf.token isArgument))
      exact .bind (evaluateAll_keeps each) fun operands => .bind counts fun _ =>
        applyCall_keeps ordinary bodies known operands

theorem valueIn_keeps {context : Context} (bodies : UserCall.Keeps table errors context.userCall)
    {tree : Tree Leaf} (meets : Meets table errors tree.program) :
    Keeps (Machine.Serves table) errors (tree.valueIn context locals) :=
  .bind (evaluate_keeps ordinary bodies meets) fun operand => valueOf_keeps ordinary _ operand

/-- However deep calls may nest, evaluating a tree keeps the functions of the table. -/
theorem evaluateNested_keeps {bodyOf : UserFunction → Tree Leaf}
    (bodiesMeet : ∀ function, table.Defines function →
      Meets table errors (bodyOf function).program)
    (depth : Nat) (locals : Entries Value) {tree : Tree Leaf}
    (meets : Meets table errors tree.program) :
    Keeps (Machine.Serves table) errors
      (evaluateNested engine limits bodyOf depth locals tree) := by
  induction depth generalizing locals tree with
  | zero =>
      refine valueIn_keeps ordinary ?_ meets
      intro runBody isUserCall
      cases isUserCall
  | succ depth ih =>
      refine valueIn_keeps ordinary ?_ meets
      intro runBody isUserCall function arguments defined
      cases isUserCall
      exact ih _ (bodiesMeet function defined)

end Operations

section Agreement

variable {bodyOf : UserFunction → Tree Leaf}

/-- Two ways to run defined functions do the same for the functions of a table. -/
def UserCall.Agree (table : SymbolTable) : UserCall → UserCall → Prop
  | none, none => True
  | some first, some second => ∀ function arguments, table.Defines function →
      Run.Agree (Machine.Serves table) (first function arguments) (second function arguments)
  | _, _ => False

variable {first second : UserCall}

theorem applyCall_agree (agree : UserCall.Agree table first second) (name : String)
    (operands : List Operand) :
    Agree (Machine.Serves table)
      (applyCall { engine, limits, userCall := first } name operands)
      (applyCall { engine, limits, userCall := second } name operands) := by
  unfold applyCall
  refine .get_bind fun machine serves => ?_
  rw [serves.function? name]
  split
  · exact .refl _
  · exact .refl _
  · next function found =>
    have defined := SymbolTable.defines_of_function? found
    split
    · cases first with
      | none =>
          cases second with
          | none => exact .refl _
          | some runBody => exact agree.elim
      | some firstRun =>
          cases second with
          | none => exact agree.elim
          | some secondRun =>
              have taken : Keeps (Machine.Serves table) (fun _ => True)
                  (lift (argumentValues name operands)) :=
                lift_keeps (fun _ _ => trivial) (argumentValues_failsOnly name operands)
              exact .bind taken (.refl _) fun values => (agree function values defined).map _
    · exact .refl _
  · exact .refl _

/-- Whatever errors there are, evaluating a tree keeps the functions of the table. -/
theorem evaluate_serves {context : Context}
    (bodies : UserCall.Keeps table (fun _ => True) context.userCall) (tree : Tree Leaf) :
    Keeps (Machine.Serves table) (fun _ => True) (tree.evaluate context locals) :=
  evaluate_keeps (fun _ _ => trivial) bodies fun _ _ _ _ => trivial

theorem evaluateAll_agree {context other : Context} {arguments : List (Tree Leaf)}
    (bodies : UserCall.Keeps table (fun _ => True) other.userCall)
    (each : ∀ argument ∈ arguments, Agree (Machine.Serves table)
      (argument.evaluate context locals) (argument.evaluate other locals)) :
    Agree (Machine.Serves table) (Tree.evaluateAll context locals arguments)
      (Tree.evaluateAll other locals arguments) := by
  induction arguments with
  | nil => exact .refl _
  | cons argument rest ih =>
      have later := ih fun tree isTree => each tree (List.mem_cons_of_mem _ isTree)
      have laterKept : Keeps (Machine.Serves table) (fun _ => True)
          (Tree.evaluateAll other locals rest) :=
        evaluateAll_keeps fun tree _ => evaluate_serves bodies tree
      exact .bind (evaluate_serves bodies argument) (each argument List.mem_cons_self) fun _ =>
        .bind laterKept later fun _ => .refl _

/-- Evaluating a tree depends on how defined functions are run only for the functions of the
table. -/
theorem evaluate_agree (agree : UserCall.Agree table first second)
    (bodies : UserCall.Keeps table (fun _ => True) second) (tree : Tree Leaf) :
    Agree (Machine.Serves table) (tree.evaluate { engine, limits, userCall := first } locals)
      (tree.evaluate { engine, limits, userCall := second } locals) := by
  induction tree with
  | leaf operand => exact .refl _
  | group body ih => exact ih
  | unary op operand ih => exact .bind (evaluate_serves bodies operand) ih fun _ => .refl _
  | binary op left right leftIH rightIH =>
      exact .bind (evaluate_serves bodies left) leftIH fun _ =>
        .bind (evaluate_serves bodies right) rightIH fun _ => .refl _
  | index container selector containerIH selectorIH =>
      exact .bind (evaluate_serves bodies container) containerIH fun _ =>
        .bind (evaluate_serves bodies selector) selectorIH fun _ => .refl _
  | call name arguments ih =>
      have kept : Keeps (Machine.Serves table) (fun _ => True)
          (Tree.evaluateAll { engine, limits, userCall := second } locals arguments) :=
        evaluateAll_keeps fun argument _ => evaluate_serves bodies argument
      have counts : Keeps (Machine.Serves table) (fun _ => True) (countStep limits) :=
        countStep_keeps fun _ _ => trivial
      exact .bind kept (evaluateAll_agree bodies ih) fun operands =>
        .bind counts (.refl _) fun _ => applyCall_agree agree name operands

theorem valueIn_agree (agree : UserCall.Agree table first second)
    (bodies : UserCall.Keeps table (fun _ => True) second) (tree : Tree Leaf) :
    Agree (Machine.Serves table) (tree.valueIn { engine, limits, userCall := first } locals)
      (tree.valueIn { engine, limits, userCall := second } locals) :=
  .bind (evaluate_serves bodies tree) (evaluate_agree agree bodies tree) fun _ => .refl _

/-- Running the program of a tree gives the value of the tree. -/
theorem runProgram_program (context : Context) (locals : Entries Value) (tree : Tree Leaf) :
    runProgram context locals tree.program = tree.valueIn context locals := by
  rw [runProgram, execute_program, bind_map_left, Tree.valueIn]
  refine bind_congr fun operand => ?_
  cases operand <;> rfl

/-- The bodies of the functions that a table defines are the programs of given trees. -/
def BodiesAre (bodyOf : UserFunction → Tree Leaf) (table : SymbolTable) : Prop :=
  ∀ function, table.Defines function → function.body = (bodyOf function).program

theorem runNested_agree (bodies : BodiesAre bodyOf table) (depth : Nat) (locals : Entries Value)
    (tree : Tree Leaf) :
    Agree (Machine.Serves table) (runNested engine limits depth locals tree.program)
      (evaluateNested engine limits bodyOf depth locals tree) := by
  induction depth generalizing locals tree with
  | zero =>
      rw [runNested, runProgram_program]
      exact .refl _
  | succ depth ih =>
      rw [runNested, runProgram_program]
      refine valueIn_agree ?_ ?_ tree
      · -- A run keeps the functions of its table, so the body is that of a given tree.
        intro function arguments defined
        dsimp only
        rw [bodies function defined]
        exact ih _ (bodyOf function)
      · intro runBody isUserCall function arguments defined
        cases isUserCall
        exact evaluateNested_keeps (fun _ _ => trivial) (fun _ _ _ _ _ _ => trivial) depth _
          fun _ _ _ _ => trivial

/-- Running the program of a tree on a stack does the same as evaluating the tree: the result or
the error, the symbol table and the number of steps are equal, for all limits and parameters. -/
theorem runNested_eq_evaluateNested (engine : Pattern.Engine) (limits : Limits)
    (bodyOf : UserFunction → Tree Leaf) (table : SymbolTable)
    (bodies : BodiesAre bodyOf table)
    (depth steps : Nat) (locals : Entries Value) (tree : Tree Leaf) :
    (runNested engine limits depth locals (tree.postorder Leaf.token)).run.run { table, steps } =
      (evaluateNested engine limits bodyOf depth locals tree).run.run { table, steps } :=
  runNested_agree bodies depth locals tree { table, steps } ⟨rfl, rfl⟩

/-- The body of a function that joins a text to itself. -/
def doubling : Tree Leaf :=
  .binary .add (.leaf (.var "x")) (.leaf (.var "x"))

/-- A table with such a function. -/
def doublingTable : SymbolTable :=
  { SymbolTable.initial with
    functions := [("twice", { params := ["x"], body := doubling.program })] }

theorem doublingTable_bodiesAre : BodiesAre (fun _ => doubling) doublingTable := by
  rintro function ⟨name, found⟩
  simp only [doublingTable, Entries.get?] at found
  split at found
  · cases found
    rfl
  · cases found

theorem runNested_doubling :
    (runNested (fun _ _ => .error "none") Limits.standard 1 []
        ((Tree.call "twice" [.leaf (.string "a")]).postorder Leaf.token)).run.run
        { table := doublingTable, steps := 0 } =
      (.ok (.string "aa"), { table := doublingTable, steps := 5 }) := by
  rw [runNested_eq_evaluateNested (fun _ _ => .error "none") Limits.standard (fun _ => doubling)
    doublingTable doublingTable_bodiesAre 1 0 [] (.call "twice" [.leaf (.string "a")])]
  rfl

end Agreement

end Evaluation

end Calculator
