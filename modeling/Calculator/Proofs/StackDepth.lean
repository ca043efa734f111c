import Calculator.Proofs.SideBySide

/-!
# The depth of the stack

The depth of a program is added up from its tokens alone, without a run.  A run takes its operands
from the stack one by one, and finds out only at each call how many arguments the called function
has.  The main statement is that both agree: wherever a run gets, its stack holds as many operands
as the depth of the tokens that it has processed.  So only programs of depth one have a value.
-/

namespace Calculator

namespace Run

/-- Every result of a computation satisfies a condition.  The computation may fail instead. -/
def Yields {α : Type} (condition : α → Prop) (computation : Run α) : Prop :=
  ∀ machine result after, computation.run.run machine = (.ok result, after) → condition result

namespace Yields

variable {α β : Type} {condition : α → Prop}

theorem pure {result : α} (holds : condition result) :
    Yields condition (Pure.pure result : Run α) := by
  intro machine found after ran
  cases ran
  exact holds

theorem throw (error : Error) : Yields condition (throw error : Run α) :=
  fun _ _ _ ran => nomatch ran

theorem lift {outcome : Except Error α}
    (holds : ∀ result, outcome = .ok result → condition result) :
    Yields condition (Evaluation.lift outcome) := by
  cases outcome with
  | ok result => exact pure (holds result rfl)
  | error error => exact throw error

theorem trivial (computation : Run α) : Yields (fun _ => True) computation :=
  fun _ _ _ _ => True.intro

theorem bind {later : β → Prop} {computation : Run α} {next : α → Run β}
    (first : Yields condition computation)
    (second : ∀ result, condition result → Yields later (next result)) :
    Yields later (computation >>= next) := by
  intro machine result after ran
  rw [run_bind] at ran
  cases outcome : computation.run.run machine with
  | mk produced middle =>
      rw [outcome] at ran
      cases produced with
      | ok value => exact second value (first machine value middle outcome) middle result after ran
      | error error => cases ran

/-- Of what comes before, only what it yields may matter later. -/
theorem after {computation : Run β} {next : β → Run α}
    (second : ∀ result, Yields condition (next result)) :
    Yields condition (computation >>= next) :=
  (trivial computation).bind fun result _ => second result

end Yields

end Run

namespace Program

theorem stackDepth_cons (token : Token) (rest : Program) :
    stackDepth (token :: rest) = token.stackEffect + stackDepth rest := by
  have shift (depth : Int) (tokens : Program) :
      tokens.foldl (fun sum token => sum + token.stackEffect) depth =
        depth + stackDepth tokens := by
    unfold stackDepth
    induction tokens generalizing depth with
    | nil => simp
    | cons first later ih =>
        rw [List.foldl_cons, List.foldl_cons, ih, ih (0 + first.stackEffect)]
        omega
  rw [stackDepth, List.foldl_cons, shift]
  omega

end Program

namespace Evaluation

variable {context : Context} {locals : Entries Value} {stack rest : List Operand}

/-! ## Operands that are taken from the stack -/

theorem pop_length {operator : String} {operand : Operand}
    (popped : pop operator stack = .ok (operand, rest)) : stack.length = rest.length + 1 := by
  cases stack with
  | nil => cases popped
  | cons first later =>
      cases popped
      rfl

theorem popValue_length {operator : String} {value : Value}
    (popped : popValue operator stack = .ok (value, rest)) : stack.length = rest.length + 1 := by
  cases stack with
  | nil => cases popped
  | cons first later =>
      cases first with
      | value held =>
          cases popped
          rfl
      | pattern pattern => cases popped

/-- A call leaves what lies below its arguments. -/
theorem popArguments_rest_length {name : String} {count : Nat} {values : List Value}
    (popped : popArguments name count stack = .ok (values, rest)) :
    stack.length = rest.length + count := by
  unfold popArguments at popped
  split at popped
  · cases popped
  · next enough =>
    obtain ⟨taken, -, equal⟩ := map_eq_ok_iff.mp popped
    cases equal
    rw [List.length_drop]
    omega

/-! ## One token -/

/-- A stack has grown by so many operands, or has shrunk if the number is negative. -/
def GrownBy (effect : Int) (stack next : List Operand) : Prop :=
  (next.length : Int) = stack.length + effect

/-- The outcome of an operation takes the place of its operands. -/
theorem grownBy_of_taken {count : Nat} {effect : Int} (taken : stack.length = rest.length + count)
    (isEffect : effect = 1 - count) (operand : Operand) :
    GrownBy effect stack (operand :: rest) := by
  rw [GrownBy, List.length_cons, taken, isEffect]
  omega

theorem grownBy_push (operand : Operand) : GrownBy 1 stack (operand :: stack) :=
  grownBy_of_taken (Nat.add_zero _).symm rfl operand

theorem grownBy_of_two {afterFirst : List Operand} (first : stack.length = afterFirst.length + 1)
    (second : afterFirst.length = rest.length + 1) (operand : Operand) :
    GrownBy (-1) stack (operand :: rest) := by
  have taken : stack.length = rest.length + 2 := by rw [first, second]
  exact grownBy_of_taken taken rfl operand

theorem call_grows (name : String) (count : Nat) (stack : List Operand) :
    Run.Yields (GrownBy (1 - count) stack) (call context name count stack) := by
  refine .after fun machine => ?_
  cases machine.table.function? name with
  | none => exact .throw _
  | some function =>
      dsimp only
      split
      · exact .throw _
      · next sameCount =>
        have arity : count = function.arity := not_not.mp sameCount
        cases function with
        | builtin builtin =>
            -- A built-in function takes one operand, and so many arguments has the call.
            refine .bind (.lift fun _ => popValue_length) fun popped taken => ?_
            exact .after fun result => .pure (grownBy_of_taken taken (by rw [arity]; rfl) _)
        | user function =>
            dsimp only
            split
            · exact .throw _
            · refine .bind (.lift fun _ => popArguments_rest_length) fun popped taken => ?_
              exact .after fun result => .pure (grownBy_of_taken taken rfl _)
        | host function =>
            refine .bind (.lift fun _ => popArguments_rest_length) fun popped taken => ?_
            split
            · exact .pure (grownBy_of_taken taken rfl _)
            · exact .throw _

/-- The stack grows at every token as the effect of the token says. -/
theorem step_grows (token : Token) (stack : List Operand) :
    Run.Yields (GrownBy token.stackEffect stack) (step context locals token stack) := by
  cases token with
  | number | string | value => exact .pure (grownBy_push _)
  | literal | var | capture | regex => exact .after fun result => .pure (grownBy_push _)
  | call name count => exact call_grows name count stack
  | index =>
      refine .bind (.lift fun _ => popValue_length) fun key taken => ?_
      refine .bind (.lift fun _ => popValue_length) fun container takenNext => ?_
      exact .after fun result => .pure (grownBy_of_two taken takenNext _)
  | op op =>
      cases op with
      | unary op =>
          refine .bind (.lift fun _ => popValue_length) fun operand taken => ?_
          exact .after fun result => .pure (grownBy_of_taken taken rfl _)
      | binary op =>
          by_cases isMatch : op = .regexMatch
          · subst isMatch
            refine .bind (.lift fun _ => pop_length) fun right taken => ?_
            refine .after fun pattern => ?_
            refine .bind (.lift fun _ => popValue_length) fun subject takenNext => ?_
            exact .after fun result => .pure (grownBy_of_two taken takenNext _)
          · rw [step]
            · refine .bind (.lift fun _ => popValue_length) fun right taken => ?_
              refine .bind (.lift fun _ => popValue_length) fun left takenNext => ?_
              exact .after fun result => .pure (grownBy_of_two taken takenNext _)
            · exact isMatch

/-! ## Whole programs -/

/-- The stack grows in a run by the depth of the program. -/
theorem execute_grows (program : Program) (stack : List Operand) :
    Run.Yields (GrownBy program.stackDepth stack) (execute context locals program stack) := by
  induction program generalizing stack with
  | nil => exact .pure (Int.add_zero _).symm
  | cons token rest ih =>
      refine .after fun _ => (step_grows token stack).bind fun next grown => ?_
      intro machine result after ran
      have grownLater : GrownBy (Program.stackDepth rest) next result :=
        ih next machine result after ran
      rw [GrownBy, Program.stackDepth_cons, grownLater, grown]
      omega

theorem result_eq_ok {value : Value} (taken : result stack = .ok value) : stack.length = 1 := by
  unfold result at taken
  split at taken
  · rfl
  · cases taken
  · cases taken

/-- Only a program of depth one yields a value. -/
theorem runProgram_stackDepth (program : Program) :
    Run.Yields (fun _ => program.stackDepth = 1) (runProgram context locals program) := by
  refine .bind (execute_grows program []) fun stack grown => .lift fun value taken => ?_
  rw [GrownBy, result_eq_ok taken, List.length_nil] at grown
  omega

theorem runNested_stackDepth (engine : Pattern.Engine) (limits : Limits) (depth : Nat)
    (program : Program) :
    Run.Yields (fun _ => program.stackDepth = 1)
      (runNested engine limits depth locals program) := by
  cases depth <;> exact runProgram_stackDepth program

/-- Whichever tokens of a program have been processed, the stack holds as many operands as their
depth says, for every table and in calls of defined functions as well.  So a program with a value
has depth one, and every other program fails. -/
theorem execute_measured (program : Program) :
    (∀ (context : Context) (locals : Entries Value) (count : Nat),
      execute context locals program [] =
          execute context locals (program.take count) [] >>=
            execute context locals (program.drop count) ∧
        ∀ machine stack after,
          (execute context locals (program.take count) []).run.run machine = (.ok stack, after) →
            (stack.length : Int) = Program.stackDepth (program.take count)) ∧
      (∀ engine limits table value after,
        run engine limits program table = (.ok value, after) → program.stackDepth = 1) ∧
      (program.stackDepth ≠ 1 → ∀ engine limits table,
        ∃ error, (run engine limits program table).1 = .error error) := by
  have depthOfRun (engine : Pattern.Engine) (limits : Limits) (table : SymbolTable) (value : Value)
      (ended : (run engine limits program table).1 = .ok value) : program.stackDepth = 1 :=
    runNested_stackDepth engine limits limits.maxDepth program { table, steps := 0 } value _
      (Prod.ext ended rfl)
  refine ⟨fun context locals count => ⟨?_, fun machine stack after ran => ?_⟩,
    fun engine limits table value after ended => ?_, fun notOne engine limits table => ?_⟩
  · rw [← execute_append, List.take_append_drop]
  · have grown : GrownBy (Program.stackDepth (program.take count)) [] stack :=
      execute_grows (program.take count) [] machine stack after ran
    rwa [GrownBy, List.length_nil, Int.natCast_zero, Int.zero_add] at grown
  · exact depthOfRun engine limits table value (by rw [ended])
  · cases ended : (run engine limits program table).1 with
    | ok value => exact absurd (depthOfRun engine limits table value ended) notOne
    | error error => exact ⟨error, rfl⟩

/-- A sum whose right operand is the call of a function that joins a text to itself.  After the call
the stack holds two operands. -/
theorem execute_measured_doubling :
    let engine : Pattern.Engine := fun _ _ => .error "none"
    let context : Context :=
      { engine, limits := Limits.standard
        userCall := some fun function arguments =>
          runNested engine Limits.standard 0 (function.params.zip arguments) function.body }
    let operands : Program := [.string "a", .string "b", .call "twice" 1]
    let sum : Program := operands ++ [.op (.binary .add)]
    let start : Machine := { table := doublingTable, steps := 0 }
    let stack : List Operand := [.value (.string "bb"), .value (.string "a")]
    (execute context [] (sum.take 3) []).run.run start =
        (.ok stack, { table := doublingTable, steps := 6 }) ∧
      (stack.length : Int) = Program.stackDepth (sum.take 3) ∧
      run engine Limits.standard sum doublingTable = (.ok (.string "abb"), doublingTable) ∧
      sum.stackDepth = 1 ∧
      operands.stackDepth ≠ 1 ∧
      ∃ error, (run engine Limits.standard operands doublingTable).1 = .error error := by
  intro engine context operands sum start stack
  have reached : (execute context [] (sum.take 3) []).run.run start =
      (.ok stack, { table := doublingTable, steps := 6 }) := rfl
  have ended : run engine Limits.standard sum doublingTable =
      (.ok (.string "abb"), doublingTable) := rfl
  have notOne : operands.stackDepth ≠ 1 := by decide
  have ofSum := execute_measured sum
  have ofOperands := execute_measured operands
  exact ⟨reached, (ofSum.1 context [] 3).2 _ _ _ reached, ended,
    ofSum.2.1 _ _ _ _ _ ended, notOne, ofOperands.2.2 notOne engine Limits.standard doublingTable⟩

end Evaluation

end Calculator
