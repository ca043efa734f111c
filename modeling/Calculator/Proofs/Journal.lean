import Calculator.Proofs.Failures
import Calculator.Proofs.NestedCalls
import Mathlib.Control.Monad.Writer

/-!
# The journal of a run

A run can be watched while it goes on.  A watched run does what the run does, and writes a journal:
which tokens it executes, which bodies of defined functions it enters and leaves, and what its
match operators find.  The main statement is that watching a run does not change it.
-/

namespace Calculator

structure Finding where
  pattern : Pattern
  subject : String
  groups : Pattern.Groups
  isMatch : pattern.find subject = some groups

/-- Something that happens in a run. -/
inductive Event
  /-- The execution of a token begins. -/
  | token (token : Token)
  /-- The body of a defined function begins to run. -/
  | enter (function : UserFunction)
  /-- The innermost body has given a value. -/
  | leave
  /-- A match operator has found its pattern. -/
  | found (finding : Finding)

/-- A run that writes a journal.  What was written before a failure stays. -/
abbrev Watched := ExceptT Error (WriterT (List Event) (StateM Machine))

namespace Watched

variable {α β : Type}

/-- A run that writes nothing. -/
def ofRun (computation : Run α) : Watched α :=
  ExceptT.mk (liftM computation.run)

def write (event : Event) : Watched Unit :=
  liftM (tell [event] : WriterT (List Event) (StateM Machine) Unit)

/-- The outcome of a watched run and the machine after it, together with the journal. -/
def observe (watched : Watched α) (machine : Machine) :
    (Except Error α × Machine) × List Event :=
  let ended := watched.run.run.run machine
  ((ended.1.1, ended.2), ended.1.2)

section Evaluator

open Evaluation

variable (engine : Pattern.Engine) (limits : Limits)
  (userCall : Option (UserFunction → List Value → Watched Value))

/-- Match a pattern, and write down what it finds. -/
def matchPattern (pattern : Pattern) (subject : String) : Watched Value :=
  match isMatch : pattern.find subject with
  | some groups => do
    write (.found { pattern, subject, groups, isMatch })
    ofRun (Evaluation.matchPattern pattern subject)
  | none => ofRun (Evaluation.matchPattern pattern subject)

/-- Call a function.  Entering and leaving the body of a defined function is written down. -/
def call (name : String) (count : Nat) (stack : List Operand) : Watched (List Operand) := do
  match (← get).table.function? name with
  | some (.user function) =>
    if count ≠ function.params.length then
      throw (.argumentCount name count function.params.length)
    else
      match userCall with
      | none => throw (.recursionLimit limits.maxDepth)
      | some runBody =>
        let (arguments, rest) ← ofRun (lift (popArguments name count stack))
        write (.enter function)
        let result ← runBody function arguments
        write .leave
        pure (.value result :: rest)
  | _ => ofRun (Evaluation.call { engine, limits, userCall := none } name count stack)

def step (locals : Entries Value) (token : Token) (stack : List Operand) :
    Watched (List Operand) :=
  match token with
  | .call name count => call engine limits userCall name count stack
  | .op (.binary .regexMatch) => do
    let (right, afterRight) ← ofRun (lift (pop BinaryOp.regexMatch.symbol stack))
    let pattern ← ofRun (lift (patternOf engine right))
    let (subject, rest) ← ofRun (lift (popValue BinaryOp.regexMatch.symbol afterRight))
    let result ← matchPattern pattern subject.asText
    pure (.value result :: rest)
  | token => ofRun (Evaluation.step { engine, limits, userCall := none } locals token stack)

/-- Process the tokens of a program in order.  A token is written down when its step has been
counted. -/
def execute (locals : Entries Value) : Program → List Operand → Watched (List Operand)
  | [], stack => pure stack
  | token :: rest, stack => do
    ofRun (countStep limits)
    write (.token token)
    let next ← step engine limits userCall locals token stack
    execute locals rest next

def runProgram (locals : Entries Value) (program : Program) : Watched Value := do
  let stack ← execute engine limits userCall locals program []
  ofRun (lift (result stack))

end Evaluator

def runNested (engine : Pattern.Engine) (limits : Limits) :
    Nat → Entries Value → Program → Watched Value
  | 0, locals, program => runProgram engine limits none locals program
  | depth + 1, locals, program =>
    let userCall (function : UserFunction) (arguments : List Value) : Watched Value :=
      runNested engine limits depth (function.params.zip arguments) function.body
    runProgram engine limits (some userCall) locals program

end Watched

/-- Run a program against a symbol table, and keep the journal of the run. -/
def Evaluation.watch (engine : Pattern.Engine) (limits : Limits) (program : Program)
    (table : SymbolTable) : (Except Error Value × SymbolTable) × List Event :=
  let observed :=
    (Watched.runNested engine limits limits.maxDepth [] program).observe { table, steps := 0 }
  ((observed.1.1, observed.1.2.table), observed.2)

namespace Watched

variable {α β : Type} {machine : Machine}

section Observations

/-- A failure ends a sequence of watched runs, with the journal as it is. -/
theorem observe_bind (watched : Watched α) (next : α → Watched β) (machine : Machine) :
    observe (watched >>= next) machine =
      match observe watched machine with
      | ((.ok result, after), events) =>
        ((observe (next result) after).1, events ++ (observe (next result) after).2)
      | ((.error error, after), events) => ((.error error, after), events) := by
  have unfolded : observe (watched >>= next) machine =
      (let ended := (watched.run.run.run machine : (Except Error α × List Event) × Machine)
      let later := (ExceptT.bindCont next ended.1.1).run.run ended.2
      ((later.1.1, later.2), ended.1.2 ++ later.1.2)) := rfl
  rw [unfolded, observe]
  cases watched.run.run.run machine with
  | mk written after =>
      obtain ⟨outcome, events⟩ := written
      cases outcome with
      | ok result => rfl
      | error error => exact Prod.ext rfl (List.append_nil events)

@[simp]
theorem observe_ofRun (computation : Run α) (machine : Machine) :
    observe (ofRun computation) machine = (computation.run.run machine, []) :=
  rfl

@[simp]
theorem observe_write (event : Event) (machine : Machine) :
    observe (write event) machine = ((.ok (), machine), [event]) :=
  rfl

@[simp]
theorem observe_get (machine : Machine) :
    observe (get : Watched Machine) machine = ((.ok machine, machine), []) :=
  rfl

theorem observe_lift_ok_bind (result : α) (next : α → Watched β) (machine : Machine) :
    observe (ofRun (Evaluation.lift (.ok result)) >>= next) machine =
      observe (next result) machine := by
  rw [observe_bind]
  rfl

theorem observe_lift_error_bind (error : Error) (next : α → Watched β) (machine : Machine) :
    observe (ofRun (Evaluation.lift (.error error)) >>= next) machine =
      ((.error error, machine), []) := by
  rw [observe_bind]
  rfl

theorem observe_pure_bind (result : α) (next : α → Watched β) (machine : Machine) :
    observe (pure result >>= next) machine = observe (next result) machine := by
  rw [observe_bind]
  rfl

theorem observe_write_bind (event : Event) (next : Unit → Watched β) (machine : Machine) :
    observe (write event >>= next) machine =
      ((observe (next ()) machine).1, event :: (observe (next ()) machine).2) := by
  rw [observe_bind]
  rfl

theorem observe_bind_assoc {γ : Type} (watched : Watched α) (next : α → Watched β)
    (last : β → Watched γ) (machine : Machine) :
    observe (watched >>= next >>= last) machine =
      observe (watched >>= fun result => next result >>= last) machine := by
  rw [observe_bind, observe_bind, observe_bind]
  cases watched.observe machine with
  | mk ended events =>
      obtain ⟨outcome, middle⟩ := ended
      cases outcome with
      | error error => rfl
      | ok result =>
          dsimp only
          rw [observe_bind]
          cases (next result).observe middle with
          | mk ended later =>
              obtain ⟨outcome, after⟩ := ended
              cases outcome with
              | error error => rfl
              | ok result => exact Prod.ext rfl (List.append_assoc _ _ _)

end Observations

/-- A watched run does what a run does: it has the same outcome and leaves the same machine. -/
def Watches (watched : Watched α) (computation : Run α) : Prop :=
  ∀ machine, (watched.observe machine).1 = computation.run.run machine

namespace Watches

theorem ofRun (computation : Run α) : Watches (ofRun computation) computation :=
  fun _ => rfl

theorem pure (result : α) : Watches (Pure.pure result) (Pure.pure result) :=
  fun _ => rfl

theorem bind {watched : Watched α} {computation : Run α} {watchedNext : α → Watched β}
    {next : α → Run β} (first : Watches watched computation)
    (second : ∀ result, Watches (watchedNext result) (next result)) :
    Watches (watched >>= watchedNext) (computation >>= next) := by
  intro machine
  rw [observe_bind, Run.run_bind, ← first machine]
  cases watched.observe machine with
  | mk ended events =>
      obtain ⟨outcome, after⟩ := ended
      cases outcome with
      | ok result => exact second result after
      | error error => rfl

theorem write_bind {event : Event} {watched : Watched α} {computation : Run α}
    (watches : Watches watched computation) :
    Watches (write event >>= fun _ => watched) computation := by
  intro machine
  rw [observe_bind, observe_write]
  exact watches machine

end Watches

section Erasure

open Evaluation

variable {engine : Pattern.Engine} {limits : Limits}
  {watchedCall : Option (UserFunction → List Value → Watched Value)} {userCall : UserCall}

/-- Two ways to run defined functions do the same, and one of them is watched. -/
def WatchesCall : Option (UserFunction → List Value → Watched Value) → UserCall → Prop
  | none, none => True
  | some watchedBody, some runBody =>
    ∀ function arguments, Watches (watchedBody function arguments) (runBody function arguments)
  | _, _ => False

theorem matchPattern_watches (pattern : Pattern) (subject : String) :
    Watches (matchPattern pattern subject) (Evaluation.matchPattern pattern subject) := by
  unfold matchPattern
  split
  · exact .write_bind (.ofRun _)
  · exact .ofRun _

theorem run_get (machine : Machine) :
    (get : Run Machine).run.run machine = (.ok machine, machine) :=
  rfl

/-- Only calls of defined functions depend on how these are run. -/
theorem run_call_of_not_user {context : Context} {name : String}
    (notUser : ∀ function, machine.table.function? name ≠ some (.user function)) (count : Nat)
    (stack : List Operand) :
    (Evaluation.call context name count stack).run.run machine =
      (Evaluation.call { context with userCall := none } name count stack).run.run machine := by
  unfold Evaluation.call
  rw [Run.run_bind, Run.run_bind, run_get]
  dsimp only
  cases found : machine.table.function? name with
  | none => rfl
  | some function =>
      cases function with
      | builtin builtin => rfl
      | host function => rfl
      | user function => exact absurd found (notUser function)

theorem run_call_of_user {context : Context} {name : String} {function : UserFunction}
    (found : machine.table.function? name = some (.user function)) (count : Nat)
    (stack : List Operand) :
    (Evaluation.call context name count stack).run.run machine =
      (if count ≠ function.params.length then
        throw (.argumentCount name count function.params.length)
      else
        match context.userCall with
        | none => throw (.recursionLimit context.limits.maxDepth)
        | some runBody => do
          let (arguments, rest) ← lift (popArguments name count stack)
          let result ← runBody function arguments
          pure (.value result :: rest) : Run (List Operand)).run.run machine := by
  unfold Evaluation.call
  rw [Run.run_bind, run_get]
  dsimp only
  rw [found]
  rfl

theorem observe_call_of_not_user {name : String}
    (notUser : ∀ function, machine.table.function? name ≠ some (.user function)) (count : Nat)
    (stack : List Operand) :
    observe (call engine limits watchedCall name count stack) machine =
      ((Evaluation.call { engine, limits, userCall := none } name count stack).run.run machine,
        []) := by
  unfold call
  rw [observe_bind]
  dsimp only [observe_get]
  split
  · next function found => exact absurd found (notUser function)
  · rfl

theorem observe_call_of_user {name : String} {function : UserFunction}
    (found : machine.table.function? name = some (.user function)) (count : Nat)
    (stack : List Operand) :
    observe (call engine limits watchedCall name count stack) machine =
      observe (if count ≠ function.params.length then
          throw (.argumentCount name count function.params.length)
        else
          match watchedCall with
          | none => throw (.recursionLimit limits.maxDepth)
          | some runBody => do
            let (arguments, rest) ← ofRun (lift (popArguments name count stack))
            write (.enter function)
            let result ← runBody function arguments
            write .leave
            pure (.value result :: rest)) machine := by
  unfold call
  rw [observe_bind]
  dsimp only [observe_get]
  rw [found]
  rfl

theorem call_watches (calls : WatchesCall watchedCall userCall) (name : String) (count : Nat)
    (stack : List Operand) :
    Watches (call engine limits watchedCall name count stack)
      (Evaluation.call { engine, limits, userCall } name count stack) := by
  intro machine
  by_cases isUser : ∃ function, machine.table.function? name = some (.user function)
  · obtain ⟨function, found⟩ := isUser
    rw [run_call_of_user found, observe_call_of_user found]
    split
    · rfl
    · cases watchedCall with
      | none =>
          cases userCall with
          | none => rfl
          | some runBody => exact calls.elim
      | some watchedBody =>
          cases userCall with
          | none => exact calls.elim
          | some runBody =>
              have watches : Watches
                  (do
                    let (arguments, rest) ← ofRun (lift (popArguments name count stack))
                    write (.enter function)
                    let result ← watchedBody function arguments
                    write .leave
                    pure (.value result :: rest))
                  (do
                    let (arguments, rest) ← lift (popArguments name count stack)
                    let result ← runBody function arguments
                    pure (.value result :: rest)) := by
                refine .bind (.ofRun _) fun popped => .write_bind ?_
                exact .bind (calls function popped.1) fun result => .write_bind (.pure _)
              exact watches machine
  · rw [run_call_of_not_user (not_exists.mp isUser),
      observe_call_of_not_user (not_exists.mp isUser)]

theorem step_of_other {token : Token} (notMatch : token ≠ .op (.binary .regexMatch))
    (notCall : ∀ name count, token ≠ .call name count) (locals : Entries Value)
    (stack : List Operand) :
    step engine limits watchedCall locals token stack =
      ofRun (Evaluation.step { engine, limits, userCall } locals token stack) := by
  have same : Evaluation.step { engine, limits, userCall } locals token stack =
      Evaluation.step { engine, limits, userCall := none } locals token stack := by
    cases token with
    | call name count => exact absurd rfl (notCall name count)
    | op op =>
        cases op with
        | unary op => rfl
        | binary op => cases op <;> rfl
    | number | string | literal | value | var | capture | regex | index => rfl
  rw [step, same]
  · exact notCall
  · exact notMatch

theorem step_watches (calls : WatchesCall watchedCall userCall) (locals : Entries Value)
    (token : Token) (stack : List Operand) :
    Watches (step engine limits watchedCall locals token stack)
      (Evaluation.step { engine, limits, userCall } locals token stack) := by
  by_cases isCall : ∃ name count, token = .call name count
  · obtain ⟨name, count, rfl⟩ := isCall
    exact call_watches calls name count stack
  by_cases isMatch : token = .op (.binary .regexMatch)
  · subst isMatch
    refine .bind (.ofRun _) fun right => ?_
    refine .bind (.ofRun _) fun pattern => ?_
    refine .bind (.ofRun _) fun subject => ?_
    exact .bind (matchPattern_watches _ _) fun result => .pure _
  · have notCall : ∀ name count, token ≠ .call name count :=
      fun name count isToken => isCall ⟨name, count, isToken⟩
    rw [step_of_other isMatch notCall]
    exact .ofRun _

theorem execute_watches (calls : WatchesCall watchedCall userCall) (locals : Entries Value)
    (program : Program) (stack : List Operand) :
    Watches (execute engine limits watchedCall locals program stack)
      (Evaluation.execute { engine, limits, userCall } locals program stack) := by
  induction program generalizing stack with
  | nil => exact .pure _
  | cons token rest ih =>
      refine .bind (.ofRun _) fun counted => .write_bind ?_
      exact .bind (step_watches calls locals token stack) fun next => ih next

theorem runNested_watches (depth : Nat) (locals : Entries Value) (program : Program) :
    Watches (runNested engine limits depth locals program)
      (Evaluation.runNested engine limits depth locals program) := by
  induction depth generalizing locals program with
  | zero =>
      refine .bind (execute_watches ?_ locals program []) fun stack => .ofRun _
      trivial
  | succ depth ih =>
      refine .bind (execute_watches ?_ locals program []) fun stack => .ofRun _
      exact fun function arguments => ih _ function.body

end Erasure

end Watched

/-- Watching a run does not change it. -/
theorem Evaluation.watch_fst (engine : Pattern.Engine) (limits : Limits) (program : Program)
    (table : SymbolTable) :
    (watch engine limits program table).1 = run engine limits program table := by
  have watches : Watched.Watches (Watched.runNested engine limits limits.maxDepth [] program)
      (runNested engine limits limits.maxDepth [] program) :=
    Watched.runNested_watches limits.maxDepth [] program
  rw [run, ← watches]
  rfl

end Calculator
