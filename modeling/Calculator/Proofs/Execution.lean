import Calculator.Interpreter
import Calculator.Proofs.Journal
import Calculator.Proofs.SideBySide

/-!
# How a run can go on

A run executes the tokens of its program one after another.  After each token it can halt with an
error, go on with the next token, or run the body of a defined function first.  These are all the
ways, and with each of them goes what the journal gets and how the machine changes.  What is true
of all runs can be proved by induction on them.
-/

namespace Calculator

def Machine.counted (machine : Machine) : Machine :=
  { machine with steps := machine.steps + 1 }

/-- The symbol table after a match. -/
def SymbolTable.capture (finding : Finding) (table : SymbolTable) : SymbolTable :=
  table.setCaptures (Pattern.groupTexts finding.groups)

def Machine.capture (finding : Finding) (machine : Machine) : Machine :=
  { machine with table := machine.table.capture finding }

@[simp]
theorem Machine.steps_counted (machine : Machine) : machine.counted.steps = machine.steps + 1 :=
  rfl

@[simp]
theorem Machine.steps_capture (finding : Finding) (machine : Machine) :
    (machine.capture finding).steps = machine.steps :=
  rfl

/-- The defined function that a token calls, if it does. -/
def SymbolTable.callee? (table : SymbolTable) : Token → Option UserFunction
  | .call name _ =>
    match table.function? name with
    | some (.user function) => some function
    | _ => none
  | _ => none

/-- A program runs on a machine where calls may nest so many levels deeper.  It ends without an
error or with one, leaves a machine, and has written a journal.  The functions that it calls are
those of a table. -/
inductive Execution (limits : Limits) (table : SymbolTable) :
    Nat → Program → Machine → Option Error → Machine → List Event → Prop
  /-- No token is left.  What is left on the stack may not be a result. -/
  | ended {depth : Nat} {machine : Machine} {failure : Option Error}
      (noLimit : ∀ error, failure = some error → ¬error.IsLimit) :
      Execution limits table depth [] machine failure machine []
  /-- The next step is one too many. -/
  | exhausted {depth : Nat} {token : Token} {rest : Program} {machine : Machine}
      (exceeded : limits.maxSteps < machine.steps + 1) :
      Execution limits table depth (token :: rest) machine
        (some (.stepLimit limits.maxSteps)) machine.counted []
  /-- The token fails. -/
  | halted {depth : Nat} {token : Token} {rest : Program} {machine : Machine} {error : Error}
      (allowed : machine.steps + 1 ≤ limits.maxSteps) (noLimit : ¬error.IsLimit) :
      Execution limits table depth (token :: rest) machine (some error) machine.counted
        [.token token]
  /-- The token changes nothing but the stack. -/
  | plain {depth : Nat} {token : Token} {rest : Program} {machine after : Machine}
      {failure : Option Error} {events : List Event}
      (allowed : machine.steps + 1 ≤ limits.maxSteps) (noCallee : table.callee? token = none)
      (later : Execution limits table depth rest machine.counted failure after events) :
      Execution limits table depth (token :: rest) machine failure after (.token token :: events)
  /-- A match operator finds its pattern. -/
  | found {depth : Nat} {rest : Program} {machine after : Machine} {failure : Option Error}
      {finding : Finding} {events : List Event}
      (allowed : machine.steps + 1 ≤ limits.maxSteps)
      (later : Execution limits table depth rest (machine.counted.capture finding) failure after
        events) :
      Execution limits table depth (.op (.binary .regexMatch) :: rest) machine failure after
        (.token (.op (.binary .regexMatch)) :: .found finding :: events)
  /-- Calls may not nest any deeper. -/
  | refused {token : Token} {rest : Program} {machine : Machine} {function : UserFunction}
      (allowed : machine.steps + 1 ≤ limits.maxSteps)
      (isCallee : table.callee? token = some function) :
      Execution limits table 0 (token :: rest) machine (some (.recursionLimit limits.maxDepth))
        machine.counted [.token token]
  /-- The body of a called function gives a value. -/
  | returned {depth : Nat} {token : Token} {rest : Program} {machine middle after : Machine}
      {function : UserFunction} {failure : Option Error} {inner events : List Event}
      (allowed : machine.steps + 1 ≤ limits.maxSteps)
      (isCallee : table.callee? token = some function)
      (body : Execution limits table depth function.body machine.counted none middle inner)
      (later : Execution limits table (depth + 1) rest middle failure after events) :
      Execution limits table (depth + 1) (token :: rest) machine failure after
        (.token token :: .enter function :: (inner ++ .leave :: events))
  /-- The body of a called function fails. -/
  | failed {depth : Nat} {token : Token} {rest : Program} {machine after : Machine}
      {function : UserFunction} {error : Error} {inner : List Event}
      (allowed : machine.steps + 1 ≤ limits.maxSteps)
      (isCallee : table.callee? token = some function)
      (body : Execution limits table depth function.body machine.counted (some error) after
        inner) :
      Execution limits table (depth + 1) (token :: rest) machine (some error) after
        (.token token :: .enter function :: inner)

section Harmless

open Evaluation Run

variable {start : Machine}

/-- A computation leaves a machine as it is, and fails for no limit. -/
abbrev Run.Rests {α : Type} (start : Machine) (computation : Run α) : Prop :=
  Keeps (· = start) (fun error => ¬error.IsLimit) computation

theorem popValue_failsOnly (operator : String) (stack : List Operand) :
    FailsOnly (fun error => ¬error.IsLimit) (popValue operator stack) := by
  unfold popValue
  split
  · exact .ok _
  · exact .error nofun
  · exact .error nofun

theorem pop_failsOnly (operator : String) (stack : List Operand) :
    FailsOnly (fun error => ¬error.IsLimit) (pop operator stack) := by
  unfold pop
  split
  · exact .ok _
  · exact .error nofun

theorem popArguments_failsOnly (name : String) (count : Nat) (stack : List Operand) :
    FailsOnly (fun error => ¬error.IsLimit) (popArguments name count stack) := by
  unfold popArguments
  split
  · exact .error nofun
  · exact ((argumentValues_failsOnly name _).mono fun _ concerns => concerns.noLimit).map _

theorem result_failsOnly (stack : List Operand) :
    FailsOnly (fun error => ¬error.IsLimit) (result stack) := by
  unfold result
  split
  · exact .ok _
  · exact .error nofun
  · exact .error nofun

theorem lift_rests {α : Type} {outcome : Except Error α}
    (fails : FailsOnly Error.ConcernsValues outcome) : Rests start (lift outcome) :=
  .lift (fails.mono fun _ concerns => concerns.noLimit)

theorem popValue_rests (operator : String) (stack : List Operand) :
    Rests start (lift (popValue operator stack)) :=
  .lift (popValue_failsOnly operator stack)

theorem lookup_rests (locals : Entries Value) (name : String) :
    Rests start (lookup locals name) := by
  unfold lookup
  split
  · exact .pure _
  · refine .get_bind fun machine _ => ?_
    split
    · exact .pure _
    · exact .throw nofun

theorem call_rests {context : Context} {name : String}
    (notUser : ∀ function, start.table.function? name ≠ some (.user function)) (count : Nat)
    (stack : List Operand) : Rests start (call context name count stack) := by
  refine .get_bind fun machine isStart => ?_
  subst isStart
  cases found : machine.table.function? name with
  | none => exact .throw nofun
  | some function =>
      dsimp only
      split
      · exact .throw nofun
      · cases function with
        | user function => exact absurd found (notUser function)
        | builtin builtin =>
            refine .bind (popValue_rests name stack) fun popped => ?_
            exact .bind (lift_rests (Builtin.call_failsOnly builtin _)) fun result => .pure _
        | host function =>
            refine .bind (.lift (popArguments_failsOnly name count stack)) fun popped => ?_
            split
            · exact .pure _
            · exact .throw nofun

theorem step_rests {context : Context} {token : Token}
    (notMatch : token ≠ .op (.binary .regexMatch))
    (notCall : ∀ name count, token ≠ .call name count)
    (locals : Entries Value) (stack : List Operand) :
    Rests start (step context locals token stack) := by
  cases token with
  | call name count => exact absurd rfl (notCall name count)
  | number | string | value => exact .pure _
  | literal raw => exact .bind (lift_rests (Value.ofLiteral_failsOnly raw)) fun value => .pure _
  | var name => exact .bind (lookup_rests locals name) fun value => .pure _
  | capture name => exact .bind (lookup_rests [] name) fun value => .pure _
  | regex source flags =>
      refine .bind (lift_rests (.mapError (fun _ => ?_) _)) fun pattern => .pure _
      exact ⟨⟨rfl, nofun⟩, nofun⟩
  | index =>
      refine .bind (popValue_rests "[" stack) fun key => ?_
      refine .bind (popValue_rests "[" _) fun container => ?_
      exact .bind (lift_rests (Value.select_failsOnly _ _)) fun result => .pure _
  | op op =>
      cases op with
      | unary op =>
          refine .bind (popValue_rests _ stack) fun operand => ?_
          exact .bind (lift_rests (Value.applyUnary_failsOnly op _)) fun result => .pure _
      | binary op =>
          have meaningful : op ≠ .regexMatch := fun isMatch => notMatch (by rw [isMatch])
          rw [step]
          · refine .bind (popValue_rests _ stack) fun right => ?_
            refine .bind (popValue_rests _ _) fun left => ?_
            exact .bind (lift_rests (Value.apply_failsOnly meaningful _ _)) fun result => .pure _
          · exact meaningful

end Harmless

section Serving

variable {limits : Limits} {table : SymbolTable} {depth : Nat} {program : Program}
  {machine after : Machine} {failure : Option Error} {events : List Event}

/-- A run keeps the functions of its table. -/
theorem Execution.serves (execution : Execution limits table depth program machine failure after
    events) (serves : machine.Serves table) : after.Serves table := by
  induction execution with
  | ended noLimit => exact serves
  | exhausted exceeded => exact serves
  | halted allowed noLimit => exact serves
  | plain allowed noCallee later ih => exact ih serves
  | found allowed later ih => exact ih serves
  | refused allowed isCallee => exact serves
  | returned allowed isCallee body later bodyIH laterIH => exact laterIH (bodyIH serves)
  | failed allowed isCallee body ih => exact ih serves

theorem SymbolTable.callee?_call {name : String} {count : Nat} {function : UserFunction}
    (found : table.function? name = some (.user function)) :
    table.callee? (.call name count) = some function := by
  rw [callee?, found]

theorem SymbolTable.callee?_eq_none {token : Token}
    (notUser : ∀ name count, token = .call name count →
      ∀ function, table.function? name ≠ some (.user function)) :
    table.callee? token = none := by
  unfold callee?
  split
  · next name count =>
    split
    · next function found => exact absurd found (notUser name count rfl function)
    · rfl
  · rfl

end Serving

section Watching

open Evaluation

variable {limits : Limits} {table : SymbolTable} {depth : Nat} {engine : Pattern.Engine}
  {watchedCall : Option (UserFunction → List Value → Watched Value)} {machine : Machine}

/-- All that the execution of a token can come to, with the machine after it and what it writes. -/
inductive Effect (limits : Limits) (table : SymbolTable) :
    Nat → Token → Machine → (Except Error (List Operand) × Machine) × List Event → Prop
  | halted {depth : Nat} {token : Token} {machine : Machine} {error : Error}
      (noLimit : ¬error.IsLimit) :
      Effect limits table depth token machine ((.error error, machine), [])
  | plain {depth : Nat} {token : Token} {machine : Machine} (next : List Operand)
      (noCallee : table.callee? token = none) :
      Effect limits table depth token machine ((.ok next, machine), [])
  | found {depth : Nat} {machine : Machine} (next : List Operand) (finding : Finding) :
      Effect limits table depth (.op (.binary .regexMatch)) machine
        ((.ok next, machine.capture finding), [.found finding])
  | refused {token : Token} {machine : Machine} {function : UserFunction}
      (isCallee : table.callee? token = some function) :
      Effect limits table 0 token machine
        ((.error (.recursionLimit limits.maxDepth), machine), [])
  | returned {depth : Nat} {token : Token} {machine middle : Machine} {function : UserFunction}
      {inner : List Event} (next : List Operand) (isCallee : table.callee? token = some function)
      (body : Execution limits table depth function.body machine none middle inner) :
      Effect limits table (depth + 1) token machine
        ((.ok next, middle), .enter function :: (inner ++ [.leave]))
  | failed {depth : Nat} {token : Token} {machine after : Machine} {function : UserFunction}
      {error : Error} {inner : List Event} (isCallee : table.callee? token = some function)
      (body : Execution limits table depth function.body machine (some error) after inner) :
      Effect limits table (depth + 1) token machine
        ((.error error, after), .enter function :: inner)

/-- From all machines with the functions of a table, a watched run goes as a program can. -/
def Watched.Performs {α : Type} (limits : Limits) (table : SymbolTable) (depth : Nat)
    (program : Program) (watched : Watched α) : Prop :=
  ∀ machine, machine.Serves table →
    Execution limits table depth program machine
      (Interpreter.errorOf? (watched.observe machine).1.1) (watched.observe machine).1.2
      (watched.observe machine).2

/-- Bodies of defined functions run where calls may nest one level less deep. -/
def Watched.PerformsCalls (limits : Limits) (table : SymbolTable) (depth : Nat) :
    Option (UserFunction → List Value → Watched Value) → Prop
  | none => depth = 0
  | some runBody => ∃ inner, depth = inner + 1 ∧ ∀ function arguments,
      Performs limits table inner function.body (runBody function arguments)

theorem effect_of_rests {token : Token} {computation : Run (List Operand)}
    (rests : Run.Rests machine computation) (noCallee : table.callee? token = none) :
    Effect limits table depth token machine (computation.run.run machine, []) := by
  obtain ⟨unchanged, fails⟩ := rests machine rfl
  cases ended : computation.run.run machine with
  | mk outcome after =>
      rw [ended] at unchanged fails
      dsimp only at unchanged
      subst unchanged
      cases outcome with
      | ok next => exact .plain next noCallee
      | error error => exact .halted (fails error rfl)

theorem effect_call (performs : Watched.PerformsCalls limits table depth watchedCall)
    (serves : machine.Serves table) (name : String) (count : Nat) (stack : List Operand) :
    Effect limits table depth (.call name count) machine
      ((Watched.call engine limits watchedCall name count stack).observe machine) := by
  by_cases isUser : ∃ function, machine.table.function? name = some (.user function)
  · obtain ⟨function, found⟩ := isUser
    have isCallee : table.callee? (.call name count) = some function :=
      SymbolTable.callee?_call ((serves.function? name).symm.trans found)
    rw [Watched.observe_call_of_user found]
    split
    · exact .halted nofun
    · cases watchedCall with
      | none =>
          cases performs
          exact .refused isCallee
      | some runBody =>
          obtain ⟨inner, rfl, bodies⟩ := performs
          cases popped : popArguments name count stack with
          | error error =>
              rw [Watched.observe_lift_error_bind]
              exact .halted (popArguments_failsOnly name count stack error popped)
          | ok taken =>
              rw [Watched.observe_lift_ok_bind, Watched.observe_write_bind, Watched.observe_bind]
              have body := bodies function taken.1 machine serves
              cases ended : (runBody function taken.1).observe machine with
              | mk outcome events =>
                  obtain ⟨outcome, after⟩ := outcome
                  rw [ended] at body
                  cases outcome with
                  | ok value => exact .returned _ isCallee body
                  | error error => exact .failed isCallee body
  · have notUser := not_exists.mp isUser
    rw [Watched.observe_call_of_not_user notUser]
    refine effect_of_rests (call_rests notUser count stack) ?_
    refine SymbolTable.callee?_eq_none fun other given isCall function found => ?_
    cases isCall
    exact notUser function ((serves.function? name).trans found)

theorem observe_matchPattern (pattern : Pattern) (subject : String) (machine : Machine) :
    (∃ finding, (Watched.matchPattern pattern subject).observe machine =
      ((.ok (.number 1), machine.capture finding), [.found finding])) ∨
    (Watched.matchPattern pattern subject).observe machine = ((.ok (.number 0), machine), []) := by
  unfold Watched.matchPattern
  split
  · next groups isMatch =>
    have ran : (Evaluation.matchPattern pattern subject).run.run machine =
        (.ok (.number 1), machine.capture { pattern, subject, groups, isMatch }) := by
      rw [Evaluation.matchPattern, isMatch]
      rfl
    rw [Watched.observe_write_bind, Watched.observe_ofRun, ran]
    exact Or.inl ⟨_, rfl⟩
  · next noMatch =>
    have ran : (Evaluation.matchPattern pattern subject).run.run machine =
        (.ok (.number 0), machine) := by
      rw [Evaluation.matchPattern, noMatch]
      rfl
    rw [Watched.observe_ofRun, ran]
    exact Or.inr rfl

theorem effect_match (locals : Entries Value) (stack : List Operand) :
    Effect limits table depth (.op (.binary .regexMatch)) machine
      ((Watched.step engine limits watchedCall locals (.op (.binary .regexMatch)) stack).observe
        machine) := by
  rw [Watched.step]
  cases popped : pop BinaryOp.regexMatch.symbol stack with
  | error error =>
      rw [Watched.observe_lift_error_bind]
      exact .halted (pop_failsOnly _ stack error popped)
  | ok operands =>
      obtain ⟨right, afterRight⟩ := operands
      rw [Watched.observe_lift_ok_bind]
      dsimp only
      cases compiled : patternOf engine right with
      | error error =>
          rw [Watched.observe_lift_error_bind]
          exact .halted (patternOf_failsOnly engine right error compiled).noLimit
      | ok pattern =>
          rw [Watched.observe_lift_ok_bind]
          cases poppedSubject : popValue BinaryOp.regexMatch.symbol afterRight with
          | error error =>
              rw [Watched.observe_lift_error_bind]
              exact .halted (popValue_failsOnly _ afterRight error poppedSubject)
          | ok values =>
              obtain ⟨subject, rest⟩ := values
              rw [Watched.observe_lift_ok_bind]
              dsimp only
              rw [Watched.observe_bind]
              rcases observe_matchPattern pattern subject.asText machine with
                ⟨finding, observed⟩ | observed
              · rw [observed]
                exact .found _ finding
              · rw [observed]
                exact .plain _ rfl

theorem effect_step (performs : Watched.PerformsCalls limits table depth watchedCall)
    (serves : machine.Serves table) (locals : Entries Value) (token : Token)
    (stack : List Operand) :
    Effect limits table depth token machine
      ((Watched.step engine limits watchedCall locals token stack).observe machine) := by
  by_cases isCall : ∃ name count, token = .call name count
  · obtain ⟨name, count, rfl⟩ := isCall
    exact effect_call performs serves name count stack
  by_cases isMatch : token = .op (.binary .regexMatch)
  · subst isMatch
    exact effect_match locals stack
  · have notCall : ∀ name count, token ≠ .call name count :=
      fun name count isToken => isCall ⟨name, count, isToken⟩
    have unwatched : Watched.step engine limits watchedCall locals token stack =
        Watched.ofRun (step { engine, limits, userCall := none } locals token stack) :=
      Watched.step_of_other isMatch notCall locals stack
    rw [unwatched]
    refine effect_of_rests (step_rests isMatch notCall locals stack) ?_
    exact SymbolTable.callee?_eq_none fun name count isToken => absurd isToken (notCall name count)

theorem performs_execute (performs : Watched.PerformsCalls limits table depth watchedCall)
    (locals : Entries Value) (program : Program) (stack : List Operand) :
    Watched.Performs limits table depth program
      (Watched.execute engine limits watchedCall locals program stack >>= fun left =>
        Watched.ofRun (lift (result left))) := by
  induction program generalizing stack with
  | nil =>
      intro machine serves
      rw [Watched.execute, Watched.observe_pure_bind, Watched.observe_ofRun]
      have fails : FailsOnly (fun error => ¬error.IsLimit) (result stack) := result_failsOnly stack
      cases ended : result stack with
      | ok value =>
          have noLimit : ∀ error, (none : Option Error) = some error → ¬error.IsLimit := nofun
          exact .ended noLimit
      | error error =>
          have noLimit : ∀ cause, some error = some cause → ¬cause.IsLimit := by
            rintro _ ⟨⟩
            exact fails error ended
          exact .ended noLimit
  | cons token rest ih =>
      intro machine serves
      rw [Watched.execute, Watched.observe_bind_assoc, Watched.observe_bind,
        Watched.observe_ofRun, run_countStep]
      by_cases exceeded : limits.maxSteps < machine.steps + 1
      · rw [if_pos exceeded]
        exact .exhausted exceeded
      · have allowed : machine.steps + 1 ≤ limits.maxSteps := Nat.le_of_not_lt exceeded
        have countedServes : machine.counted.Serves table := serves
        have effect : Effect limits table depth token machine.counted
            ((Watched.step engine limits watchedCall locals token stack).observe
              machine.counted) :=
          effect_step performs countedServes locals token stack
        rw [if_neg exceeded]
        dsimp only
        rw [Watched.observe_bind_assoc, Watched.observe_write_bind, Watched.observe_bind_assoc,
          Watched.observe_bind, ← Machine.counted]
        -- How the run goes on depends only on what the execution of the token came to.
        generalize (Watched.step engine limits watchedCall locals token stack).observe
          machine.counted = observed at effect
        cases effect with
        | halted noLimit => exact .halted allowed noLimit
        | refused isCallee => exact .refused allowed isCallee
        | failed isCallee body => exact .failed allowed isCallee body
        | plain next noCallee => exact .plain allowed noCallee (ih next _ countedServes)
        | found next finding => exact .found allowed (ih next _ countedServes)
        | returned next isCallee body =>
            have later := ih next _ (body.serves countedServes)
            have joined := Execution.returned allowed isCallee body later
            dsimp only [List.nil_append, List.cons_append]
            rw [List.append_assoc]
            exact joined

theorem performs_runNested (depth : Nat) (locals : Entries Value) (program : Program) :
    Watched.Performs limits table depth program
      (Watched.runNested engine limits depth locals program) := by
  induction depth generalizing locals program with
  | zero =>
      refine performs_execute ?_ locals program []
      rfl
  | succ depth ih =>
      refine performs_execute ?_ locals program []
      exact ⟨depth, rfl, fun function arguments => ih _ function.body⟩

/-- Every run of a program is one of its executions. -/
theorem execution_run (engine : Pattern.Engine) (limits : Limits) (program : Program)
    (table : SymbolTable) :
    ∃ after, after.table = (run engine limits program table).2 ∧
      Execution limits table limits.maxDepth program { table, steps := 0 }
        (Interpreter.errorOf? (run engine limits program table).1) after
        (watch engine limits program table).2 := by
  let watched : Watched Value := Watched.runNested engine limits limits.maxDepth [] program
  have performs : Watched.Performs limits table limits.maxDepth program watched :=
    performs_runNested limits.maxDepth [] program
  rw [← watch_fst]
  exact ⟨(watched.observe { table, steps := 0 }).1.2, rfl,
    performs { table, steps := 0 } ⟨rfl, rfl⟩⟩

end Watching

end Calculator
