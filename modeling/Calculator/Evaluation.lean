import Calculator.SymbolTable

/-!
# Running programs

A program runs on a stack of operands, one token after another.  Every token counts as a step,
nested calls included, and both the number of steps and the nesting of calls are limited.  The
symbol table is shared by all calls of a run, so that captures written in a call are seen by its
caller, and stay when the run fails.
-/

namespace Calculator

/-- Bounds on the work of one run. -/
structure Limits where
  /-- How deep calls of defined functions may nest. -/
  maxDepth : Nat
  /-- How many tokens may be processed. -/
  maxSteps : Nat
  deriving Repr, DecidableEq

def Limits.standard : Limits :=
  { maxDepth := 200, maxSteps := 1000000 }

/-- An entry of the operand stack.  A regular expression stays a pattern until it is matched. -/
inductive Operand
  | value (value : Value)
  | pattern (pattern : Pattern)

/-- What changes during a run: the symbol table and the number of tokens processed. -/
structure Machine where
  table : SymbolTable
  steps : Nat

/-- A computation that changes the machine and may fail.  Changes made before a failure stay. -/
abbrev Run := ExceptT Error (StateM Machine)

namespace Evaluation

/-- Continue with the outcome of a pure operation. -/
def lift {α : Type} (outcome : Except Error α) : Run α :=
  match outcome with
  | .ok result => pure result
  | .error error => throw error

def countStep (limits : Limits) : Run Unit := do
  modify fun machine => { machine with steps := machine.steps + 1 }
  if limits.maxSteps < (← get).steps then throw (.stepLimit limits.maxSteps)

/-- Remove the top operand for an operator. -/
def pop (operator : String) : List Operand → Except Error (Operand × List Operand)
  | operand :: stack => .ok (operand, stack)
  | [] => .error (.internal (.missingOperand operator))

/-- Remove the top operand for an operator that works on values. -/
def popValue (operator : String) : List Operand → Except Error (Value × List Operand)
  | .value value :: stack => .ok (value, stack)
  | .pattern _ :: _ => .error (.typeMismatch operator .regex)
  | [] => .error (.internal (.missingOperand operator))

/-- The values among the arguments of a call, which must all be values. -/
def argumentValues (name : String) : List Operand → Except Error (List Value)
  | [] => .ok []
  | .value value :: rest => (argumentValues name rest).map (value :: ·)
  | .pattern _ :: _ => .error (.typeMismatch name .regex)

/-- Remove the top operands for a call with so many arguments, in the order of the call. -/
def popArguments (name : String) (count : Nat) (stack : List Operand) :
    Except Error (List Value × List Operand) :=
  if stack.length < count then .error (.internal (.missingArguments name))
  else
    (argumentValues name (stack.take count).reverse).map fun values => (values, stack.drop count)

/-- The pattern that the right operand of `=~` stands for. -/
def patternOf (engine : Pattern.Engine) : Operand → Except Error Pattern
  | .pattern pattern => .ok pattern
  | .value (.string text) => (Pattern.compileDelimited engine text).mapError .invalidRegex
  | .value other => .error (.invalidRegex (.notPattern other.kind))

/-- Match a pattern.  A match binds the captures. -/
def matchPattern (pattern : Pattern) (subject : String) : Run Value :=
  match pattern.find subject with
  | some groups => do
    modify fun machine =>
      { machine with table := machine.table.setCaptures (Pattern.groupTexts groups) }
    pure (.number 1)
  | none => pure (.number 0)

/-- The value of a variable: parameters come before variables. -/
def lookup (locals : Entries Value) (name : String) : Run Value := do
  match Entries.get? locals name with
  | some value => pure value
  | none =>
    match (← get).table.valueOf? name with
    | some value => pure value
    | none => throw (.undefinedVariable name)

/-- How to run the body of a defined function with its arguments; there is no way where calls may
not nest any deeper. -/
abbrev UserCall := Option (UserFunction → List Value → Run Value)

/-- What a run does not change: the engine, the limits, and how defined functions are run. -/
structure Context where
  engine : Pattern.Engine
  limits : Limits
  userCall : UserCall

/-- Call a function with the operands on the stack. -/
def call (context : Context) (name : String) (count : Nat) (stack : List Operand) :
    Run (List Operand) := do
  match (← get).table.function? name with
  | none => throw (.undefinedFunction name)
  | some function =>
    if count ≠ function.arity then
      throw (.argumentCount name count function.arity)
    else
      match function with
      | .builtin builtin =>
        let (argument, rest) ← lift (popValue name stack)
        let result ← lift (builtin.call argument)
        pure (.value result :: rest)
      | .user function =>
        match context.userCall with
        | none => throw (.recursionLimit context.limits.maxDepth)
        | some runBody =>
          let (arguments, rest) ← lift (popArguments name count stack)
          let result ← runBody function arguments
          pure (.value result :: rest)
      | .host function =>
        let (arguments, rest) ← lift (popArguments name count stack)
        match function.call arguments with
        | .ok result => pure (.value result :: rest)
        | .error message => throw (.hostFunction name message)

def step (context : Context) (locals : Entries Value) (token : Token) (stack : List Operand) :
    Run (List Operand) :=
  match token with
  | .number x => pure (.value (.number x) :: stack)
  | .string text => pure (.value (.string text) :: stack)
  | .literal raw => do
    let value ← lift (Value.ofLiteral raw)
    pure (.value value :: stack)
  | .value value => pure (.value value :: stack)
  | .var name => do
    let value ← lookup locals name
    pure (.value value :: stack)
  | .capture name => do
    let value ← lookup [] name
    pure (.value value :: stack)
  | .regex source flags => do
    let pattern ← lift ((Pattern.compile context.engine source flags).mapError .invalidRegex)
    pure (.pattern pattern :: stack)
  | .op (.binary .regexMatch) => do
    let (right, afterRight) ← lift (pop BinaryOp.regexMatch.symbol stack)
    let pattern ← lift (patternOf context.engine right)
    let (subject, rest) ← lift (popValue BinaryOp.regexMatch.symbol afterRight)
    let result ← matchPattern pattern subject.asText
    pure (.value result :: rest)
  | .op (.binary op) => do
    let (right, afterRight) ← lift (popValue op.symbol stack)
    let (left, rest) ← lift (popValue op.symbol afterRight)
    let result ← lift (Value.apply op left right)
    pure (.value result :: rest)
  | .op (.unary op) => do
    let (operand, rest) ← lift (popValue op.symbol stack)
    let result ← lift (Value.applyUnary op operand)
    pure (.value result :: rest)
  | .index => do
    let (key, afterKey) ← lift (popValue "[" stack)
    let (container, rest) ← lift (popValue "[" afterKey)
    let result ← lift (container.select key)
    pure (.value result :: rest)
  | .call name count => call context name count stack

/-- Process the tokens of a program in order, each as one step. -/
def execute (context : Context) (locals : Entries Value) :
    Program → List Operand → Run (List Operand)
  | [], stack => pure stack
  | token :: rest, stack => do
    countStep context.limits
    let next ← step context locals token stack
    execute context locals rest next

/-- The result of a program is the one value that it leaves. -/
def result : List Operand → Except Error Value
  | [.value value] => .ok value
  | [.pattern _] => .error (.typeMismatch "result" .regex)
  | stack => .error (.internal (.leftover stack.length))

def runProgram (context : Context) (locals : Entries Value) (program : Program) : Run Value := do
  let stack ← execute context locals program []
  lift (result stack)

/-- Run a program where calls of defined functions may nest so many levels deeper. -/
def runNested (engine : Pattern.Engine) (limits : Limits) :
    Nat → Entries Value → Program → Run Value
  | 0, locals, program => runProgram { engine, limits, userCall := none } locals program
  | depth + 1, locals, program =>
    let userCall (function : UserFunction) (arguments : List Value) : Run Value :=
      runNested engine limits depth (function.params.zip arguments) function.body
    runProgram { engine, limits, userCall := some userCall } locals program

/-- Run a program against a symbol table.  The table that is left holds the captures of the run
even if it fails. -/
def run (engine : Pattern.Engine) (limits : Limits) (program : Program) (table : SymbolTable) :
    Except Error Value × SymbolTable :=
  let outcome := (runNested engine limits limits.maxDepth [] program).run.run { table, steps := 0 }
  (outcome.1, outcome.2.table)

end Evaluation

end Calculator
