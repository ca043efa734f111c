import Calculator.Evaluation
import Calculator.Statement

/-!
# The interpreter

An interpreter holds the bindings, the limits of a run, and the error of the last line that was
evaluated.  A line is evaluated as the statement that it is: the value of an assignment is the
assigned value, and a definition yields true.
-/

namespace Calculator

/-- The state of an interpreter. -/
structure Interpreter where
  table : SymbolTable
  limits : Limits
  suppressErrors : Bool
  lastError : Option Error

namespace Interpreter

def initial : Interpreter :=
  { table := SymbolTable.initial, limits := Limits.standard, suppressErrors := false,
    lastError := none }

/-- Keep the table that a changing operation leaves, or all as it was if it fails. -/
def update (interpreter : Interpreter) (outcome : Except Error SymbolTable) :
    Except Error Unit × Interpreter :=
  match outcome with
  | .ok table => (.ok (), { interpreter with table })
  | .error error => (.error error, interpreter)

/-- Convert an expression without running it. -/
def compile (interpreter : Interpreter) (source : String) : Except Error Program :=
  convert interpreter.table.arity? source

def run (engine : Pattern.Engine) (program : Program) (interpreter : Interpreter) :
    Except Error Value × Interpreter :=
  let outcome := Evaluation.run engine interpreter.limits program interpreter.table
  (outcome.1, { interpreter with table := outcome.2 })

def assign (name : String) (value : Value) (interpreter : Interpreter) :
    Except Error Unit × Interpreter :=
  interpreter.update (interpreter.table.assign name value)

def define (name : String) (params : List String) (body : String) (interpreter : Interpreter) :
    Except Error Unit × Interpreter :=
  interpreter.update (interpreter.table.define name params body)

/-- Make a function of the host callable. -/
def registerHost (name : String) (function : HostFunction) (interpreter : Interpreter) :
    Except Error Unit × Interpreter :=
  interpreter.update (interpreter.table.registerHost name function)

def setLimits (limits : Limits) (interpreter : Interpreter) : Interpreter :=
  { interpreter with limits }

def evaluateExpression (engine : Pattern.Engine) (source : String) (interpreter : Interpreter) :
    Except Error Value × Interpreter :=
  match interpreter.compile source with
  | .error error => (.error error, interpreter)
  | .ok program => interpreter.run engine program

def perform (engine : Pattern.Engine) (statement : Statement) (interpreter : Interpreter) :
    Except Error Value × Interpreter :=
  match statement with
  | .expression source => interpreter.evaluateExpression engine source
  | .assign name source =>
    match interpreter.evaluateExpression engine source with
    | (.error error, after) => (.error error, after)
    | (.ok value, after) =>
      let assigned := after.assign name value
      (assigned.1.map fun _ => value, assigned.2)
  | .define name params body =>
    let defined := interpreter.define name params body
    (defined.1.map fun _ => .boolean true, defined.2)

def errorOf? {α : Type} : Except Error α → Option Error
  | .ok _ => none
  | .error error => some error

/-- Evaluate a line, and remember its error. -/
def evaluate (engine : Pattern.Engine) (line : String) (interpreter : Interpreter) :
    Except Error Value × Interpreter :=
  let outcome := interpreter.perform engine (Statement.ofLine line)
  (outcome.1, { outcome.2 with lastError := errorOf? outcome.1 })

def visibleVariables (interpreter : Interpreter) : List (String × Value) :=
  interpreter.table.visibleVariables

/-- The defined functions with their parameters. -/
def functions (interpreter : Interpreter) : List (String × List String) :=
  interpreter.table.definitions

end Interpreter

end Calculator
