import Calculator.Evaluation
import Calculator.Proofs.Tree

/-!
# Evaluating trees without a stack

An expression tree can be evaluated by recursion: the children of a node are evaluated from left to
right, then one step is counted and the node is applied to what they gave.  The main statement is
that running the program of a tree on a stack does the same and leaves the outcome on top of the
stack, whatever is below.
-/

namespace Calculator

namespace Evaluation

/-- The value that an operand is, for an operation that works on values. -/
def valueOf (operation : String) : Operand → Except Error Value
  | .value value => .ok value
  | .pattern _ => .error (.typeMismatch operation .regex)

/-- What a leaf stands for. -/
def readLeaf (engine : Pattern.Engine) (locals : Entries Value) : Leaf → Run Operand
  | .number x => pure (.value (.number x))
  | .string text => pure (.value (.string text))
  | .literal raw => .value <$> lift (Value.ofLiteral raw)
  | .value value => pure (.value value)
  | .var name => .value <$> lookup locals name
  | .capture name => .value <$> lookup [] name
  | .regex source flags =>
    .pattern <$> lift ((Pattern.compile engine source flags).mapError .invalidRegex)

def applyUnary (op : UnaryOp) (operand : Operand) : Run Operand := do
  let value ← lift (valueOf op.symbol operand)
  .value <$> lift (Value.applyUnary op value)

/-- Apply a binary operator.  Only `=~` takes a pattern, on its right side. -/
def applyBinary (engine : Pattern.Engine) (op : BinaryOp) (left right : Operand) :
    Run Operand :=
  match op with
  | .regexMatch => do
    let pattern ← lift (patternOf engine right)
    let subject ← lift (valueOf BinaryOp.regexMatch.symbol left)
    .value <$> matchPattern pattern subject.asText
  | op => do
    let second ← lift (valueOf op.symbol right)
    let first ← lift (valueOf op.symbol left)
    .value <$> lift (Value.apply op first second)

def applyIndex (container selector : Operand) : Run Operand := do
  let key ← lift (valueOf "[" selector)
  let holder ← lift (valueOf "[" container)
  .value <$> lift (holder.select key)

/-- Apply the function that a name means to operands. -/
def applyCall (context : Context) (name : String) (operands : List Operand) : Run Operand := do
  match (← get).table.function? name with
  | none => throw (.undefinedFunction name)
  | some (.builtin builtin) =>
    match operands with
    | [operand] => do
      let argument ← lift (valueOf name operand)
      .value <$> lift (builtin.call argument)
    | _ => throw (.argumentCount name operands.length 1)
  | some (.user function) =>
    if operands.length = function.params.length then
      match context.userCall with
      | none => throw (.recursionLimit context.limits.maxDepth)
      | some runBody => do
        let arguments ← lift (argumentValues name operands)
        .value <$> runBody function arguments
    else throw (.argumentCount name operands.length function.params.length)
  | some (.host function) =>
    if operands.length = function.arity then do
      let arguments ← lift (argumentValues name operands)
      match function.call arguments with
      | .ok result => pure (.value result)
      | .error message => throw (.hostFunction name message)
    else throw (.argumentCount name operands.length function.arity)

end Evaluation

namespace Tree

open Evaluation

variable (context : Context) (locals : Entries Value)

mutual

/-- Evaluate a tree.  Parentheses take no step. -/
def evaluate : Tree Leaf → Run Operand
  | leaf operand => do
    countStep context.limits
    readLeaf context.engine locals operand
  | group body => body.evaluate
  | unary op operand => do
    let value ← operand.evaluate
    countStep context.limits
    applyUnary op value
  | binary op left right => do
    let first ← left.evaluate
    let second ← right.evaluate
    countStep context.limits
    applyBinary context.engine op first second
  | index container selector => do
    let holder ← container.evaluate
    let key ← selector.evaluate
    countStep context.limits
    applyIndex holder key
  | call name arguments => do
    let operands ← evaluateAll arguments
    countStep context.limits
    applyCall context name operands

/-- Evaluate the arguments of a call in their order. -/
def evaluateAll : List (Tree Leaf) → Run (List Operand)
  | [] => pure []
  | argument :: rest => do
    let first ← argument.evaluate
    let later ← evaluateAll rest
    pure (first :: later)

end

/-- The value of a tree, which a pattern alone is not. -/
def valueIn (tree : Tree Leaf) : Run Value := do
  let operand ← tree.evaluate context locals
  lift (valueOf "result" operand)

end Tree

namespace Evaluation

/-- Evaluate a tree where calls of defined functions may nest so many levels deeper.  The body of a
function is evaluated as a tree, one level deeper, with its parameters bound. -/
def evaluateNested (engine : Pattern.Engine) (limits : Limits) (bodyOf : UserFunction → Tree Leaf) :
    Nat → Entries Value → Tree Leaf → Run Value
  | 0, locals, tree => tree.valueIn { engine, limits, userCall := none } locals
  | depth + 1, locals, tree =>
    let userCall (function : UserFunction) (arguments : List Value) : Run Value :=
      evaluateNested engine limits bodyOf depth (function.params.zip arguments) (bodyOf function)
    tree.valueIn { engine, limits, userCall := some userCall } locals

section Stack

variable {context : Context} {locals : Entries Value} {stack : List Operand}

@[simp]
theorem lift_ok {α : Type} (result : α) : lift (.ok result) = pure result :=
  rfl

@[simp]
theorem lift_error {α : Type} (error : Error) : (lift (.error error) : Run α) = throw error :=
  rfl

theorem lift_map {α β : Type} (outcome : Except Error α) (change : α → β) :
    lift (outcome.map change) = change <$> lift outcome := by
  cases outcome with
  | ok result => simp [Except.map]
  | error error => rfl

theorem popValue_cons (operation : String) (operand : Operand) :
    popValue operation (operand :: stack) =
      (valueOf operation operand).map fun value => (value, stack) := by
  cases operand <;> rfl

/-- The arguments of a call are the operands on top of the stack, the last one on top. -/
theorem popArguments_append (name : String) (operands : List Operand) :
    popArguments name operands.length (operands.reverse ++ stack) =
      (argumentValues name operands).map fun values => (values, stack) := by
  have enough : ¬(operands.reverse ++ stack).length < operands.length := by
    rw [List.length_append, List.length_reverse]
    omega
  have top : (operands.reverse ++ stack).take operands.length = operands.reverse :=
    List.take_left' (List.length_reverse)
  have below : (operands.reverse ++ stack).drop operands.length = stack :=
    List.drop_left' (List.length_reverse)
  rw [popArguments, if_neg enough, top, below, List.reverse_reverse]

theorem step_leaf (leaf : Leaf) :
    step context locals leaf.token stack =
      (· :: stack) <$> readLeaf context.engine locals leaf := by
  cases leaf <;> simp [step, Leaf.token, readLeaf]

theorem step_unary (op : UnaryOp) (operand : Operand) :
    step context locals (.op (.unary op)) (operand :: stack) =
      (· :: stack) <$> applyUnary op operand := by
  simp only [step, applyUnary, popValue_cons, lift_map]
  simp

theorem step_binary (op : BinaryOp) (left right : Operand) :
    step context locals (.op (.binary op)) (right :: left :: stack) =
      (· :: stack) <$> applyBinary context.engine op left right := by
  cases op <;>
    simp [step, applyBinary, pop, popValue_cons, lift_map]

theorem step_index (container selector : Operand) :
    step context locals .index (selector :: container :: stack) =
      (· :: stack) <$> applyIndex container selector := by
  simp [step, applyIndex, popValue_cons, lift_map]

/-- A call takes as many operands from the stack as it was written with. -/
theorem step_call (name : String) (operands : List Operand) :
    step context locals (.call name operands.length) (operands.reverse ++ stack) =
      (· :: stack) <$> applyCall context name operands := by
  rw [step, call, applyCall, map_bind]
  refine bind_congr fun machine => ?_
  cases machine.table.function? name with
  | none => rfl
  | some function =>
      cases function with
      | builtin builtin =>
          match operands with
          | [] => rfl
          | [operand] => simp [Function.arity, popValue_cons, lift_map]
          | first :: second :: rest => simp [Function.arity]
      | user function =>
          by_cases fits : operands.length = function.params.length
          · cases context.userCall with
            | none => simp [Function.arity, fits]
            | some runBody => simp [Function.arity, ← fits, popArguments_append, lift_map]
          · simp [Function.arity, fits]
      | host function =>
          by_cases fits : operands.length = function.arity
          · simp [Function.arity, ← fits, popArguments_append, lift_map]
            refine bind_congr fun arguments => ?_
            cases function.call arguments <;> rfl
          · simp [Function.arity, fits]

theorem execute_append (first second : Program) :
    execute context locals (first ++ second) stack =
      execute context locals first stack >>= execute context locals second := by
  induction first generalizing stack with
  | nil => simp [execute]
  | cons token rest ih => simp [execute, ih]

theorem execute_singleton (token : Token) :
    execute context locals [token] stack =
      countStep context.limits >>= fun _ => step context locals token stack := by
  simp [execute]

end Stack

theorem execute_postorderAll {context : Context} {locals : Entries Value}
    {arguments : List (Tree Leaf)}
    (each : ∀ argument ∈ arguments, ∀ stack,
      execute context locals argument.program stack =
        (· :: stack) <$> argument.evaluate context locals) (stack : List Operand) :
    execute context locals (Tree.postorderAll Leaf.token arguments) stack =
      (·.reverse ++ stack) <$> Tree.evaluateAll context locals arguments := by
  induction arguments generalizing stack with
  | nil => simp [Tree.postorderAll, Tree.evaluateAll, execute]
  | cons argument rest ih =>
      have first := each argument List.mem_cons_self
      have later := ih fun other isOther => each other (List.mem_cons_of_mem _ isOther)
      rw [Tree.postorderAll, Tree.evaluateAll, execute_append, ← Tree.program, first]
      simp [later]

/-- What follows the evaluation of arguments meets as many operands as there are arguments. -/
theorem evaluateAll_congr {context : Context} {locals : Entries Value} {α : Type}
    {arguments : List (Tree Leaf)} {first second : List Operand → Run α}
    (agree : ∀ operands, operands.length = arguments.length → first operands = second operands) :
    Tree.evaluateAll context locals arguments >>= first =
      Tree.evaluateAll context locals arguments >>= second := by
  induction arguments generalizing first second with
  | nil =>
      simp only [Tree.evaluateAll, pure_bind]
      exact agree [] rfl
  | cons argument rest ih =>
      simp only [Tree.evaluateAll, bind_assoc, pure_bind]
      refine bind_congr fun operand => ih fun operands sameLength => ?_
      exact agree (operand :: operands) (by rw [List.length_cons, List.length_cons, sameLength])

/-- Running the program of a tree evaluates the tree and leaves the outcome on top of the stack. -/
theorem execute_program (context : Context) (locals : Entries Value) (tree : Tree Leaf)
    (stack : List Operand) :
    execute context locals tree.program stack = (· :: stack) <$> tree.evaluate context locals := by
  induction tree generalizing stack with
  | leaf operand => simp [Tree.program, Tree.postorder, Tree.evaluate, execute_singleton, step_leaf]
  | group body ih => exact ih stack
  | unary op operand ih =>
      rw [Tree.program_unary, execute_append, ih]
      simp [Tree.evaluate, execute_singleton, step_unary]
  | binary op left right leftIH rightIH =>
      rw [Tree.program_binary, execute_append, leftIH]
      simp [Tree.evaluate, execute_append, rightIH, execute_singleton, step_binary]
  | index container selector containerIH selectorIH =>
      rw [Tree.program_index, execute_append, containerIH]
      simp [Tree.evaluate, execute_append, selectorIH, execute_singleton, step_index]
  | call name arguments ih =>
      rw [Tree.program, Tree.postorder, execute_append, execute_postorderAll ih]
      simp only [bind_map_left, Tree.evaluate, map_bind]
      -- The token of a call holds the number of its trees, and the stack holds their outcomes.
      refine evaluateAll_congr fun operands sameLength => ?_
      rw [execute_singleton, ← sameLength]
      exact bind_congr fun _ => step_call name operands

end Evaluation

end Calculator
