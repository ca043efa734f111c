import Calculator.Proofs.Captures
import Calculator.Proofs.Requests

/-!
# What a line changes

A line that fails leaves every variable but captures as it was, and all functions with it, wherever
it fails.  A line that succeeds changes what its form says besides: an assignment binds one
variable, and a definition replaces one function.  So the value of a variable can be read off the
lines that were evaluated: it is that of its last assignment that succeeded.
-/

namespace Calculator

/-- The only change besides captures is that a variable is bound to a value. -/
structure SymbolTable.SameButBinding (name : String) (value : Value)
    (older newer : SymbolTable) : Prop where
  functions : newer.functions = older.functions
  hosts : newer.hosts = older.hosts
  bound : newer.valueOf? name = some value
  bindings : ∀ other, other ≠ name → Variables.isCapture other = false →
    newer.valueOf? other = older.valueOf? other

/-- The only change is that a name means a function with the given parameters. -/
def SymbolTable.SameButFunction (name : String) (params : List String)
    (older newer : SymbolTable) : Prop :=
  ∃ function : UserFunction, function.params = params ∧
    newer = { older with functions := Entries.put name function older.functions }

theorem SymbolTable.SameButCaptures.assign {older middle newer : SymbolTable} {name : String}
    {value : Value} (same : older.SameButCaptures middle)
    (assigned : middle.assign name value = .ok newer) : older.SameButBinding name value newer := by
  obtain ⟨-, -, -, rfl⟩ := assign_eq_ok assigned
  constructor
  · exact same.functions
  · exact same.hosts
  · exact Entries.get?_put_self middle.globals name value
  · intro other different plain
    rw [← same.bindings other plain]
    exact Entries.get?_put_of_ne middle.globals value different.symm

theorem SymbolTable.sameButFunction_define {older newer : SymbolTable} {name body : String}
    {params : List String} (defined : older.define name params body = .ok newer) :
    older.SameButFunction name params newer := by
  obtain ⟨-, -, program, frozen, -, -, rfl⟩ := define_eq_ok defined
  exact ⟨{ params, body := frozen }, rfl, rfl⟩

namespace Statement

/-- How a statement that yields a value changes the bindings. -/
def Changes (value : Value) (older newer : SymbolTable) : Statement → Prop
  | expression _ => older.SameButCaptures newer
  | assign name _ => older.SameButBinding name value newer
  | define name params _ => older.SameButFunction name params newer

/-- The value to which the answer to a statement binds a variable, if it is an assignment of the
variable and succeeds. -/
def assigned? (name : String) : Statement → Except Error Value → Option Value
  | assign target _, .ok value => if target = name then some value else none
  | _, _ => none

/-- The value of the last assignment of a variable that succeeded, among answered statements. -/
def lastAssigned? (name : String) : List (Statement × Except Error Value) → Option Value
  | [] => none
  | (statement, answer) :: later => (lastAssigned? name later).or (statement.assigned? name answer)

end Statement

namespace Interpreter

variable {engine : Pattern.Engine} {interpreter : Interpreter}

/-- An outcome of a statement that changes nothing but captures if it is an error, and nothing but
what the statement is for if it is a value. -/
structure Atomic (interpreter : Interpreter) (statement : Statement)
    (outcome : Except Error Value × Interpreter) : Prop where
  limits : outcome.2.limits = interpreter.limits
  failure : ∀ error, outcome.1 = .error error →
    interpreter.table.SameButCaptures outcome.2.table
  success : ∀ value, outcome.1 = .ok value →
    statement.Changes value interpreter.table outcome.2.table

theorem limits_evaluateExpression (source : String) :
    (interpreter.evaluateExpression engine source).2.limits = interpreter.limits := by
  unfold evaluateExpression
  split <;> rfl

theorem sameButCaptures_evaluateExpression (source : String) :
    interpreter.table.SameButCaptures (interpreter.evaluateExpression engine source).2.table := by
  unfold evaluateExpression
  split
  · exact .refl _
  · exact SymbolTable.sameButCaptures_run engine _ _ _

theorem perform_expression_atomic (source : String) :
    interpreter.Atomic (.expression source) (interpreter.perform engine (.expression source)) := by
  have same : interpreter.table.SameButCaptures
      (interpreter.evaluateExpression engine source).2.table :=
    sameButCaptures_evaluateExpression source
  exact ⟨limits_evaluateExpression source, fun _ _ => same, fun _ _ => same⟩

theorem perform_assign_atomic (name source : String) :
    interpreter.Atomic (.assign name source)
      (interpreter.perform engine (.assign name source)) := by
  have limits : (interpreter.evaluateExpression engine source).2.limits = interpreter.limits :=
    limits_evaluateExpression source
  have same : interpreter.table.SameButCaptures
      (interpreter.evaluateExpression engine source).2.table :=
    sameButCaptures_evaluateExpression source
  rcases perform_assign_cases engine interpreter name source with
    ⟨error, after, evaluated, performed⟩ | ⟨value, after, evaluated, performed⟩
  · rw [evaluated] at limits same
    rw [performed]
    exact ⟨limits, fun _ _ => same, nofun⟩
  · rw [evaluated] at limits same
    rw [performed]
    -- The name is checked after the expression has run, so captures may have changed.
    unfold Interpreter.assign
    cases assigned : after.table.assign name value with
    | error error => exact ⟨limits, fun _ _ => same, nofun⟩
    | ok table =>
        refine ⟨limits, nofun, fun result isValue => ?_⟩
        cases isValue
        exact same.assign assigned

theorem perform_define_atomic (name : String) (params : List String) (body : String) :
    interpreter.Atomic (.define name params body)
      (interpreter.perform engine (.define name params body)) := by
  unfold perform
  dsimp only
  unfold Interpreter.define
  cases defined : interpreter.table.define name params body with
  | error error => exact ⟨rfl, fun _ _ => .refl _, nofun⟩
  | ok table => exact ⟨rfl, nofun, fun _ _ => SymbolTable.sameButFunction_define defined⟩

theorem evaluate_atomic (line : String) :
    interpreter.Atomic (Statement.ofLine line) (interpreter.evaluate engine line) := by
  have performed (statement : Statement) :
      interpreter.Atomic statement (interpreter.perform engine statement) := by
    cases statement with
    | expression source => exact perform_expression_atomic source
    | assign name source => exact perform_assign_atomic name source
    | define name params body => exact perform_define_atomic name params body
  obtain ⟨limits, failure, success⟩ := performed (Statement.ofLine line)
  unfold evaluate
  exact ⟨limits, failure, success⟩

section History

/-- The interpreter after lines were evaluated one after another. -/
def afterLines (engine : Pattern.Engine) : List String → Interpreter → Interpreter
  | [], interpreter => interpreter
  | line :: later, interpreter => afterLines engine later (interpreter.evaluate engine line).2

/-- The statements of lines that are evaluated one after another, each with its answer. -/
def answers (engine : Pattern.Engine) :
    List String → Interpreter → List (Statement × Except Error Value)
  | [], _ => []
  | line :: later, interpreter =>
    (Statement.ofLine line, (interpreter.evaluate engine line).1) ::
      answers engine later (interpreter.evaluate engine line).2

/-- The variable of an identifier is what an atomic outcome binds it to, or as before. -/
theorem Atomic.valueOf? {statement : Statement} {outcome : Except Error Value × Interpreter}
    (atomic : interpreter.Atomic statement outcome) {name : String}
    (identifier : isIdentifier name = true) :
    outcome.2.table.valueOf? name =
      (statement.assigned? name outcome.1).or (interpreter.table.valueOf? name) := by
  have plain : Variables.isCapture name = false := Variables.isCapture_of_isIdentifier identifier
  obtain ⟨answer, after⟩ := outcome
  cases answer with
  | error error =>
      have unassigned : statement.assigned? name (.error error) = none := by
        cases statement <;> rfl
      rw [unassigned, Option.none_or]
      exact (atomic.failure error rfl).bindings name plain
  | ok value =>
      have changes := atomic.success value rfl
      cases statement with
      | expression source => exact changes.bindings name plain
      | define defined params body =>
          obtain ⟨function, -, equal⟩ := changes
          change after.table.valueOf? name = interpreter.table.valueOf? name
          rw [equal]
          rfl
      | assign target source =>
          rw [Statement.assigned?]
          by_cases isTarget : target = name
          · rw [if_pos isTarget, ← isTarget]
            exact changes.bound
          · rw [if_neg isTarget, Option.none_or]
            exact changes.bindings name (Ne.symm isTarget) plain

/-- An identifier holds the value of its last assignment that succeeded, or else what it held
before. -/
theorem valueOf?_afterLines {name : String} (identifier : isIdentifier name = true)
    (lines : List String) (interpreter : Interpreter) :
    (interpreter.afterLines engine lines).table.valueOf? name =
      (Statement.lastAssigned? name (interpreter.answers engine lines)).or
        (interpreter.table.valueOf? name) := by
  induction lines generalizing interpreter with
  | nil => rfl
  | cons line later ih =>
      rw [afterLines, answers, Statement.lastAssigned?, ih,
        (evaluate_atomic line).valueOf? identifier, Option.or_assoc]

end History

/-- Every line is atomic up to captures.  After any lines, an identifier that is no constant holds
the value of its last assignment that succeeded, and nothing if there was none. -/
theorem lines_atomic (engine : Pattern.Engine) :
    (∀ (interpreter : Interpreter) (line : String),
      interpreter.Atomic (Statement.ofLine line) (interpreter.evaluate engine line)) ∧
    ∀ (lines : List String) (name : String), isIdentifier name = true →
      name ∉ Variables.constantNames →
        (Interpreter.initial.afterLines engine lines).table.valueOf? name =
          Statement.lastAssigned? name (Interpreter.initial.answers engine lines) := by
  refine ⟨fun interpreter line => evaluate_atomic line, ?_⟩
  intro lines name identifier notConstant
  have unbound : Interpreter.initial.table.valueOf? name = none :=
    SymbolTable.valueOf?_initial notConstant
  rw [valueOf?_afterLines identifier, unbound, Option.or_none]

/-- An assignment whose expression fails does not undo an earlier one. -/
theorem lines_atomic_failedAssignment :
    isIdentifier "x" = true ∧ "x" ∉ Variables.constantNames ∧
      (Interpreter.initial.afterLines (fun _ _ => .error "none")
        ["x = true", "x = y"]).table.valueOf? "x" = some (.boolean true) := by
  have identifier : isIdentifier "x" = true := by decide
  have notConstant : "x" ∉ Variables.constantNames := by decide
  have assigned : Statement.lastAssigned? "x"
      (Interpreter.initial.answers (fun _ _ => .error "none") ["x = true", "x = y"]) =
        some (.boolean true) := by
    with_unfolding_all rfl
  refine ⟨identifier, notConstant, ?_⟩
  rw [← assigned]
  exact (lines_atomic fun _ _ => .error "none").2 ["x = true", "x = y"] "x" identifier notConstant

end Interpreter

end Calculator
