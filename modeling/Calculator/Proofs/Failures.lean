import Calculator.Builtin
import Calculator.Evaluation

/-!
# How operations fail

The operations on values fail with errors about values: kinds that do not fit, divisions by zero,
and literals or patterns that cannot be read.  None of them fails for a name that means no
function, none for operands that are missing, and none for a limit.
-/

namespace Calculator

/-- An error that a program whose calls all name functions may meet when it runs. -/
def Error.IsOrdinary (error : Error) : Prop :=
  error.category = .semantic ∧ ∀ name, error ≠ .undefinedFunction name

/-- A run reached one of its limits. -/
inductive Error.IsLimit : Error → Prop
  | steps (limit : Nat) : IsLimit (.stepLimit limit)
  | recursion (limit : Nat) : IsLimit (.recursionLimit limit)

/-- An error that an operation on values may meet. -/
structure Error.ConcernsValues (error : Error) : Prop where
  ordinary : error.IsOrdinary
  noLimit : ¬error.IsLimit

/-- An outcome is a result, or an error of some class. -/
def FailsOnly {α : Type} (errors : Error → Prop) (outcome : Except Error α) : Prop :=
  ∀ error, outcome = .error error → errors error

namespace FailsOnly

variable {α β : Type} {errors : Error → Prop} {outcome : Except Error α}

theorem ok (result : α) : FailsOnly errors (.ok result) :=
  fun _ failed => nomatch failed

theorem error {cause : Error} (holds : errors cause) :
    FailsOnly errors (.error cause : Except Error α) := by
  intro found failed
  cases failed
  exact holds

theorem mono {larger : Error → Prop} (fails : FailsOnly errors outcome)
    (included : ∀ error, errors error → larger error) : FailsOnly larger outcome :=
  fun error failed => included error (fails error failed)

theorem map (fails : FailsOnly errors outcome) (change : α → β) :
    FailsOnly errors (outcome.map change) := by
  cases outcome with
  | ok result => exact ok _
  | error cause => exact error (fails cause rfl)

theorem mapError {ε : Type} {change : ε → Error} (holds : ∀ cause, errors (change cause))
    (checked : Except ε α) : FailsOnly errors (checked.mapError change) := by
  cases checked with
  | ok result => exact ok _
  | error cause => exact error (holds cause)

end FailsOnly

theorem concernsValues_typeMismatch (operation : String) (found : Kind) :
    (Error.typeMismatch operation found).ConcernsValues :=
  ⟨⟨rfl, nofun⟩, nofun⟩

theorem concernsValues_divisionByZero : Error.divisionByZero.ConcernsValues :=
  ⟨⟨rfl, nofun⟩, nofun⟩

namespace Value

theorem numberOperand_failsOnly (operation : String) (operand : Value) :
    FailsOnly Error.ConcernsValues (operand.numberOperand operation) := by
  unfold numberOperand
  split
  · exact .ok _
  · exact .error (concernsValues_typeMismatch _ _)

theorem numberOperands_failsOnly (operation : String) (left right : Value) :
    FailsOnly Error.ConcernsValues (numberOperands operation left right) := by
  unfold numberOperands
  split
  · next failed => exact .error (numberOperand_failsOnly operation left _ failed)
  · split
    · next failed => exact .error (numberOperand_failsOnly operation right _ failed)
    · exact .ok _

theorem divide_failsOnly (left right : Value) :
    FailsOnly Error.ConcernsValues (left.divide right) := by
  unfold divide
  split
  · next failed => exact .error (numberOperands_failsOnly "/" left right _ failed)
  · split
    · exact .error concernsValues_divisionByZero
    · exact .ok _

theorem remainder_failsOnly (left right : Value) :
    FailsOnly Error.ConcernsValues (left.remainder right) := by
  unfold remainder
  split
  · next failed => exact .error (numberOperands_failsOnly "%" left right _ failed)
  · dsimp only
    split
    · exact .error concernsValues_divisionByZero
    · exact .ok _

theorem add_failsOnly (left right : Value) : FailsOnly Error.ConcernsValues (left.add right) := by
  unfold add
  split
  · exact .ok _
  · exact (numberOperands_failsOnly "+" left right).map _

theorem ordered_failsOnly (operation : String) (accepts : Ordering → Bool) (left right : Value) :
    FailsOnly Error.ConcernsValues (ordered operation accepts left right) := by
  refine FailsOnly.map ?_ _
  unfold compare
  split
  · exact .error (concernsValues_typeMismatch _ _)
  · split
    · exact .error (concernsValues_typeMismatch _ _)
    · split
      · exact .ok _
      · split <;> exact .ok _

/-- A binary operator that means something on values fails only because of the values. -/
theorem apply_failsOnly {op : BinaryOp} (meaningful : op ≠ .regexMatch) (left right : Value) :
    FailsOnly Error.ConcernsValues (apply op left right) := by
  cases op with
  | and | or | equal | notEqual => exact .ok _
  | less | lessEqual | greater | greaterEqual => exact ordered_failsOnly _ _ left right
  | add => exact add_failsOnly left right
  | subtract | multiply | power => exact (numberOperands_failsOnly _ left right).map _
  | divide => exact divide_failsOnly left right
  | remainder => exact remainder_failsOnly left right
  | regexMatch => exact absurd rfl meaningful

theorem applyUnary_failsOnly (op : UnaryOp) (operand : Value) :
    FailsOnly Error.ConcernsValues (applyUnary op operand) := by
  cases op with
  | negate => exact (numberOperand_failsOnly "-" operand).map _
  | not => exact .ok _

theorem select_failsOnly (container key : Value) :
    FailsOnly Error.ConcernsValues (container.select key) := by
  unfold select
  split
  · exact (numberOperand_failsOnly "[" key).map _
  · exact .ok _
  · exact .error ⟨⟨rfl, nofun⟩, nofun⟩

theorem ofLiteral_failsOnly (text : String) : FailsOnly Error.ConcernsValues (ofLiteral text) :=
  .mapError (fun _ => ⟨⟨rfl, nofun⟩, nofun⟩) _

end Value

theorem Builtin.call_failsOnly (builtin : Builtin) (argument : Value) :
    FailsOnly Error.ConcernsValues (builtin.call argument) :=
  (Value.numberOperand_failsOnly _ argument).map _

namespace Evaluation

theorem patternOf_failsOnly (engine : Pattern.Engine) (operand : Operand) :
    FailsOnly Error.ConcernsValues (patternOf engine operand) := by
  unfold patternOf
  split
  · exact .ok _
  · exact .mapError (fun _ => ⟨⟨rfl, nofun⟩, nofun⟩) _
  · exact .error ⟨⟨rfl, nofun⟩, nofun⟩

theorem argumentValues_failsOnly (name : String) (operands : List Operand) :
    FailsOnly Error.ConcernsValues (argumentValues name operands) := by
  induction operands with
  | nil => exact .ok _
  | cons operand rest ih =>
      cases operand with
      | value value => exact ih.map _
      | pattern pattern => exact .error (concernsValues_typeMismatch _ _)

end Evaluation

end Calculator
