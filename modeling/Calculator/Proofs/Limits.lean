import Calculator.Proofs.Failures
import Calculator.Proofs.SideBySide

/-!
# Raising the limits

The limits of a run decide whether it may go on, and nothing else.  Two runs of one program from
one table under different limits do the same, token by token, until one of them reaches a limit.
So a run that ends in another way ends in that way under all limits that are at least as high.
-/

namespace Calculator

namespace Evaluation

variable {engine : Pattern.Engine} {smaller larger : Limits}

theorem lockstep_eq : Lockstep (Eq : Machine → Machine → Prop) := by
  constructor
  · rintro one _ rfl name
    rfl
  · rintro one _ rfl texts
    rfl
  · rintro one _ rfl name function found arguments length token member later _ rfl
    rfl

/-- Where the lower limit still allows a step, the higher one does too. -/
theorem countStep_relates_of_le (longer : smaller.maxSteps ≤ larger.maxSteps) :
    Run.Relates Eq Error.IsLimit (countStep smaller) (countStep larger) := by
  rintro machine _ rfl
  rw [run_countStep, run_countStep]
  by_cases exceeded : smaller.maxSteps < machine.steps + 1
  · rw [if_pos exceeded]
    exact Or.inl ⟨_, .steps smaller.maxSteps, rfl⟩
  · have allowed : ¬larger.maxSteps < machine.steps + 1 := by omega
    rw [if_neg exceeded, if_neg allowed]
    exact Or.inr ⟨rfl, rfl⟩

theorem runNested_relates_of_le (deeper : smaller.maxDepth ≤ larger.maxDepth)
    (longer : smaller.maxSteps ≤ larger.maxSteps) (program : Program) :
    Run.Relates Eq Error.IsLimit (runNested engine smaller smaller.maxDepth [] program)
      (runNested engine larger larger.maxDepth [] program) := by
  have correspond : List.Forall₂ (Corresponds Eq [] []) program program := by
    rw [List.forall₂_same]
    intro token _
    refine .same token ?_
    rintro one _ rfl
    rfl
  have deepens : Deepens Error.IsLimit smaller larger smaller.maxDepth larger.maxDepth :=
    Or.inr ⟨deeper, .recursion smaller.maxDepth⟩
  exact runNested_relates lockstep_eq (countStep_relates_of_le longer) deepens correspond

/-- A run that reaches no limit ends the same way under higher limits: with the same value or the
same error, and with the same table. -/
theorem run_eq_of_limits_le (engine : Pattern.Engine) {smaller larger : Limits}
    (deeper : smaller.maxDepth ≤ larger.maxDepth) (longer : smaller.maxSteps ≤ larger.maxSteps)
    (program : Program) (table : SymbolTable)
    (unlimited : ∀ error, (run engine smaller program table).1 = .error error →
      ¬error.IsLimit) :
    run engine larger program table = run engine smaller program table := by
  have related : Run.Relates Eq Error.IsLimit
      (runNested engine smaller smaller.maxDepth [] program)
      (runNested engine larger larger.maxDepth [] program) :=
    runNested_relates_of_le deeper longer program
  rcases related { table, steps := 0 } _ rfl with ⟨error, isLimit, failed⟩ | ⟨result, machine⟩
  · exact absurd isLimit (unlimited error failed)
  · exact Prod.ext result.symm (congrArg Machine.table machine.symm)

/-- The call of a function that joins a text to itself takes five steps, one level deep.  These
limits allow no more, and higher ones change nothing. -/
theorem run_eq_of_limits_le_doubling :
    (run (fun _ _ => .error "none") { maxDepth := 1, maxSteps := 5 }
        [.string "a", .call "twice" 1] doublingTable).1 = .ok (.string "aa") ∧
      (run (fun _ _ => .error "none") Limits.standard
        [.string "a", .call "twice" 1] doublingTable).1 = .ok (.string "aa") := by
  have ended : (run (fun _ _ => .error "none") { maxDepth := 1, maxSteps := 5 }
      [.string "a", .call "twice" 1] doublingTable).1 = .ok (.string "aa") := by
    rfl
  have same : run (fun _ _ => .error "none") Limits.standard
        [.string "a", .call "twice" 1] doublingTable =
      run (fun _ _ => .error "none") { maxDepth := 1, maxSteps := 5 }
        [.string "a", .call "twice" 1] doublingTable := by
    refine run_eq_of_limits_le _ (by decide) (by decide) _ _ fun error failed => ?_
    rw [ended] at failed
    cases failed
  exact ⟨ended, by rw [same, ended]⟩

end Evaluation

end Calculator
