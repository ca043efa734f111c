import Calculator.Proofs.Derivation
import Calculator.Proofs.Failures

/-!
# How a conversion fails

A text that does not convert has a fault in its syntax, or it calls a function with a wrong number
of arguments.  It cannot call what is no function, because a name that means no function is read as
a variable, and an argument list cannot end without a call: the outline of what a pass has read
has the call on top of the stack as long as its first argument may follow.
-/

namespace Calculator

/-- An error that an expression may meet when it is converted. -/
def Error.IsRefusal (error : Error) : Prop :=
  error.category = .syntactic ∨ ∃ name given expected, error = .argumentCount name given expected

theorem Error.isRefusal_of_syntactic {error : Error} (syntactic : error.category = .syntactic) :
    error.IsRefusal :=
  Or.inl syntactic

namespace Lexeme

variable {arity? : String → Option Nat} {mode : LexMode} {chars : List Char} {error : Error}

theorem readSign_syntactic {c : Char} (failed : readSign c chars = .error error) :
    error.category = .syntactic := by
  unfold readSign at failed
  split at failed
  · cases failed
  · split at failed
    · cases failed
    · cases failed
      split <;> rfl

theorem readAt_syntactic {c : Char} (failed : readAt arity? mode c chars = .error error) :
    error.category = .syntactic := by
  have found := lexemeAt_readAt arity? mode c chars
  generalize readAt arity? mode c chars = outcome at found failed
  cases found with
  | misplaced =>
      cases failed
      rfl
  | quoted =>
      unfold readQuoted at failed
      split at failed <;> cases failed
      rfl
  | literal =>
      unfold readLiteral at failed
      split at failed <;> cases failed
      rfl
  | pattern =>
      unfold readPattern at failed
      split at failed <;> cases failed
      rfl
  | capture =>
      unfold readCapture at failed
      dsimp only at failed
      split at failed <;> cases failed
      rfl
  | number =>
      unfold readNumber at failed
      split at failed
      · cases failed
      · exact readSign_syntactic failed
  | openIndex | closeIndex | openGroup | closeGroup | comma | name => cases failed

theorem next_syntactic (failed : next arity? mode chars = .error error) :
    error.category = .syntactic := by
  unfold next at failed
  split at failed
  · cases failed
  · split at failed
    · next notRead =>
      cases failed
      exact readAt_syntactic notRead
    · cases failed

end Lexeme

namespace Conversion

variable {arity? : String → Option Nat} {state : Conversion} {read : List Lexeme}

theorem missingOperandOr_isRefusal {fallback : Error} (syntactic : fallback.category = .syntactic) :
    (state.missingOperandOr fallback).IsRefusal := by
  refine Error.isRefusal_of_syntactic ?_
  unfold missingOperandOr
  split
  · rfl
  · exact syntactic

theorem acceptOperand_failsOnly (token : Token) :
    FailsOnly Error.IsRefusal (state.acceptOperand token) := by
  unfold acceptOperand
  split
  · exact .error (Error.isRefusal_of_syntactic rfl)
  · exact .ok _

theorem acceptOperator_failsOnly (sign : OperatorSign) :
    FailsOnly Error.IsRefusal (state.acceptOperator sign) := by
  unfold acceptOperator
  split
  · exact .ok _
  · exact .error (Error.isRefusal_of_syntactic rfl)
  · exact .ok _
  · exact .ok _
  · exact .error (Error.isRefusal_of_syntactic rfl)

theorem finishCall_failsOnly {name : String} (known : (arity? name).isSome = true) (given : Nat)
    (output : List Token) (frames : List Frame) :
    FailsOnly Error.IsRefusal (finishCall arity? name given output frames) := by
  unfold finishCall
  split
  · next unknown =>
    rw [unknown] at known
    cases known
  · split
    · exact .ok _
    · exact .error (Or.inr ⟨_, _, _, rfl⟩)

theorem Slot.known_of_stacked {name : String} {arguments : List (Tree Leaf)} {slots : List Slot}
    (stacked : Slot.Stacked arity? (.call name arguments :: slots)) :
    (arity? name).isSome = true := by
  cases stacked with
  | call below inside known => exact known

theorem Outlines.closeGroup_failsOnly (outlines : Outlines arity? state read)
    (rest : List Char) : FailsOnly Error.IsRefusal (state.closeGroup arity? rest) := by
  unfold Conversion.closeGroup
  split
  · next expectsFirst =>
    cases outlines with
    | afterOperand stacked grammatical primary => cases expectsFirst
    | beforeOperand stacked expects first =>
        obtain ⟨name, slots, rfl⟩ := first expectsFirst
        exact finishCall_failsOnly (Slot.known_of_stacked stacked) _ _ _
  · exact .error (missingOperandOr_isRefusal rfl)
  · next expectsOperator =>
    have holds := outlines.holdsBody (beq_iff_eq.mpr expectsOperator)
    split
    · exact .ok _
    · next unwound =>
      rw [unwound] at holds
      obtain ⟨arguments, slots, -, stacked, -⟩ := holds.call
      exact finishCall_failsOnly (Slot.known_of_stacked stacked) _ _ _
    · exact .error (Error.isRefusal_of_syntactic rfl)
    · exact .error (Error.isRefusal_of_syntactic rfl)

theorem closeIndex_failsOnly (bracket : Char) (rest : List Char) :
    FailsOnly Error.IsRefusal (state.closeIndex bracket rest) := by
  unfold closeIndex
  split
  · split
    · split
      · exact .ok _
      · exact .error (Error.isRefusal_of_syntactic rfl)
    · exact .error (Error.isRefusal_of_syntactic rfl)
    · exact .error (Error.isRefusal_of_syntactic rfl)
  · split <;> exact .error (missingOperandOr_isRefusal rfl)

theorem comma_failsOnly : FailsOnly Error.IsRefusal state.comma := by
  unfold comma
  split
  · split
    · exact .ok _
    · exact .error (Error.isRefusal_of_syntactic rfl)
  · exact .error (missingOperandOr_isRefusal rfl)

/-- A lexeme is refused for the syntax, or for the number of the arguments that it ends. -/
theorem Outlines.accept_failsOnly (outlines : Outlines arity? state read) (lexeme : Lexeme)
    (source rest : List Char) :
    FailsOnly Error.IsRefusal (state.accept arity? lexeme source rest) := by
  cases lexeme with
  | operand token => exact acceptOperand_failsOnly token
  | operator sign => exact acceptOperator_failsOnly sign
  | openGroup | openCall | openIndex => exact .ok _
  | closeGroup => exact outlines.closeGroup_failsOnly rest
  | closeIndex bracket => exact closeIndex_failsOnly bracket rest
  | comma => exact comma_failsOnly

theorem unclosed_syntactic (enclosure : Enclosure) :
    (unclosed enclosure).category = .syntactic := by
  cases enclosure <;> rfl

theorem finish_failsOnly : FailsOnly Error.IsRefusal state.finish := by
  unfold finish
  split
  · split
    · exact .ok _
    · exact .error (Error.isRefusal_of_syntactic (unclosed_syntactic _))
  · split
    · exact .error (Error.isRefusal_of_syntactic rfl)
    · split
      · exact .error (missingOperandOr_isRefusal (unclosed_syntactic _))
      · exact .error (missingOperandOr_isRefusal rfl)

/-- From an outlined state a pass fails for the syntax or for a number of arguments. -/
theorem Outlines.run_failsOnly {chars : List Char} (outlines : Outlines arity? state read) :
    FailsOnly Error.IsRefusal (state.run arity? chars) := by
  fun_induction run arity? state chars generalizing read with
  | case1 state chars error failed =>
      exact .error (Error.isRefusal_of_syntactic (Lexeme.next_syntactic failed))
  | case2 state chars ended => exact finish_failsOnly
  | case3 state chars lexeme source rest found error refused =>
      exact .error (outlines.accept_failsOnly lexeme source rest error refused)
  | case4 state chars lexeme source rest found next accepted ih =>
      exact ih (outlines.accept (Lexeme.next_proper found) accepted)

/-- An expression fails to convert for the syntax or for a number of arguments. -/
theorem convert_failsOnly (arity? : String → Option Nat) (source : String) :
    FailsOnly Error.IsRefusal (convert arity? source) :=
  start_outlines.run_failsOnly

end Conversion

end Calculator
