import Calculator.Proofs.LexemeSequence
import Calculator.Proofs.NestedCalls
import Mathlib.Data.List.Forall2

/-!
# Runs side by side

Two runs whose programs correspond token by token can be watched side by side.  As long as their
machines stay related, they meet the same functions and read the same values, so they end with the
same result or the same error.  A relation between machines has to survive only what a run can do:
count a step and write captures.  Some errors of the first run can be excused, such as those of a
limit that the second run has not reached.  The main statement lifts the correspondence of tokens
to whole runs, with the bodies of all functions that they call.
-/

namespace Calculator

namespace Run

/-- From related machines two computations end with the same outcome and on related machines,
unless the first one fails with an error that is excused. -/
def Relates {α : Type} (related : Machine → Machine → Prop) (excused : Error → Prop)
    (first second : Run α) : Prop :=
  ∀ one other, related one other →
    (∃ error, excused error ∧ (first.run.run one).1 = .error error) ∨
      ((first.run.run one).1 = (second.run.run other).1 ∧
        related (first.run.run one).2 (second.run.run other).2)

namespace Relates

variable {α β : Type} {related : Machine → Machine → Prop} {excused : Error → Prop}

theorem pure (result : α) :
    Relates related excused (Pure.pure result : Run α) (Pure.pure result) :=
  fun _ _ together => Or.inr ⟨rfl, together⟩

theorem throw (error : Error) :
    Relates related excused (throw error : Run α) (throw error) :=
  fun _ _ together => Or.inr ⟨rfl, together⟩

theorem excuse {error : Error} (isExcused : excused error) (second : Run α) :
    Relates related excused (MonadExcept.throw error : Run α) second :=
  fun _ _ _ => Or.inl ⟨error, isExcused, rfl⟩

theorem lift (outcome : Except Error α) :
    Relates related excused (Evaluation.lift outcome) (Evaluation.lift outcome) := by
  cases outcome with
  | ok result => exact pure result
  | error error => exact throw error

theorem bind {first second : Run α} {firstNext secondNext : α → Run β}
    (start : Relates related excused first second)
    (next : ∀ result, Relates related excused (firstNext result) (secondNext result)) :
    Relates related excused (first >>= firstNext) (second >>= secondNext) := by
  intro one other together
  have begun := start one other together
  rw [run_bind, run_bind]
  cases firstEnds : first.run.run one with
  | mk firstOutcome firstAfter =>
      cases secondEnds : second.run.run other with
      | mk secondOutcome secondAfter =>
          rw [firstEnds, secondEnds] at begun
          rcases begun with ⟨error, isExcused, rfl⟩ | ⟨rfl, stillTogether⟩
          · exact Or.inl ⟨error, isExcused, rfl⟩
          · cases firstOutcome with
            | ok result => exact next result firstAfter secondAfter stillTogether
            | error error => exact Or.inr ⟨rfl, stillTogether⟩

/-- What follows a pure operation may use that it succeeded. -/
theorem lift_bind (outcome : Except Error α) {firstNext secondNext : α → Run β}
    (next : ∀ result, outcome = .ok result →
      Relates related excused (firstNext result) (secondNext result)) :
    Relates related excused (Evaluation.lift outcome >>= firstNext)
      (Evaluation.lift outcome >>= secondNext) := by
  cases outcome with
  | ok result => exact next result rfl
  | error error => exact throw error

theorem get_bind {first second : Machine → Run α}
    (next : ∀ one other, related one other →
      Relates related excused (first one) (second other)) :
    Relates related excused (get >>= first) (get >>= second) := by
  intro one other together
  rw [run_bind, run_bind]
  exact next one other together one other together

theorem modify {change : Machine → Machine}
    (survives : ∀ one other, related one other → related (change one) (change other)) :
    Relates related excused (modify change : Run PUnit) (modify change) :=
  fun one other together => Or.inr ⟨rfl, survives one other together⟩

end Relates

end Run

/-- The value that a token stands for by itself: the value of a variable or of a capture, if there
is one, or a value that is part of the program. -/
def Token.reads? (locals : Entries Value) (table : SymbolTable) : Token → Option Value
  | .value held => some held
  | .var name => (Entries.get? locals name).or (table.valueOf? name)
  | .capture name => table.valueOf? name
  | _ => none

namespace Evaluation

variable {related : Machine → Machine → Prop} {excused : Error → Prop}
  {locals firstLocals secondLocals : Entries Value}

/-- Two tokens do the same in two runs: they are one token, which reads the same in both runs, or
both of them read the same value. -/
inductive Corresponds (related : Machine → Machine → Prop)
    (firstLocals secondLocals : Entries Value) : Token → Token → Prop
  | same (token : Token)
      (reads : ∀ one other, related one other →
        token.reads? firstLocals one.table = token.reads? secondLocals other.table) :
      Corresponds related firstLocals secondLocals token token
  | value (first second : Token) (value : Value)
      (firstReads : ∀ one other, related one other →
        first.reads? firstLocals one.table = some value)
      (secondReads : ∀ one other, related one other →
        second.reads? secondLocals other.table = some value) :
      Corresponds related firstLocals secondLocals first second

/-- A relation between machines that runs of defined functions keep. -/
structure Lockstep (related : Machine → Machine → Prop) : Prop where
  functions : ∀ one other, related one other → ∀ name,
    one.table.function? name = other.table.function? name
  captures : ∀ one other, related one other → ∀ texts,
    related { one with table := one.table.setCaptures texts }
      { other with table := other.table.setCaptures texts }
  bodies : ∀ one other, related one other → ∀ name function,
    one.table.function? name = some (.user function) →
      ∀ arguments : List Value, arguments.length = function.params.length →
        ∀ token ∈ function.body, ∀ later another, related later another →
          token.reads? (function.params.zip arguments) later.table =
            token.reads? (function.params.zip arguments) another.table

/-- A program calls functions of some names only. -/
def CallsOnly (callable : String → Prop) (program : Program) : Prop :=
  ∀ name count, Token.call name count ∈ program → callable name

/-- A relation between machines that runs keep as long as they call functions of some names
only. -/
structure LockstepWithin (callable : String → Prop) (related : Machine → Machine → Prop) : Prop
    where
  functions : ∀ one other, related one other → ∀ name,
    one.table.function? name = other.table.function? name
  captures : ∀ one other, related one other → ∀ texts,
    related { one with table := one.table.setCaptures texts }
      { other with table := other.table.setCaptures texts }
  bodies : ∀ one other, related one other → ∀ name function, callable name →
    one.table.function? name = some (.user function) →
      ∀ arguments : List Value, arguments.length = function.params.length →
        ∀ token ∈ function.body, ∀ later another, related later another →
          token.reads? (function.params.zip arguments) later.table =
            token.reads? (function.params.zip arguments) another.table
  calls : ∀ one other, related one other → ∀ name function, callable name →
    one.table.function? name = some (.user function) → CallsOnly callable function.body

theorem Lockstep.within (lockstep : Lockstep related) :
    LockstepWithin (fun _ => True) related where
  functions := lockstep.functions
  captures := lockstep.captures
  bodies := fun one other together name function _ =>
    lockstep.bodies one other together name function
  calls := fun _ _ _ _ _ _ _ _ _ _ => trivial

section Steps

variable {callable : String → Prop} {context first second : Context} {stack : List Operand}

/-- Counting a step keeps machines related if the relation survives it.  The first run may meet its
limit earlier, if that is excused. -/
theorem countStep_relates {limits : Limits}
    (survives : ∀ one other, related one other →
      related { one with steps := one.steps + 1 } { other with steps := other.steps + 1 })
    (ordered : ∀ one other, related one other →
      one.steps = other.steps ∨
        (other.steps ≤ one.steps ∧ excused (.stepLimit limits.maxSteps))) :
    Run.Relates related excused (countStep limits) (countStep limits) := by
  refine .bind (.modify survives) fun _ => .get_bind fun one other together => ?_
  rcases ordered one other together with equal | ⟨fewer, isExcused⟩
  · rw [equal]
    split
    · exact .throw _
    · exact .pure _
  · by_cases exceeded : limits.maxSteps < one.steps
    · rw [if_pos exceeded]
      exact .excuse isExcused _
    · rw [if_neg exceeded, if_neg (by omega)]
      exact .pure _

theorem run_countStep (limits : Limits) (machine : Machine) :
    (countStep limits).run.run machine =
      (if limits.maxSteps < machine.steps + 1 then .error (.stepLimit limits.maxSteps) else .ok (),
        { machine with steps := machine.steps + 1 }) := by
  rw [countStep, Run.run_bind]
  change (if limits.maxSteps < machine.steps + 1 then throw (.stepLimit limits.maxSteps)
    else pure () : Run Unit).run.run { machine with steps := machine.steps + 1 } = _
  split <;> rfl

/-- The first run may take a step alone if the relation allows it to be ahead, and if it may meet
its limit. -/
theorem countStep_relates_left {α : Type} {limits : Limits} {firstNext second : Run α}
    (ahead : ∀ one other, related one other → related { one with steps := one.steps + 1 } other)
    (isExcused : excused (.stepLimit limits.maxSteps))
    (next : Run.Relates related excused firstNext second) :
    Run.Relates related excused (countStep limits >>= fun _ => firstNext) second := by
  intro one other together
  rw [Run.run_bind, run_countStep]
  by_cases exceeded : limits.maxSteps < one.steps + 1
  · rw [if_pos exceeded]
    exact Or.inl ⟨_, isExcused, rfl⟩
  · rw [if_neg exceeded]
    exact next _ other (ahead one other together)

theorem run_lookup (name : String) (machine : Machine) :
    (lookup locals name).run.run machine =
      (match (Token.var name).reads? locals machine.table with
        | some value => .ok value
        | none => .error (.undefinedVariable name), machine) := by
  have reads : (Token.var name).reads? locals machine.table =
      (Entries.get? locals name).or (machine.table.valueOf? name) := rfl
  rw [reads]
  unfold lookup
  cases Entries.get? locals name with
  | some value => rfl
  | none =>
      rw [Option.none_or, Run.run_bind]
      change (match machine.table.valueOf? name with
        | some value => (pure value : Run Value)
        | none => throw (Error.undefinedVariable name)).run.run machine = _
      cases machine.table.valueOf? name <;> rfl

theorem reads?_capture (name : String) (table : SymbolTable) :
    (Token.capture name).reads? locals table = (Token.var name).reads? [] table :=
  rfl

theorem lookup_relates {name : String}
    (reads : ∀ one other, related one other →
      (Token.var name).reads? firstLocals one.table =
        (Token.var name).reads? secondLocals other.table) :
    Run.Relates related excused (lookup firstLocals name) (lookup secondLocals name) := by
  intro one other together
  rw [run_lookup, run_lookup, reads one other together]
  exact Or.inr ⟨rfl, together⟩

/-- A token that reads a value puts it on the stack. -/
theorem run_step_of_reads {token : Token} {value : Value} {machine : Machine}
    (reads : token.reads? locals machine.table = some value) :
    (step context locals token stack).run.run machine =
      (.ok (.value value :: stack), machine) := by
  cases token with
  | value held =>
      cases reads
      rfl
  | var name =>
      rw [step, Run.run_bind, run_lookup, reads]
      rfl
  | capture name =>
      rw [reads?_capture] at reads
      rw [step, Run.run_bind, run_lookup, reads]
      rfl
  | number | string | literal | regex | op | call | index => cases reads

theorem argumentValues_length {name : String} {operands : List Operand} {values : List Value}
    (taken : argumentValues name operands = .ok values) : values.length = operands.length := by
  induction operands generalizing values with
  | nil =>
      cases taken
      rfl
  | cons operand rest ih =>
      cases operand with
      | value value =>
          obtain ⟨later, laterTaken, rfl⟩ := map_eq_ok_iff.mp taken
          rw [List.length_cons, List.length_cons, ih laterTaken]
      | pattern pattern => cases taken

/-- A call takes as many values as it has arguments. -/
theorem popArguments_length {name : String} {count : Nat} {values : List Value}
    {rest : List Operand} (popped : popArguments name count stack = .ok (values, rest)) :
    values.length = count := by
  unfold popArguments at popped
  split at popped
  · cases popped
  · next enough =>
    obtain ⟨taken, isTaken, equal⟩ := map_eq_ok_iff.mp popped
    cases equal
    rw [argumentValues_length isTaken, List.length_reverse, List.length_take]
    omega

theorem matchPattern_relates (lockstep : LockstepWithin callable related) (pattern : Pattern)
    (subject : String) :
    Run.Relates related excused (matchPattern pattern subject) (matchPattern pattern subject) := by
  unfold matchPattern
  split
  · refine .bind (.modify fun one other together => ?_) fun changed => .pure _
    exact lockstep.captures one other together _
  · exact .pure _

/-- Two ways to run the defined functions of some names keep machines related, or the first one
meets an excused limit. -/
def UserCall.Relates (callable : String → Prop) (related : Machine → Machine → Prop)
    (excused : Error → Prop) (firstDepth secondDepth : Nat) : UserCall → UserCall → Prop
  | none, none => firstDepth = secondDepth ∨ excused (.recursionLimit firstDepth)
  | none, some _ => excused (.recursionLimit firstDepth)
  | some _, none => False
  | some firstRun, some secondRun =>
    ∀ one other, related one other → ∀ name function, callable name →
      one.table.function? name = some (.user function) →
        ∀ arguments : List Value, arguments.length = function.params.length →
          Run.Relates related excused (firstRun function arguments)
            (secondRun function arguments)

/-- What the steps of two runs have in common. -/
structure Context.Relates (callable : String → Prop) (related : Machine → Machine → Prop)
    (excused : Error → Prop) (first second : Context) : Prop where
  engine : first.engine = second.engine
  counts : Run.Relates related excused (countStep first.limits) (countStep second.limits)
  calls : UserCall.Relates callable related excused first.limits.maxDepth second.limits.maxDepth
    first.userCall second.userCall

theorem call_relates (lockstep : LockstepWithin callable related)
    (contexts : Context.Relates callable related excused first second) {name : String}
    (isCallable : callable name) (count : Nat) (stack : List Operand) :
    Run.Relates related excused (call first name count stack) (call second name count stack) := by
  unfold call
  refine .get_bind fun one other together => ?_
  rw [← lockstep.functions one other together name]
  cases found : one.table.function? name with
  | none => exact .throw _
  | some function =>
      dsimp only
      split
      · exact .throw _
      · next arity =>
        cases function with
        | builtin builtin =>
            refine .bind (.lift _) fun popped => ?_
            exact .bind (.lift _) fun result => .pure _
        | host function =>
            refine .bind (.lift _) fun popped => ?_
            split
            · exact .pure _
            · exact .throw _
        | user function =>
            have calls := contexts.calls
            cases firstCall : first.userCall with
            | none =>
                cases secondCall : second.userCall with
                | none =>
                    rw [firstCall, secondCall] at calls
                    rcases calls with equal | isExcused
                    · dsimp only
                      rw [equal]
                      exact .throw _
                    · exact .excuse isExcused _
                | some secondRun =>
                    rw [firstCall, secondCall] at calls
                    exact .excuse calls _
            | some firstRun =>
                cases secondCall : second.userCall with
                | none =>
                    rw [firstCall, secondCall] at calls
                    exact calls.elim
                | some secondRun =>
                    rw [firstCall, secondCall] at calls
                    refine .lift_bind _ fun popped isPopped => ?_
                    obtain ⟨arguments, rest⟩ := popped
                    have length : arguments.length = function.params.length :=
                      (popArguments_length isPopped).trans (Decidable.of_not_not arity)
                    have body :=
                      calls one other together name function isCallable found arguments length
                    exact .bind body fun result => .pure _

theorem step_relates (lockstep : LockstepWithin callable related)
    (contexts : Context.Relates callable related excused first second) {token other : Token}
    (corresponds : Corresponds related firstLocals secondLocals token other)
    (isCallable : ∀ name count, token = .call name count → callable name)
    (stack : List Operand) :
    Run.Relates related excused (step first firstLocals token stack)
      (step second secondLocals other stack) := by
  cases corresponds with
  | value _ _ firstReads secondReads =>
      intro one another together
      rw [run_step_of_reads (firstReads one another together),
        run_step_of_reads (secondReads one another together)]
      exact Or.inr ⟨rfl, together⟩
  | same reads =>
      cases token with
      | number | string | value => exact .pure _
      | literal raw => exact .bind (.lift _) fun value => .pure _
      | var name => exact .bind (lookup_relates reads) fun value => .pure _
      | capture name => exact .bind (lookup_relates reads) fun value => .pure _
      | regex source flags =>
          rw [step, step, contexts.engine]
          exact .bind (.lift _) fun pattern => .pure _
      | index =>
          refine .bind (.lift _) fun key => ?_
          refine .bind (.lift _) fun container => ?_
          exact .bind (.lift _) fun result => .pure _
      | call name count =>
          exact call_relates lockstep contexts (isCallable name count rfl) count stack
      | op op =>
          cases op with
          | unary op =>
              refine .bind (.lift _) fun operand => ?_
              exact .bind (.lift _) fun result => .pure _
          | binary op =>
              by_cases isMatch : op = .regexMatch
              · subst isMatch
                rw [step, step, contexts.engine]
                refine .bind (.lift _) fun right => ?_
                refine .bind (.lift _) fun pattern => ?_
                refine .bind (.lift _) fun subject => ?_
                exact .bind (matchPattern_relates lockstep pattern _) fun result => .pure _
              · rw [step, step]
                · refine .bind (.lift _) fun right => ?_
                  refine .bind (.lift _) fun left => ?_
                  exact .bind (.lift _) fun result => .pure _
                · exact isMatch
                · exact isMatch

/-- Programs whose tokens correspond one by one do the same. -/
theorem execute_relates (lockstep : LockstepWithin callable related)
    (contexts : Context.Relates callable related excused first second) {program other : Program}
    (correspond : List.Forall₂ (Corresponds related firstLocals secondLocals) program other)
    (calls : CallsOnly callable program) (stack : List Operand) :
    Run.Relates related excused (execute first firstLocals program stack)
      (execute second secondLocals other stack) := by
  induction correspond generalizing stack with
  | nil => exact .pure _
  | cons corresponds rest ih =>
      have firstCall := fun name count isCall =>
        calls name count (List.mem_cons.mpr (Or.inl (Eq.symm isCall)))
      have laterCalls : CallsOnly callable _ := fun name count inRest =>
        calls name count (List.mem_cons_of_mem _ inRest)
      refine .bind contexts.counts fun counted => ?_
      exact .bind (step_relates lockstep contexts corresponds firstCall stack) fun next =>
        ih laterCalls next

theorem runProgram_relates (lockstep : LockstepWithin callable related)
    (contexts : Context.Relates callable related excused first second) {program other : Program}
    (correspond : List.Forall₂ (Corresponds related firstLocals secondLocals) program other)
    (calls : CallsOnly callable program) :
    Run.Relates related excused (runProgram first firstLocals program)
      (runProgram second secondLocals other) :=
  .bind (execute_relates lockstep contexts correspond calls []) fun _ => .lift _

end Steps

section Nesting

variable {callable : String → Prop} {engine : Pattern.Engine} {firstLimits secondLimits : Limits}

/-- Calls may nest equally deep in both runs, or not as deep in the first one, where the limit is
excused. -/
def Deepens (excused : Error → Prop) (firstLimits secondLimits : Limits)
    (firstDepth secondDepth : Nat) : Prop :=
  (firstDepth = secondDepth ∧ firstLimits.maxDepth = secondLimits.maxDepth) ∨
    (firstDepth ≤ secondDepth ∧ excused (.recursionLimit firstLimits.maxDepth))

theorem Deepens.refl (limits : Limits) (depth : Nat) :
    Deepens excused limits limits depth depth :=
  Or.inl ⟨rfl, rfl⟩

theorem LockstepWithin.body_corresponds (lockstep : LockstepWithin callable related)
    {one other : Machine} (together : related one other) {name : String}
    {function : UserFunction} (isCallable : callable name)
    (found : one.table.function? name = some (.user function)) {arguments : List Value}
    (length : arguments.length = function.params.length) :
    List.Forall₂ (Corresponds related (function.params.zip arguments)
      (function.params.zip arguments)) function.body function.body := by
  rw [List.forall₂_same]
  intro token isToken
  exact .same token (lockstep.bodies one other together name function isCallable found arguments
    length token isToken)

/-- Runs of corresponding programs from related machines end alike, however deep their calls
nest. -/
theorem runNested_relates_within (lockstep : LockstepWithin callable related)
    (counts : Run.Relates related excused (countStep firstLimits) (countStep secondLimits))
    {firstDepth secondDepth : Nat}
    (deepens : Deepens excused firstLimits secondLimits firstDepth secondDepth)
    {program other : Program}
    (correspond : List.Forall₂ (Corresponds related firstLocals secondLocals) program other)
    (calls : CallsOnly callable program) :
    Run.Relates related excused (runNested engine firstLimits firstDepth firstLocals program)
      (runNested engine secondLimits secondDepth secondLocals other) := by
  -- The depths decrease together, so the second one is the greater one in every nested call.
  induction firstDepth generalizing secondDepth firstLocals secondLocals program other with
  | zero =>
      cases secondDepth with
      | zero =>
          rw [runNested, runNested]
          refine runProgram_relates lockstep ?_ correspond calls
          refine ⟨rfl, counts, ?_⟩
          exact deepens.imp And.right And.right
      | succ secondDepth =>
          rw [runNested, runNested]
          refine runProgram_relates lockstep ?_ correspond calls
          refine ⟨rfl, counts, ?_⟩
          rcases deepens with ⟨equal, -⟩ | ⟨-, isExcused⟩
          · cases equal
          · exact isExcused
  | succ firstDepth ih =>
      cases secondDepth with
      | zero =>
          rcases deepens with ⟨equal, -⟩ | ⟨deeper, -⟩
          · cases equal
          · cases deeper
      | succ secondDepth =>
          rw [runNested, runNested]
          refine runProgram_relates lockstep ?_ correspond calls
          refine ⟨rfl, counts, ?_⟩
          intro one another together name function isCallable found arguments length
          have bodyCalls : CallsOnly callable function.body :=
            lockstep.calls one another together name function isCallable found
          have deepensInside : Deepens excused firstLimits secondLimits firstDepth secondDepth :=
            deepens.imp (And.imp_left Nat.succ.inj) (And.imp_left Nat.le_of_succ_le_succ)
          exact ih deepensInside
            (lockstep.body_corresponds together isCallable found length) bodyCalls

theorem runNested_relates (lockstep : Lockstep related)
    (counts : Run.Relates related excused (countStep firstLimits) (countStep secondLimits))
    {firstDepth secondDepth : Nat}
    (deepens : Deepens excused firstLimits secondLimits firstDepth secondDepth)
    {program other : Program}
    (correspond : List.Forall₂ (Corresponds related firstLocals secondLocals) program other) :
    Run.Relates related excused (runNested engine firstLimits firstDepth firstLocals program)
      (runNested engine secondLimits secondDepth secondLocals other) :=
  runNested_relates_within lockstep.within counts deepens correspond fun _ _ _ => trivial

end Nesting

end Evaluation

end Calculator
