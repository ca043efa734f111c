import Calculator.Proofs.Execution
import Mathlib.Logic.Relation

/-!
# The work of a run

The expansion of a program has the tokens of the program in order, and after each call of a defined
function the expansion of the body of that function.  Functions may call each other in cycles, and
then a program has no finite expansion.  The main statements are that a run executes no more tokens
and nests calls no deeper than its limits allow, that a run with a value has executed the whole
expansion of its program, and that a run whose limits leave room for the expansion reaches no limit.
-/

namespace Calculator

def Event.token? : Event → Option Token
  | .token begun => some begun
  | _ => none

/-- The tokens that a journal tells of, in order. -/
def executed (events : List Event) : List Token :=
  events.filterMap Event.token?

/-- The number of calls of defined functions that are active after the events of a journal. -/
def activeCalls : List Event → Int
  | [] => 0
  | .enter _ :: later => activeCalls later + 1
  | .leave :: later => activeCalls later - 1
  | .token _ :: later => activeCalls later
  | .found _ :: later => activeCalls later

/-- At no time while a journal is written are more calls active than so many. -/
def NestsWithin (bound : Nat) (events : List Event) : Prop :=
  ∀ earlier, earlier <+: events → activeCalls earlier ≤ bound

section Journals

variable {bound : Nat} {inner events : List Event}

@[simp]
theorem executed_token (token : Token) (later : List Event) :
    executed (.token token :: later) = token :: executed later :=
  rfl

@[simp]
theorem executed_enter (function : UserFunction) (later : List Event) :
    executed (.enter function :: later) = executed later :=
  rfl

@[simp]
theorem executed_leave (later : List Event) : executed (.leave :: later) = executed later :=
  rfl

@[simp]
theorem executed_found (finding : Finding) (later : List Event) :
    executed (.found finding :: later) = executed later :=
  rfl

@[simp]
theorem executed_append (earlier later : List Event) :
    executed (earlier ++ later) = executed earlier ++ executed later :=
  List.filterMap_append

theorem activeCalls_append (earlier later : List Event) :
    activeCalls (earlier ++ later) = activeCalls earlier + activeCalls later := by
  induction earlier with
  | nil => exact (Int.zero_add _).symm
  | cons event earlier ih =>
      rw [List.cons_append]
      cases event <;> simp only [activeCalls, ih] <;> omega

theorem prefix_append_cases {start first second : List Event}
    (isStart : start <+: first ++ second) :
    start <+: first ∨ ∃ part, start = first ++ part ∧ part <+: second := by
  obtain ⟨rest, split⟩ := isStart
  rcases List.append_eq_append_iff.mp split with ⟨part, isFirst, -⟩ | ⟨part, isStart, isSecond⟩
  · exact Or.inl ⟨part, isFirst.symm⟩
  · exact Or.inr ⟨part, isStart, rest, isSecond.symm⟩

namespace NestsWithin

theorem nil (bound : Nat) : NestsWithin bound [] := by
  intro earlier isEarlier
  rw [List.prefix_nil.mp isEarlier]
  exact Int.natCast_nonneg bound

theorem token (token : Token) (later : NestsWithin bound events) :
    NestsWithin bound (.token token :: events) := by
  intro earlier isEarlier
  rcases List.prefix_cons_iff.mp isEarlier with rfl | ⟨part, rfl, isPart⟩
  · exact Int.natCast_nonneg bound
  · exact later part isPart

theorem found (finding : Finding) (later : NestsWithin bound events) :
    NestsWithin bound (.found finding :: events) := by
  intro earlier isEarlier
  rcases List.prefix_cons_iff.mp isEarlier with rfl | ⟨part, rfl, isPart⟩
  · exact Int.natCast_nonneg bound
  · exact later part isPart

theorem enter (function : UserFunction) (body : NestsWithin bound inner) :
    NestsWithin (bound + 1) (.enter function :: inner) := by
  intro earlier isEarlier
  rcases List.prefix_cons_iff.mp isEarlier with rfl | ⟨part, rfl, isPart⟩
  · exact Int.natCast_nonneg (bound + 1)
  · have nested := body part isPart
    rw [activeCalls]
    omega

/-- After a call is left, as many calls are active as before it. -/
theorem call (function : UserFunction) (body : NestsWithin bound inner)
    (balanced : activeCalls inner = 0) (later : NestsWithin (bound + 1) events) :
    NestsWithin (bound + 1) (.enter function :: (inner ++ .leave :: events)) := by
  intro earlier isEarlier
  rw [← List.cons_append] at isEarlier
  rcases prefix_append_cases isEarlier with inBody | ⟨part, rfl, isPart⟩
  · exact body.enter function earlier inBody
  · rw [activeCalls_append, activeCalls, balanced]
    rcases List.prefix_cons_iff.mp isPart with rfl | ⟨rest, rfl, isRest⟩
    · rw [activeCalls]
      omega
    · have nested := later rest isRest
      rw [activeCalls]
      omega

end NestsWithin

end Journals

/-- A program has a finite expansion, with these tokens.  Its calls nest so many levels deep. -/
inductive Expansion (table : SymbolTable) : Program → List Token → Nat → Prop
  | nil : Expansion table [] [] 0
  | plain {token : Token} {rest : Program} {tokens : List Token} {nesting : Nat}
      (noCallee : table.callee? token = none) (later : Expansion table rest tokens nesting) :
      Expansion table (token :: rest) (token :: tokens) nesting
  | call {token : Token} {rest : Program} {function : UserFunction} {inner tokens : List Token}
      {innerNesting nesting : Nat} (isCallee : table.callee? token = some function)
      (body : Expansion table function.body inner innerNesting)
      (later : Expansion table rest tokens nesting) :
      Expansion table (token :: rest) (token :: (inner ++ tokens)) (max (innerNesting + 1) nesting)

section Expansions

variable {table : SymbolTable} {program : Program} {tokens others : List Token}
  {nesting otherNesting : Nat}

theorem Expansion.cons_of_noCallee {token : Token} (noCallee : table.callee? token = none)
    (expansion : Expansion table (token :: program) tokens nesting) :
    ∃ later, tokens = token :: later ∧ Expansion table program later nesting := by
  cases expansion with
  | plain _ laterExpansion => exact ⟨_, rfl, laterExpansion⟩
  | call isCallee _ _ =>
      rw [noCallee] at isCallee
      cases isCallee

theorem Expansion.cons_of_callee {token : Token} {function : UserFunction}
    (isCallee : table.callee? token = some function)
    (expansion : Expansion table (token :: program) tokens nesting) :
    ∃ inner later innerNesting laterNesting,
      tokens = token :: (inner ++ later) ∧ nesting = max (innerNesting + 1) laterNesting ∧
        Expansion table function.body inner innerNesting ∧
        Expansion table program later laterNesting := by
  cases expansion with
  | plain noCallee _ =>
      rw [isCallee] at noCallee
      cases noCallee
  | call otherCallee bodyExpansion laterExpansion =>
      cases isCallee.symm.trans otherCallee
      exact ⟨_, _, _, _, rfl, rfl, bodyExpansion, laterExpansion⟩

/-- A program has at most one expansion. -/
theorem Expansion.unique (one : Expansion table program tokens nesting)
    (other : Expansion table program others otherNesting) :
    tokens = others ∧ nesting = otherNesting := by
  induction one generalizing others otherNesting with
  | nil =>
      cases other
      exact ⟨rfl, rfl⟩
  | plain noCallee later ih =>
      obtain ⟨otherTokens, rfl, otherLater⟩ := other.cons_of_noCallee noCallee
      obtain ⟨rfl, rfl⟩ := ih otherLater
      exact ⟨rfl, rfl⟩
  | call isCallee body later bodyIH laterIH =>
      obtain ⟨inner, otherTokens, innerNesting, laterNesting, rfl, rfl, otherBody, otherLater⟩ :=
        other.cons_of_callee isCallee
      obtain ⟨rfl, rfl⟩ := bodyIH otherBody
      obtain ⟨rfl, rfl⟩ := laterIH otherLater
      exact ⟨rfl, rfl⟩

/-- An expansion leaves out no token of its program. -/
theorem Expansion.sublist (expansion : Expansion table program tokens nesting) :
    program.Sublist tokens := by
  induction expansion with
  | nil => exact .slnil
  | plain noCallee later ih => exact ih.cons_cons _
  | call isCallee body later bodyIH laterIH =>
      exact (laterIH.trans (List.sublist_append_right _ _)).cons_cons _

namespace SymbolTable

def Calls (table : SymbolTable) (program : Program) (function : UserFunction) : Prop :=
  ∃ token ∈ program, table.callee? token = some function

def BodyCalls (table : SymbolTable) (caller function : UserFunction) : Prop :=
  table.Calls caller.body function

/-- A program calls a function from which a cycle of calls is reached. -/
def ReachesCycle (table : SymbolTable) (program : Program) : Prop :=
  ∃ first function, table.Calls program first ∧
    Relation.ReflTransGen table.BodyCalls first function ∧
    Relation.TransGen table.BodyCalls function function

end SymbolTable

/-- With a program, all functions that it calls have an expansion, and one that nests less deep. -/
theorem Expansion.of_calls (expansion : Expansion table program tokens nesting)
    {function : UserFunction} (calls : table.Calls program function) :
    ∃ inner innerNesting, innerNesting < nesting ∧
      Expansion table function.body inner innerNesting := by
  obtain ⟨token, member, isCallee⟩ := calls
  induction expansion with
  | nil => cases member
  | plain noCallee later ih =>
      rcases List.mem_cons.mp member with rfl | inRest
      · rw [noCallee] at isCallee
        cases isCallee
      · exact ih inRest
  | call firstCallee body later bodyIH laterIH =>
      rcases List.mem_cons.mp member with rfl | inRest
      · cases firstCallee.symm.trans isCallee
        exact ⟨_, _, by omega, body⟩
      · obtain ⟨inner, innerNesting, less, innerExpansion⟩ := laterIH inRest
        exact ⟨inner, innerNesting, by omega, innerExpansion⟩

theorem Expansion.of_transGen {caller function : UserFunction}
    (path : Relation.TransGen table.BodyCalls caller function)
    (expansion : Expansion table caller.body tokens nesting) :
    ∃ inner innerNesting, innerNesting < nesting ∧
      Expansion table function.body inner innerNesting := by
  induction path with
  | single calls => exact expansion.of_calls calls
  | tail _ calls ih =>
      obtain ⟨middle, middleNesting, less, middleExpansion⟩ := ih
      obtain ⟨inner, innerNesting, evenLess, innerExpansion⟩ := middleExpansion.of_calls calls
      exact ⟨inner, innerNesting, by omega, innerExpansion⟩

theorem Expansion.not_reachesCycle (expansion : Expansion table program tokens nesting) :
    ¬table.ReachesCycle program := by
  rintro ⟨first, function, calls, path, cycle⟩
  obtain ⟨firstTokens, firstNesting, -, firstExpansion⟩ := expansion.of_calls calls
  have reached : ∃ inner innerNesting, Expansion table function.body inner innerNesting := by
    rcases Relation.reflTransGen_iff_eq_or_transGen.mp path with rfl | path
    · exact ⟨_, _, firstExpansion⟩
    · obtain ⟨inner, innerNesting, -, innerExpansion⟩ := firstExpansion.of_transGen path
      exact ⟨inner, innerNesting, innerExpansion⟩
  obtain ⟨inner, innerNesting, innerExpansion⟩ := reached
  -- Around the cycle, the function would nest less deep than itself.
  obtain ⟨around, aroundNesting, less, aroundExpansion⟩ := innerExpansion.of_transGen cycle
  have same : innerNesting = aroundNesting := (innerExpansion.unique aroundExpansion).2
  omega

end Expansions

section Runs

variable {limits : Limits} {table : SymbolTable} {depth : Nat} {program : Program}
  {machine after : Machine} {failure : Option Error} {events : List Event}

/-- The steps that are counted are the tokens that are executed. -/
theorem Execution.steps_eq (execution : Execution limits table depth program machine failure after
    events) (succeeds : failure = none) :
    after.steps = machine.steps + (executed events).length := by
  induction execution with
  | ended noLimit => rfl
  | exhausted exceeded => cases succeeds
  | halted allowed noLimit => cases succeeds
  | plain allowed noCallee later ih =>
      rw [ih succeeds, Machine.steps_counted, executed_token, List.length_cons]
      omega
  | found allowed later ih =>
      rw [ih succeeds, Machine.steps_capture, Machine.steps_counted, executed_token, executed_found,
        List.length_cons]
      omega
  | refused allowed isCallee => cases succeeds
  | returned allowed isCallee body later bodyIH laterIH =>
      rw [laterIH succeeds, bodyIH rfl, Machine.steps_counted]
      simp only [executed_token, executed_enter, executed_append, executed_leave,
        List.length_cons, List.length_append]
      omega
  | failed allowed isCallee body ih => cases succeeds

/-- A run that starts within the limit on steps executes no more tokens than are left. -/
theorem Execution.length_executed_le (execution : Execution limits table depth program machine
    failure after events) (within : machine.steps ≤ limits.maxSteps) :
    machine.steps + (executed events).length ≤ limits.maxSteps := by
  induction execution with
  | ended noLimit => exact within
  | exhausted exceeded => exact within
  | halted allowed noLimit => exact allowed
  | plain allowed noCallee later ih =>
      have left := ih allowed
      rw [Machine.steps_counted] at left
      rw [executed_token, List.length_cons]
      omega
  | found allowed later ih =>
      have left := ih allowed
      rw [Machine.steps_capture, Machine.steps_counted] at left
      rw [executed_token, executed_found, List.length_cons]
      omega
  | refused allowed isCallee => exact allowed
  | returned allowed isCallee body later bodyIH laterIH =>
      have counted := body.steps_eq rfl
      have left := laterIH (counted ▸ bodyIH allowed)
      rw [counted, Machine.steps_counted] at left
      simp only [executed_token, executed_enter, executed_append, executed_leave,
        List.length_cons, List.length_append]
      omega
  | failed allowed isCallee body ih =>
      have left := ih allowed
      rw [Machine.steps_counted] at left
      rw [executed_token, executed_enter, List.length_cons]
      omega

theorem Execution.activeCalls_eq_zero (execution : Execution limits table depth program machine
    failure after events) (succeeds : failure = none) : activeCalls events = 0 := by
  induction execution with
  | ended noLimit => rfl
  | exhausted exceeded => cases succeeds
  | halted allowed noLimit => cases succeeds
  | plain allowed noCallee later ih => exact ih succeeds
  | found allowed later ih => exact ih succeeds
  | refused allowed isCallee => cases succeeds
  | returned allowed isCallee body later bodyIH laterIH =>
      rw [activeCalls, activeCalls, activeCalls_append, activeCalls, bodyIH rfl, laterIH succeeds]
      rfl
  | failed allowed isCallee body ih => cases succeeds

/-- At no time of a run are more calls active than may nest. -/
theorem Execution.nestsWithin (execution : Execution limits table depth program machine failure
    after events) : NestsWithin depth events := by
  induction execution with
  | ended noLimit => exact .nil _
  | exhausted exceeded => exact .nil _
  | halted allowed noLimit => exact .token _ (.nil _)
  | plain allowed noCallee later ih => exact .token _ ih
  | found allowed later ih => exact .token _ (.found _ ih)
  | refused allowed isCallee => exact .token _ (.nil _)
  | returned allowed isCallee body later bodyIH laterIH =>
      exact .token _ (.call _ bodyIH (body.activeCalls_eq_zero rfl) laterIH)
  | failed allowed isCallee body ih => exact .token _ (.enter _ ih)

/-- A run that succeeds executes the expansion of its program, in order. -/
theorem Execution.expansion (execution : Execution limits table depth program machine failure
    after events) (succeeds : failure = none) :
    ∃ nesting ≤ depth, Expansion table program (executed events) nesting := by
  induction execution with
  | ended noLimit => exact ⟨0, Nat.zero_le _, .nil⟩
  | exhausted exceeded => cases succeeds
  | halted allowed noLimit => cases succeeds
  | plain allowed noCallee later ih =>
      obtain ⟨nesting, within, expansion⟩ := ih succeeds
      exact ⟨nesting, within, .plain noCallee expansion⟩
  | found allowed later ih =>
      obtain ⟨nesting, within, expansion⟩ := ih succeeds
      exact ⟨nesting, within, .plain rfl expansion⟩
  | refused allowed isCallee => cases succeeds
  | returned allowed isCallee body later bodyIH laterIH =>
      obtain ⟨innerNesting, innerWithin, innerExpansion⟩ := bodyIH rfl
      obtain ⟨nesting, within, expansion⟩ := laterIH succeeds
      refine ⟨max (innerNesting + 1) nesting, by omega, ?_⟩
      rw [executed_token, executed_enter, executed_append, executed_leave]
      exact .call isCallee innerExpansion expansion
  | failed allowed isCallee body ih => cases succeeds

/-- A run that has room for the expansion of its program reaches no limit. -/
theorem Execution.not_isLimit (execution : Execution limits table depth program machine failure
    after events) {tokens : List Token} {nesting : Nat}
    (expansion : Expansion table program tokens nesting)
    (enoughSteps : machine.steps + tokens.length ≤ limits.maxSteps)
    (enoughDepth : nesting ≤ depth) {error : Error} (fails : failure = some error) :
    ¬error.IsLimit := by
  induction execution generalizing tokens nesting with
  | ended noLimit => exact noLimit error fails
  | exhausted exceeded =>
      cases expansion <;> rw [List.length_cons] at enoughSteps <;> omega
  | halted allowed noLimit =>
      cases fails
      exact noLimit
  | plain allowed noCallee later ih =>
      obtain ⟨rest, rfl, restExpansion⟩ := expansion.cons_of_noCallee noCallee
      refine ih restExpansion ?_ enoughDepth fails
      rw [List.length_cons] at enoughSteps
      rw [Machine.steps_counted]
      omega
  | found allowed later ih =>
      obtain ⟨rest, rfl, restExpansion⟩ := expansion.cons_of_noCallee rfl
      refine ih restExpansion ?_ enoughDepth fails
      rw [List.length_cons] at enoughSteps
      rw [Machine.steps_capture, Machine.steps_counted]
      omega
  | refused allowed isCallee =>
      obtain ⟨inner, rest, innerNesting, restNesting, rfl, rfl, -, -⟩ :=
        expansion.cons_of_callee isCallee
      omega
  | returned allowed isCallee body later bodyIH laterIH =>
      obtain ⟨inner, rest, innerNesting, restNesting, rfl, rfl, bodyExpansion, restExpansion⟩ :=
        expansion.cons_of_callee isCallee
      -- The body has executed its expansion, so the steps that are left suffice for the rest.
      obtain ⟨_, _, executedExpansion⟩ := body.expansion rfl
      obtain ⟨rfl, -⟩ := bodyExpansion.unique executedExpansion
      refine laterIH restExpansion ?_ (by omega) fails
      rw [List.length_cons, List.length_append] at enoughSteps
      rw [body.steps_eq rfl, Machine.steps_counted]
      omega
  | failed allowed isCallee body ih =>
      obtain ⟨inner, rest, innerNesting, restNesting, rfl, rfl, bodyExpansion, -⟩ :=
        expansion.cons_of_callee isCallee
      refine ih bodyExpansion ?_ (by omega) fails
      rw [List.length_cons, List.length_append] at enoughSteps
      rw [Machine.steps_counted]
      omega

end Runs

namespace Evaluation

/-- A run stays within its limits.  If it has a value, it has executed the one expansion of its
program, and with it every token of the program.  If its limits leave room for the expansion, it
reaches none of them.  A program from which a cycle of calls is reached has no value under any
limits. -/
theorem expansion_run (engine : Pattern.Engine) (limits : Limits) (program : Program)
    (table : SymbolTable) :
    let outcome : Except Error Value := (run engine limits program table).1
    let journal : List Event := (watch engine limits program table).2
    (watch engine limits program table).1 = run engine limits program table ∧
      (executed journal).length ≤ limits.maxSteps ∧
      (∀ earlier, earlier <+: journal → activeCalls earlier ≤ limits.maxDepth) ∧
      (∀ value, outcome = .ok value →
        program.Sublist (executed journal) ∧
          ∃ nesting ≤ limits.maxDepth, Expansion table program (executed journal) nesting ∧
            ∀ tokens other, Expansion table program tokens other →
              tokens = executed journal ∧ other = nesting) ∧
      (∀ tokens nesting, Expansion table program tokens nesting →
        tokens.length ≤ limits.maxSteps → nesting ≤ limits.maxDepth →
          ∀ error, outcome = .error error → ¬error.IsLimit) ∧
      (table.ReachesCycle program → ∀ value, outcome ≠ .ok value) := by
  intro outcome journal
  obtain ⟨machine, -, execution⟩ := execution_run engine limits program table
  have succeeds : ∀ value, outcome = .ok value →
      ∃ nesting ≤ limits.maxDepth, Expansion table program (executed journal) nesting := by
    intro value isValue
    exact execution.expansion (congrArg Interpreter.errorOf? isValue)
  refine ⟨watch_fst engine limits program table, ?_, execution.nestsWithin, ?_, ?_, ?_⟩
  · have within := execution.length_executed_le (Nat.zero_le _)
    rwa [Nat.zero_add] at within
  · intro value isValue
    obtain ⟨nesting, within, expansion⟩ := succeeds value isValue
    refine ⟨expansion.sublist, nesting, within, expansion, ?_⟩
    exact fun tokens other another => another.unique expansion
  · intro tokens nesting expansion enoughSteps enoughDepth error isError
    have room : 0 + tokens.length ≤ limits.maxSteps := by rwa [Nat.zero_add]
    exact execution.not_isLimit expansion room enoughDepth
      (congrArg Interpreter.errorOf? isError)
  · intro reaches value isValue
    obtain ⟨nesting, -, expansion⟩ := succeeds value isValue
    exact expansion.not_reachesCycle reaches

/-- A function that calls itself stops where its calls may not nest any deeper, with one token
executed on each level. -/
example :
    let engine : Pattern.Engine := fun _ _ => .error "none"
    let limits : Limits := { maxDepth := 3, maxSteps := 100 }
    let table : SymbolTable :=
      { SymbolTable.initial with
        functions := [("f", { params := [], body := [.call "f" 0] })] }
    (run engine limits [.call "f" 0] table).1 = .error (.recursionLimit 3) ∧
      (executed (watch engine limits [.call "f" 0] table).2).length = 4 :=
  ⟨rfl, rfl⟩

end Evaluation

end Calculator
