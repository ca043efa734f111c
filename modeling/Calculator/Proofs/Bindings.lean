import Calculator.Proofs.Names
import Calculator.Proofs.Requests
import Mathlib.Logic.Relation

/-!
# What names are bound to

Whatever is asked of an interpreter, its table changes in four ways only: captures are written, a
variable is assigned, a function is defined, or a function of the host is registered.  Each of them
checks the names that it binds.  So constants and built-in functions keep their meaning, names of
functions stay names of functions, and a variable whose name is that of a function never changes
again.
-/

namespace Calculator

/-- The built-in functions under all their names. -/
def Builtin.meanings : List (String × Builtin) :=
  [("sin", sin), ("sinh", sinh), ("arcsin", asin), ("asin", asin), ("arcsinh", asinh),
    ("asinh", asinh), ("cos", cos), ("cosh", cosh), ("arccos", acos), ("acos", acos),
    ("arccosh", acosh), ("acosh", acosh), ("tan", tan), ("tanh", tanh), ("arctan", atan),
    ("atan", atan), ("arctanh", atanh), ("atanh", atanh), ("sqrt", sqrt), ("abs", abs),
    ("ln", log), ("log", log)]

theorem Builtin.exists_meaning {name : String} (isBuiltin : isName name = true) :
    ∃ builtin, (name, builtin) ∈ meanings ∧ ofName? name = some builtin := by
  have each : ∀ name ∈ names, ∃ entry ∈ meanings, entry.1 = name ∧ ofName? name = some entry.2 := by
    decide +kernel
  have isListed : name ∈ names := by simpa [isName] using isBuiltin
  obtain ⟨⟨spelling, builtin⟩, isMeaning, rfl, found⟩ := each name isListed
  exact ⟨builtin, isMeaning, found⟩

theorem Builtin.isCapture_of_isName {name : String} (isBuiltin : isName name = true) :
    Variables.isCapture name = false := by
  have each : ∀ name ∈ names, Variables.isCapture name = false := by decide +kernel
  exact each name (by simpa [isName] using isBuiltin)

/-- A name that a variable or a function can have: an identifier without a meaning of its own. -/
structure IsFree (name : String) : Prop where
  identifier : isIdentifier name = true
  notReserved : Variables.isReserved name = false
  notBuiltin : Builtin.isName name = false

theorem IsFree.plain {name : String} (free : IsFree name) : Variables.isCapture name = false :=
  Variables.isCapture_of_isIdentifier free.identifier

theorem isFree_of_checkFunctionName {name : String}
    (checked : SymbolTable.checkFunctionName name = .ok ()) : IsFree name := by
  obtain ⟨notBuiltin, identifier, notReserved⟩ := SymbolTable.checkFunctionName_eq_ok checked
  exact ⟨identifier, notReserved, notBuiltin⟩

/-- A function whose parameters have names of their own, and whose body has no other variables. -/
structure UserFunction.Closed (function : UserFunction) : Prop where
  distinct : function.params.Nodup
  parameters : ∀ param ∈ function.params,
    isIdentifier param = true ∧ Variables.isReserved param = false
  variables_mem : ∀ name, Token.var name ∈ function.body → name ∈ function.params
  wellNamed : ∀ token ∈ function.body, token.WellNamed

namespace SymbolTable

/-- Every name of a table is bound to what names of its kind stand for. -/
structure WellNamed (table : SymbolTable) : Prop where
  euler : table.valueOf? "e" = some (.number 2.718281828459045)
  circle : table.valueOf? "pi" = some (.number 3.141592653589793)
  others : ∀ name value, name ∉ Variables.constantNames → table.valueOf? name = some value →
    IsFree name ∨ ∃ (index : Nat) (text : String), name = "$" ++ toString index ∧
      value = .string text
  functions : ∀ name function, Entries.get? table.functions name = some function →
    IsFree name ∧ function.Closed
  hosts : ∀ name function, Entries.get? table.hosts name = some function → IsFree name

/-- The changes that can be made to a table. -/
inductive Change (older : SymbolTable) : SymbolTable → Prop
  | captures (texts : List String) : Change older (older.setCaptures texts)
  | assign {newer : SymbolTable} (name : String) (value : Value)
      (assigned : older.assign name value = .ok newer) : Change older newer
  | define {newer : SymbolTable} (name : String) (params : List String) (body : String)
      (defined : older.define name params body = .ok newer) : Change older newer
  | registerHost {newer : SymbolTable} (name : String) (function : HostFunction)
      (registered : older.registerHost name function = .ok newer) : Change older newer

/-- A table after any number of changes. -/
abbrev Changes : SymbolTable → SymbolTable → Prop :=
  Relation.ReflTransGen Change

variable {older newer table : SymbolTable}

section Naming

theorem freeze_closed {params : List String} {program frozen : Program}
    (froze : table.freeze params program = .ok frozen) (name : String)
    (isVariable : Token.var name ∈ frozen) : name ∈ params := by
  induction program generalizing frozen with
  | nil =>
      cases froze
      cases isVariable
  | cons token rest ih =>
      obtain ⟨first, later, firstFroze, laterFroze, rfl⟩ := freeze_cons froze
      rcases List.mem_cons.mp isVariable with isFirst | isLater
      · rw [← isFirst] at firstFroze
        unfold freezeToken at firstFroze
        split at firstFroze
        · next variableName =>
          split at firstFroze
          · next isParameter =>
            cases firstFroze
            simpa using isParameter
          · split at firstFroze <;> cases firstFroze
        · next notVariable =>
          cases firstFroze
          exact absurd rfl (notVariable name)
      · exact ih laterFroze isLater

theorem freeze_wellNamed {params : List String} {program frozen : Program}
    (named : ∀ token ∈ program, token.WellNamed)
    (froze : table.freeze params program = .ok frozen) : ∀ token ∈ frozen, token.WellNamed := by
  induction program generalizing frozen with
  | nil =>
      cases froze
      exact named
  | cons token rest ih =>
      obtain ⟨first, later, firstFroze, laterFroze, rfl⟩ := freeze_cons froze
      obtain ⟨firstNamed, restNamed⟩ := List.forall_mem_cons.mp named
      refine List.forall_mem_cons.mpr ⟨?_, ih restNamed laterFroze⟩
      rcases freezeToken_cases firstFroze with unchanged | ⟨_, _, _, changed⟩
      · rw [unchanged]
        exact firstNamed
      · rw [changed]
        trivial

theorem closed_of_freeze {params : List String} {body : String} {program frozen : Program}
    (checked : checkParameters [] params = .ok ())
    (converted : convert table.arity? body = .ok program)
    (froze : table.freeze params program = .ok frozen) :
    UserFunction.Closed { params, body := frozen } := by
  obtain ⟨distinct, free⟩ := checkParameters_eq_ok checked
  constructor
  · exact distinct
  · exact fun param member => ⟨(free param member).1, (free param member).2.1⟩
  · exact freeze_closed froze
  · exact freeze_wellNamed (Conversion.convert_wellNamed converted) froze

theorem WellNamed.initial : WellNamed SymbolTable.initial := by
  constructor
  · rfl
  · rfl
  · intro name value notConstant bound
    rw [valueOf?_initial notConstant] at bound
    cases bound
  · exact fun _ _ found => nomatch found
  · exact fun _ _ found => nomatch found

theorem WellNamed.setCaptures (named : table.WellNamed) (texts : List String) :
    (table.setCaptures texts).WellNamed := by
  have kept (name : String) (plain : Variables.isCapture name = false) :
      (table.setCaptures texts).valueOf? name = table.valueOf? name :=
    Variables.get?_setCaptures_of_plain plain 0 texts table.globals
  constructor
  · rw [kept "e" (by decide)]
    exact named.euler
  · rw [kept "pi" (by decide)]
    exact named.circle
  · intro name value notConstant bound
    rcases Variables.get?_setCaptures_cases bound with earlier | ⟨index, text, isName, isText⟩
    · exact named.others name value notConstant earlier
    · rw [Variables.captureName_eq_toString] at isName
      exact Or.inr ⟨index, text, isName, isText⟩
  · exact named.functions
  · exact named.hosts

theorem WellNamed.assign (named : table.WellNamed) {name : String} {value : Value}
    (assigned : table.assign name value = .ok newer) : newer.WellNamed := by
  obtain ⟨notReserved, identifier, notFunction, rfl⟩ := assign_eq_ok assigned
  have bindings (other : String) :
      valueOf? { table with globals := Entries.put name value table.globals } other =
        if name = other then some value else table.valueOf? other :=
    Entries.get?_put table.globals name other value
  -- A name that means no function is not built in either.
  have free : IsFree name := by
    unfold isFunction at notFunction
    rw [Bool.or_eq_false_iff, Bool.or_eq_false_iff] at notFunction
    exact ⟨identifier, notReserved, notFunction.1.1⟩
  have different (constant : String) (reserved : Variables.isReserved constant = true) :
      name ≠ constant := by
    rintro rfl
    rw [notReserved] at reserved
    cases reserved
  constructor
  · rw [bindings, if_neg (different "e" (by decide))]
    exact named.euler
  · rw [bindings, if_neg (different "pi" (by decide))]
    exact named.circle
  · intro other held notConstant bound
    rw [bindings] at bound
    split at bound
    · next isName => exact Or.inl (isName ▸ free)
    · exact named.others other held notConstant bound
  · exact named.functions
  · exact named.hosts

theorem WellNamed.define (named : table.WellNamed) {name body : String} {params : List String}
    (defined : table.define name params body = .ok newer) : newer.WellNamed := by
  obtain ⟨nameChecked, checked, program, frozen, converted, froze, rfl⟩ := define_eq_ok defined
  refine ⟨named.euler, named.circle, named.others, fun other function found => ?_, named.hosts⟩
  rw [Entries.get?_put] at found
  split at found
  · next isName =>
    cases found
    exact ⟨isName ▸ isFree_of_checkFunctionName nameChecked,
      closed_of_freeze checked converted froze⟩
  · exact named.functions other function found

theorem WellNamed.registerHost (named : table.WellNamed) {name : String} {function : HostFunction}
    (registered : table.registerHost name function = .ok newer) : newer.WellNamed := by
  obtain ⟨checked, rfl⟩ := registerHost_eq_ok registered
  refine ⟨named.euler, named.circle, named.others, named.functions, fun other host found => ?_⟩
  rw [Entries.get?_put] at found
  split at found
  · next isName => exact isName ▸ isFree_of_checkFunctionName checked
  · exact named.hosts other host found

theorem WellNamed.change (named : older.WellNamed) (change : older.Change newer) :
    newer.WellNamed := by
  cases change with
  | captures texts => exact named.setCaptures texts
  | assign name value assigned => exact named.assign assigned
  | define name params body defined => exact named.define defined
  | registerHost name function registered => exact named.registerHost registered

end Naming

section Persistence

theorem WellNamed.plain_of_isFunction (named : table.WellNamed) {name : String}
    (isFunction : table.isFunction name = true) : Variables.isCapture name = false := by
  unfold SymbolTable.isFunction at isFunction
  rw [Bool.or_eq_true, Bool.or_eq_true] at isFunction
  rcases isFunction with (isBuiltin | isUser) | isHost
  · exact Builtin.isCapture_of_isName isBuiltin
  · obtain ⟨function, found⟩ := Option.isSome_iff_exists.mp isUser
    exact (named.functions name function found).1.plain
  · obtain ⟨function, found⟩ := Option.isSome_iff_exists.mp isHost
    exact (named.hosts name function found).plain

/-- A name of a function stays one, and is bound to what it was bound to as a variable. -/
structure Settled (name : String) (older newer : SymbolTable) : Prop where
  isFunction : newer.isFunction name = true
  valueOf? : newer.valueOf? name = older.valueOf? name

theorem WellNamed.settled_of_change (named : older.WellNamed) (change : older.Change newer)
    {name : String} (isFunction : older.isFunction name = true) : Settled name older newer := by
  cases change with
  | captures texts =>
      refine ⟨isFunction, ?_⟩
      exact Variables.get?_setCaptures_of_plain (named.plain_of_isFunction isFunction) 0 texts _
  | assign target value assigned =>
      obtain ⟨-, -, notFunction, rfl⟩ := assign_eq_ok assigned
      have different : target ≠ name := by
        rintro rfl
        rw [notFunction] at isFunction
        cases isFunction
      exact ⟨isFunction, Entries.get?_put_of_ne older.globals value different⟩
  | define defined params body isDefined =>
      obtain ⟨-, -, program, frozen, -, -, rfl⟩ := define_eq_ok isDefined
      refine ⟨?_, rfl⟩
      unfold SymbolTable.isFunction at isFunction ⊢
      rw [Bool.or_eq_true, Bool.or_eq_true] at isFunction ⊢
      exact isFunction.imp_left (Or.imp_right (binds_put _))
  | registerHost registered function isRegistered =>
      obtain ⟨-, rfl⟩ := registerHost_eq_ok isRegistered
      refine ⟨?_, rfl⟩
      unfold SymbolTable.isFunction at isFunction ⊢
      rw [Bool.or_eq_true, Bool.or_eq_true] at isFunction ⊢
      exact isFunction.imp_right (binds_put _)

/-- What one change keeps, any number of changes keeps. -/
theorem WellNamed.changes (named : older.WellNamed) (changes : older.Changes newer) :
    newer.WellNamed ∧
      ∀ name, older.isFunction name = true → Settled name older newer := by
  induction changes with
  | refl => exact ⟨named, fun _ isFunction => ⟨isFunction, rfl⟩⟩
  | tail _ change ih =>
      obtain ⟨middleNamed, middleSettled⟩ := ih
      refine ⟨middleNamed.change change, fun name isFunction => ?_⟩
      have settled := middleSettled name isFunction
      have next := middleNamed.settled_of_change change settled.isFunction
      exact ⟨next.isFunction, next.valueOf?.trans settled.valueOf?⟩

end Persistence

end SymbolTable

section Requests

variable {engine : Pattern.Engine} {interpreter : Interpreter} {compiled : List Program}

namespace Interpreter

theorem changes_update {outcome : Except Error SymbolTable}
    (change : ∀ table, outcome = .ok table → interpreter.table.Change table) :
    interpreter.table.Changes (interpreter.update outcome).2.table := by
  cases outcome with
  | error error => exact .refl
  | ok table => exact .single (change table rfl)

theorem changes_assign (name : String) (value : Value) :
    interpreter.table.Changes (interpreter.assign name value).2.table :=
  changes_update fun _ assigned => .assign name value assigned

theorem changes_define (name : String) (params : List String) (body : String) :
    interpreter.table.Changes (interpreter.define name params body).2.table :=
  changes_update fun _ defined => .define name params body defined

theorem changes_registerHost (name : String) (function : HostFunction) :
    interpreter.table.Changes (interpreter.registerHost name function).2.table :=
  changes_update fun _ registered => .registerHost name function registered

/-- A run changes a table as often as it writes captures. -/
theorem changes_run (program : Program) :
    interpreter.table.Changes (interpreter.run engine program).2.table :=
  Evaluation.run_keeps (fun _ texts changes => changes.tail (.captures texts)) .refl engine
    interpreter.limits program

theorem changes_evaluateExpression (source : String) :
    interpreter.table.Changes (interpreter.evaluateExpression engine source).2.table := by
  unfold evaluateExpression
  split
  · exact .refl
  · exact changes_run _

theorem changes_perform (statement : Statement) :
    interpreter.table.Changes (interpreter.perform engine statement).2.table := by
  cases statement with
  | expression source => exact changes_evaluateExpression source
  | define name params body => exact changes_define name params body
  | assign name source =>
      have evaluated : interpreter.table.Changes
          (interpreter.evaluateExpression engine source).2.table :=
        changes_evaluateExpression source
      rcases perform_assign_cases engine interpreter name source with
        ⟨error, after, outcome, performed⟩ | ⟨value, after, outcome, performed⟩
      · rw [outcome] at evaluated
        rw [performed]
        exact evaluated
      · rw [outcome] at evaluated
        rw [performed]
        exact evaluated.trans (changes_assign name value)

theorem changes_evaluate (line : String) :
    interpreter.table.Changes (interpreter.evaluate engine line).2.table := by
  have performed : interpreter.table.Changes
      (interpreter.perform engine (Statement.ofLine line)).2.table :=
    changes_perform (Statement.ofLine line)
  unfold evaluate
  exact performed

theorem changes_serve (request : Request) :
    interpreter.table.Changes (request.serve engine interpreter).2.table := by
  cases request with
  | evaluate line => exact changes_evaluate line
  | compile source => exact .refl
  | assign name value => exact changes_assign name value
  | define name params body => exact changes_define name params body
  | registerHost name function => exact changes_registerHost name function
  | setLimits limits => exact .refl
  | run program => exact changes_run program

end Interpreter

/-- The interpreters that requests can lead to from a given one, each with the programs that were
compiled so far. -/
inductive ReachableFrom (engine : Pattern.Engine) (start : Interpreter) (known : List Program) :
    Interpreter → List Program → Prop
  | start : ReachableFrom engine start known start known
  | serve {interpreter : Interpreter} {compiled : List Program}
      (earlier : ReachableFrom engine start known interpreter compiled) (request : Request)
      (admissible : request.Admissible compiled) :
      ReachableFrom engine start known (request.serve engine interpreter).2
        (request.programs interpreter ++ compiled)

theorem ReachableFrom.changes {start : Interpreter} {known : List Program}
    (reachable : ReachableFrom engine start known interpreter compiled) :
    start.table.Changes interpreter.table := by
  induction reachable with
  | start => exact .refl
  | serve earlier request admissible ih => exact ih.trans (Interpreter.changes_serve request)

theorem Reachable.fromInitial (reachable : Reachable engine interpreter compiled) :
    ReachableFrom engine Interpreter.initial [] interpreter compiled := by
  induction reachable with
  | initial => exact .start
  | serve earlier request admissible ih => exact ih.serve request admissible

theorem Reachable.define (reachable : Reachable engine interpreter compiled) (name : String)
    (params : List String) (body : String) :
    Reachable engine (interpreter.define name params body).2 compiled :=
  reachable.serve (.define name params body) nofun

theorem ReachableFrom.assign {start : Interpreter} {known : List Program}
    (reachable : ReachableFrom engine start known interpreter compiled) (name : String)
    (value : Value) :
    ReachableFrom engine start known (interpreter.assign name value).2 compiled :=
  reachable.serve (.assign name value) nofun

/-- In every state that requests lead to, all names are bound to what names of their kind stand
for. -/
theorem Reachable.wellNamed (reachable : Reachable engine interpreter compiled) :
    interpreter.table.WellNamed :=
  (SymbolTable.WellNamed.initial.changes reachable.fromInitial.changes).1

theorem SymbolTable.function?_builtin (table : SymbolTable) {name : String}
    (isBuiltin : Builtin.isName name = true) :
    ∃ builtin, (name, builtin) ∈ Builtin.meanings ∧
      table.function? name = some (.builtin builtin) := by
  obtain ⟨builtin, isMeaning, found⟩ := Builtin.exists_meaning isBuiltin
  refine ⟨builtin, isMeaning, ?_⟩
  rw [function?, if_pos isBuiltin, found]
  rfl

/-- In every state that requests lead to, all names are bound to what names of their kind stand
for, and calls in bodies of functions are of functions that exist.  A name of a function stays one,
and the variable of that name does not change any more. -/
theorem names_of_reachable (reachable : Reachable engine interpreter compiled) :
    interpreter.table.WellNamed ∧
      (∀ name, Builtin.isName name = true → ∃ builtin, (name, builtin) ∈ Builtin.meanings ∧
        interpreter.table.function? name = some (.builtin builtin)) ∧
      (∀ name function, Entries.get? interpreter.table.functions name = some function →
        ∀ called count, Token.call called count ∈ function.body →
          (interpreter.table.function? called).isSome = true) ∧
      ∀ later compiledLater, ReachableFrom engine interpreter compiled later compiledLater →
        ∀ name, interpreter.table.isFunction name = true →
          later.table.isFunction name = true ∧
            later.table.valueOf? name = interpreter.table.valueOf? name := by
  have wellNamed := reachable.wellNamed
  refine ⟨wellNamed, ?_, ?_, ?_⟩
  · exact fun name isBuiltin => interpreter.table.function?_builtin isBuiltin
  · intro name function found called count isCall
    have runs := reachable.sound.wellDefined function ⟨name, found⟩
    exact runs.calls called count isCall
  · intro later compiledLater follows name isFunction
    have settled := (wellNamed.changes follows.changes).2 name isFunction
    exact ⟨settled.isFunction, settled.valueOf?⟩

/-- The name of a function that was just defined cannot be assigned. -/
theorem names_of_reachable_definition :
    (Interpreter.initial.define "f" ["x"] "x").2.table.isFunction "f" = true ∧
      ((Interpreter.initial.define "f" ["x"] "x").2.assign "f" .null).2.table.isFunction "f" =
        true ∧
      ((Interpreter.initial.define "f" ["x"] "x").2.assign "f" .null).2.table.valueOf? "f" =
        none := by
  have reachable : Reachable (fun _ _ => .error "none")
      (Interpreter.initial.define "f" ["x"] "x").2 [] :=
    Reachable.initial.define "f" ["x"] "x"
  have follows : ReachableFrom (fun _ _ => .error "none")
      (Interpreter.initial.define "f" ["x"] "x").2 []
      ((Interpreter.initial.define "f" ["x"] "x").2.assign "f" .null).2 [] :=
    ReachableFrom.start.assign "f" .null
  have isFunction :
      (Interpreter.initial.define "f" ["x"] "x").2.table.isFunction "f" = true := by
    decide +kernel
  have unbound : (Interpreter.initial.define "f" ["x"] "x").2.table.valueOf? "f" = none :=
    Option.isNone_iff_eq_none.mp (by decide +kernel)
  obtain ⟨-, -, -, settled⟩ := names_of_reachable reachable
  obtain ⟨stays, same⟩ := settled _ _ follows "f" isFunction
  exact ⟨isFunction, stays, same.trans unbound⟩

end Requests

end Calculator
