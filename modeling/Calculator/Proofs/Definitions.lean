import Calculator.Proofs.NestedCalls
import Calculator.Proofs.Refusal

/-!
# Definitions stay runnable

A table can run a program if it is the program of a tree and all its calls name functions.  What is
converted with the functions of a table can be run by it, and replacing variables by their values
changes nothing about that.  Since names of functions are never taken out of a table, a program
that a table can run can still be run after any change to the table.
-/

namespace Calculator

namespace SymbolTable

/-- A name means a function. -/
def Knows (table : SymbolTable) (name : String) : Prop :=
  (table.function? name).isSome = true

/-- A program of a tree, all of whose calls name functions of a table. -/
structure CanRun (table : SymbolTable) (program : Program) : Prop where
  isTree : ∃ tree : Tree Leaf, program = tree.program
  calls : program.CallsOnly table.Knows

/-- The table can run the bodies of all functions that it defines. -/
def WellDefined (table : SymbolTable) : Prop :=
  ∀ function, table.Defines function → table.CanRun function.body

/-- All names that mean functions in one table mean functions in another one. -/
def Grows (older newer : SymbolTable) : Prop :=
  ∀ name, older.Knows name → newer.Knows name

theorem CanRun.grows {older newer : SymbolTable} {program : Program}
    (runs : older.CanRun program) (grows : older.Grows newer) : newer.CanRun program :=
  ⟨runs.isTree, fun name count isCall => grows name (runs.calls name count isCall)⟩

end SymbolTable

section Conversion

theorem Leaf.token_ne_call (leaf : Leaf) (name : String) (count : Nat) :
    leaf.token ≠ .call name count := by
  cases leaf <;> nofun

/-- The calls in the program of a grammatical tree are of functions that the context knows. -/
theorem Tree.Grammatical.callsOnly {arity? : String → Option Nat} {tree : Tree Leaf}
    (grammatical : tree.Grammatical arity?) :
    tree.program.CallsOnly fun name => (arity? name).isSome = true := by
  intro name count isCall
  induction grammatical with
  | leaf operand =>
      exact absurd (List.mem_singleton.mp isCall).symm (operand.token_ne_call name count)
  | group inside ih => exact ih isCall
  | unary inside waits ih =>
      rcases List.mem_append.mp isCall with inside | isRoot
      · exact ih inside
      · cases List.mem_singleton.mp isRoot
  | binary before after yields waits beforeIH afterIH =>
      rw [Tree.program_binary] at isCall
      rcases List.mem_append.mp isCall with inLeft | later
      · exact beforeIH inLeft
      · rcases List.mem_append.mp later with inRight | isRoot
        · exact afterIH inRight
        · cases List.mem_singleton.mp isRoot
  | index before inside primary beforeIH insideIH =>
      rw [Tree.program_index] at isCall
      rcases List.mem_append.mp isCall with inContainer | later
      · exact beforeIH inContainer
      · rcases List.mem_append.mp later with inSelector | isRoot
        · exact insideIH inSelector
        · cases List.mem_singleton.mp isRoot
  | call inside complete ih =>
      rcases List.mem_append.mp isCall with inArguments | isRoot
      · obtain ⟨argument, isArgument, isInside⟩ :=
          (Tree.mem_postorderAll Leaf.token).mp inArguments
        exact ih argument isArgument isInside
      · cases List.mem_singleton.mp isRoot
        rw [complete]
        rfl

/-- What is converted with the functions of a table can be run by the table. -/
theorem SymbolTable.canRun_of_convert {table : SymbolTable} {source : String} {program : Program}
    (converted : convert table.arity? source = .ok program) : table.CanRun program := by
  obtain ⟨lexemes, tree, -, grammatical, -, rfl⟩ := Conversion.exists_tree_of_convert converted
  refine ⟨⟨tree, rfl⟩, fun name count isCall => ?_⟩
  have known : (table.arity? name).isSome = true := grammatical.callsOnly name count isCall
  rwa [SymbolTable.arity?, Option.isSome_map] at known

end Conversion

namespace SymbolTable

section Freezing

variable {table : SymbolTable} {params : List String} {frozen : Program}

theorem freeze_cons {token : Token} {rest : Program}
    (froze : table.freeze params (token :: rest) = .ok frozen) :
    ∃ first later, table.freezeToken params token = .ok first ∧
      table.freeze params rest = .ok later ∧ frozen = first :: later := by
  rw [freeze] at froze
  split at froze
  · cases froze
  · next first firstFroze =>
    split at froze
    · cases froze
    · next later laterFroze =>
      cases froze
      exact ⟨first, later, firstFroze, laterFroze, rfl⟩

theorem freeze_append {first second : Program}
    (froze : table.freeze params (first ++ second) = .ok frozen) :
    ∃ earlier later, table.freeze params first = .ok earlier ∧
      table.freeze params second = .ok later ∧ frozen = earlier ++ later := by
  induction first generalizing frozen with
  | nil => exact ⟨[], frozen, rfl, froze, rfl⟩
  | cons token rest ih =>
      obtain ⟨head, tail, headFroze, tailFroze, rfl⟩ := freeze_cons froze
      obtain ⟨earlier, later, restFroze, secondFroze, rfl⟩ := ih tailFroze
      refine ⟨head :: earlier, later, ?_, secondFroze, rfl⟩
      simp only [freeze, headFroze, restFroze]

/-- Only variables are replaced, and only by values. -/
theorem freezeToken_cases {token changed : Token}
    (froze : table.freezeToken params token = .ok changed) :
    changed = token ∨ ∃ name value, token = .var name ∧ changed = .value value := by
  unfold freezeToken at froze
  split at froze
  · split at froze
    · cases froze
      exact Or.inl rfl
    · split at froze
      · cases froze
        exact Or.inr ⟨_, _, rfl, rfl⟩
      · cases froze
  · cases froze
    exact Or.inl rfl

theorem freeze_singleton {token : Token} (froze : table.freeze params [token] = .ok frozen)
    (notVar : ∀ name, token ≠ .var name) : frozen = [token] := by
  obtain ⟨first, later, firstFroze, laterFroze, rfl⟩ := freeze_cons froze
  cases laterFroze
  rcases freezeToken_cases firstFroze with unchanged | ⟨name, value, isVar, -⟩
  · rw [unchanged]
  · exact absurd isVar (notVar name)

theorem freeze_leaf {leaf : Leaf} (froze : table.freeze params [leaf.token] = .ok frozen) :
    ∃ other : Leaf, frozen = [other.token] := by
  obtain ⟨first, later, firstFroze, laterFroze, rfl⟩ := freeze_cons froze
  cases laterFroze
  rcases freezeToken_cases firstFroze with unchanged | ⟨name, value, -, changed⟩
  · exact ⟨leaf, by rw [unchanged]⟩
  · exact ⟨.value value, by rw [changed]; rfl⟩

theorem exists_arguments_of_freeze {arguments : List (Tree Leaf)}
    (each : ∀ argument ∈ arguments, ∀ frozen,
      table.freeze params argument.program = .ok frozen →
        ∃ other : Tree Leaf, frozen = other.program)
    (froze : table.freeze params (Tree.postorderAll Leaf.token arguments) = .ok frozen) :
    ∃ others : List (Tree Leaf), others.length = arguments.length ∧
      frozen = Tree.postorderAll Leaf.token others := by
  induction arguments generalizing frozen with
  | nil =>
      cases froze
      exact ⟨[], rfl, rfl⟩
  | cons argument rest ih =>
      obtain ⟨earlier, later, firstFroze, laterFroze, rfl⟩ := freeze_append froze
      obtain ⟨other, rfl⟩ := each argument List.mem_cons_self earlier firstFroze
      obtain ⟨others, sameLength, rfl⟩ :=
        ih (fun tree isTree => each tree (List.mem_cons_of_mem _ isTree)) laterFroze
      exact ⟨other :: others, by simp [sameLength], rfl⟩

/-- Replacing variables by values in the program of a tree gives the program of a tree of the same
shape. -/
theorem exists_tree_of_freeze {tree : Tree Leaf}
    (froze : table.freeze params tree.program = .ok frozen) :
    ∃ other : Tree Leaf, frozen = other.program := by
  induction tree generalizing frozen with
  | leaf operand =>
      obtain ⟨other, rfl⟩ := freeze_leaf froze
      exact ⟨.leaf other, rfl⟩
  | group body ih => exact ih froze
  | unary op operand ih =>
      obtain ⟨earlier, later, operandFroze, signFroze, rfl⟩ := freeze_append froze
      obtain ⟨other, rfl⟩ := ih operandFroze
      rw [freeze_singleton signFroze fun _ => nofun]
      exact ⟨.unary op other, rfl⟩
  | binary op left right leftIH rightIH =>
      rw [Tree.program_binary] at froze
      obtain ⟨first, second, leftFroze, restFroze, rfl⟩ := freeze_append froze
      obtain ⟨earlier, later, rightFroze, signFroze, rfl⟩ := freeze_append restFroze
      obtain ⟨newLeft, rfl⟩ := leftIH leftFroze
      obtain ⟨newRight, rfl⟩ := rightIH rightFroze
      rw [freeze_singleton signFroze fun _ => nofun]
      exact ⟨.binary op newLeft newRight, (Tree.program_binary op newLeft newRight).symm⟩
  | index container selector containerIH selectorIH =>
      rw [Tree.program_index] at froze
      obtain ⟨first, second, containerFroze, restFroze, rfl⟩ := freeze_append froze
      obtain ⟨earlier, later, selectorFroze, markFroze, rfl⟩ := freeze_append restFroze
      obtain ⟨newContainer, rfl⟩ := containerIH containerFroze
      obtain ⟨newSelector, rfl⟩ := selectorIH selectorFroze
      rw [freeze_singleton markFroze fun _ => nofun]
      exact ⟨.index newContainer newSelector, (Tree.program_index newContainer newSelector).symm⟩
  | call name arguments ih =>
      obtain ⟨earlier, later, argumentsFroze, callFroze, rfl⟩ := freeze_append froze
      obtain ⟨others, sameLength, rfl⟩ := exists_arguments_of_freeze
        (fun argument isArgument _ => ih argument isArgument) argumentsFroze
      rw [freeze_singleton callFroze fun _ => nofun, ← sameLength]
      exact ⟨.call name others, rfl⟩

theorem freeze_callsOnly {known : String → Prop} {program : Program}
    (calls : program.CallsOnly known) (froze : table.freeze params program = .ok frozen) :
    frozen.CallsOnly known := by
  intro name count isCall
  induction program generalizing frozen with
  | nil =>
      cases froze
      cases isCall
  | cons token rest ih =>
      obtain ⟨first, later, firstFroze, laterFroze, rfl⟩ := freeze_cons froze
      rcases List.mem_cons.mp isCall with isFirst | isLater
      · rcases freezeToken_cases firstFroze with unchanged | ⟨_, _, _, changed⟩
        · exact calls name count (by rw [isFirst, unchanged]; exact List.mem_cons_self)
        · rw [changed] at isFirst
          cases isFirst
      · exact ih (calls.subset (List.subset_cons_self token rest)) laterFroze isLater

theorem freeze_failsOnly (table : SymbolTable) (params : List String) (program : Program) :
    FailsOnly Error.IsOrdinary (table.freeze params program) := by
  induction program with
  | nil => exact .ok _
  | cons token rest ih =>
      rw [freeze]
      split
      · next failed =>
        unfold freezeToken at failed
        split at failed
        · split at failed
          · cases failed
          · split at failed
            · cases failed
            · cases failed
              exact .error ⟨rfl, nofun⟩
        · cases failed
      · split
        · next failed => exact .error (ih _ failed)
        · exact .ok _

end Freezing

section Changes

variable {table newer : SymbolTable} {name : String}

theorem knows_iff :
    table.Knows name ↔
      if Builtin.isName name then (Builtin.ofName? name).isSome = true
      else Entries.binds table.functions name = true ∨ Entries.binds table.hosts name = true := by
  unfold Knows function? Entries.binds
  split
  · rw [Option.isSome_map]
  · split
    · next found => simp [found]
    · next unbound => simp [unbound]

theorem binds_put {α : Type} {entries : Entries α} {key : String} (value : α) {wanted : String}
    (bound : Entries.binds entries wanted = true) :
    Entries.binds (Entries.put key value entries) wanted = true := by
  unfold Entries.binds at *
  rw [Entries.get?_put]
  split
  · rfl
  · exact bound

theorem grows_of_binds
    (functions : ∀ name, Entries.binds table.functions name = true →
      Entries.binds newer.functions name = true)
    (hosts : ∀ name, Entries.binds table.hosts name = true →
      Entries.binds newer.hosts name = true) : table.Grows newer := by
  intro name known
  rw [knows_iff] at known ⊢
  split
  · next isBuiltin => rwa [if_pos isBuiltin] at known
  · next notBuiltin =>
    rw [if_neg notBuiltin] at known
    exact known.imp (functions name) (hosts name)

theorem grows_of_same (functions : newer.functions = table.functions)
    (hosts : newer.hosts = table.hosts) : table.Grows newer :=
  grows_of_binds (fun _ bound => functions ▸ bound) (fun _ bound => hosts ▸ bound)

/-- A change that keeps the defined functions keeps that the table can run their bodies. -/
theorem WellDefined.of_same (wellDefined : table.WellDefined) (grows : table.Grows newer)
    (functions : newer.functions = table.functions) : newer.WellDefined := by
  rintro function ⟨name, found⟩
  rw [functions] at found
  exact (wellDefined function ⟨name, found⟩).grows grows

theorem valueOf?_initial (notConstant : name ∉ Variables.constantNames) :
    initial.valueOf? name = none := by
  have different : "e" ≠ name ∧ "pi" ≠ name := by
    simpa [Variables.constantNames, eq_comm] using notConstant
  change Entries.get? Variables.initial name = none
  rw [Variables.initial, Entries.ofList, List.foldl_cons, List.foldl_cons, List.foldl_nil,
    Entries.get?_put_of_ne _ _ different.2, Entries.get?_put_of_ne _ _ different.1]
  rfl

theorem initial_wellDefined : initial.WellDefined := by
  rintro function ⟨name, found⟩
  cases found

theorem checkFunctionName_failsOnly (name : String) :
    FailsOnly Error.IsOrdinary (checkFunctionName name) := by
  unfold checkFunctionName
  split
  · exact .error ⟨rfl, nofun⟩
  · split
    · exact .error ⟨rfl, nofun⟩
    · exact .ok _

theorem checkParameters_failsOnly (seen params : List String) :
    FailsOnly Error.IsOrdinary (checkParameters seen params) := by
  induction params generalizing seen with
  | nil => exact .ok _
  | cons param rest ih =>
      rw [checkParameters]
      split
      · exact .error ⟨rfl, nofun⟩
      · split
        · exact .error ⟨rfl, nofun⟩
        · exact ih (param :: seen)

theorem checkFunctionName_eq_ok (checked : checkFunctionName name = .ok ()) :
    Builtin.isName name = false ∧ isIdentifier name = true ∧ Variables.isReserved name = false := by
  unfold checkFunctionName at checked
  split at checked
  · cases checked
  · next notBuiltin =>
    split at checked
    · cases checked
    · next free => simpa [notBuiltin] using free

/-- Parameters that pass the check are distinct identifiers that are not reserved, and none of them
was seen before. -/
theorem checkParameters_eq_ok {seen params : List String}
    (checked : checkParameters seen params = .ok ()) :
    params.Nodup ∧ ∀ param ∈ params,
      isIdentifier param = true ∧ Variables.isReserved param = false ∧ param ∉ seen := by
  induction params generalizing seen with
  | nil => exact ⟨List.nodup_nil, fun _ member => nomatch member⟩
  | cons first rest ih =>
      rw [checkParameters] at checked
      split at checked
      · cases checked
      · next free =>
        split at checked
        · cases checked
        · next fresh =>
          obtain ⟨distinct, restFree⟩ := ih checked
          have firstFree : isIdentifier first = true ∧ Variables.isReserved first = false := by
            simpa using free
          have firstFresh : first ∉ seen := by simpa using fresh
          refine ⟨List.nodup_cons.mpr ⟨fun again => ?_, distinct⟩, fun param member => ?_⟩
          · exact (restFree first again).2.2 List.mem_cons_self
          · rcases List.mem_cons.mp member with rfl | inRest
            · exact ⟨firstFree.1, firstFree.2, firstFresh⟩
            · obtain ⟨identifier, notReserved, notSeen⟩ := restFree param inRest
              exact ⟨identifier, notReserved, fun old => notSeen (List.mem_cons_of_mem _ old)⟩

/-- A definition that succeeds stores the frozen program of its body. -/
theorem define_eq_ok {params : List String} {body : String}
    (defined : table.define name params body = .ok newer) :
    checkFunctionName name = .ok () ∧ checkParameters [] params = .ok () ∧
      ∃ program frozen, convert table.arity? body = .ok program ∧
        table.freeze params program = .ok frozen ∧
          newer =
            { table with
              functions := Entries.put name { params, body := frozen } table.functions } := by
  unfold define at defined
  split at defined
  · cases defined
  · next nameChecked =>
    split at defined
    · cases defined
    · next paramsChecked =>
      split at defined
      · cases defined
      · next program converted =>
        split at defined
        · cases defined
        · next frozen froze =>
          exact ⟨nameChecked, paramsChecked, program, frozen, converted, froze,
            (Except.ok.inj defined).symm⟩

/-- An assignment that succeeds binds an identifier that is free for variables. -/
theorem assign_eq_ok {value : Value} (assigned : table.assign name value = .ok newer) :
    Variables.isReserved name = false ∧ isIdentifier name = true ∧
      table.isFunction name = false ∧
        newer = { table with globals := Entries.put name value table.globals } := by
  unfold assign at assigned
  split at assigned
  · cases assigned
  · next notReserved =>
    split at assigned
    · cases assigned
    · next identifier =>
      split at assigned
      · cases assigned
      · next notFunction =>
        rw [Variables.set, if_neg notReserved] at assigned
        exact ⟨by simpa using notReserved, by simpa using identifier, by simpa using notFunction,
          (Except.ok.inj assigned).symm⟩

theorem registerHost_eq_ok {function : HostFunction}
    (registered : table.registerHost name function = .ok newer) :
    checkFunctionName name = .ok () ∧
      newer = { table with hosts := Entries.put name function table.hosts } := by
  unfold registerHost at registered
  split at registered
  · cases registered
  · next checked => exact ⟨checked, (Except.ok.inj registered).symm⟩

theorem CanRun.freeze {params : List String} {program frozen : Program}
    (runs : table.CanRun program) (froze : table.freeze params program = .ok frozen) :
    table.CanRun frozen := by
  obtain ⟨tree, rfl⟩ := runs.isTree
  exact ⟨exists_tree_of_freeze froze, freeze_callsOnly runs.calls froze⟩

/-- A definition grows the table, and the table can run the new function. -/
theorem define_wellDefined {params : List String} {body : String}
    (wellDefined : table.WellDefined) (defined : table.define name params body = .ok newer) :
    table.Grows newer ∧ newer.WellDefined := by
  obtain ⟨-, -, program, frozen, converted, froze, rfl⟩ := define_eq_ok defined
  have runs : table.CanRun frozen := (canRun_of_convert converted).freeze froze
  have grows : table.Grows
      { table with
        functions := Entries.put name { params, body := frozen } table.functions } :=
    grows_of_binds (fun _ bound => binds_put _ bound) fun _ bound => bound
  refine ⟨grows, ?_⟩
  rintro function ⟨called, found⟩
  rw [Entries.get?_put] at found
  split at found
  · cases found
    exact runs.grows grows
  · exact (wellDefined function ⟨called, found⟩).grows grows

theorem registerHost_wellDefined {function : HostFunction} (wellDefined : table.WellDefined)
    (registered : table.registerHost name function = .ok newer) :
    table.Grows newer ∧ newer.WellDefined := by
  obtain ⟨-, rfl⟩ := registerHost_eq_ok registered
  have grows : table.Grows { table with hosts := Entries.put name function table.hosts } :=
    grows_of_binds (fun _ bound => bound) fun _ bound => binds_put _ bound
  exact ⟨grows, wellDefined.of_same grows rfl⟩

theorem assign_wellDefined {value : Value} (wellDefined : table.WellDefined)
    (assigned : table.assign name value = .ok newer) :
    table.Grows newer ∧ newer.WellDefined := by
  obtain ⟨-, -, -, rfl⟩ := assign_eq_ok assigned
  have grows : table.Grows { table with globals := Entries.put name value table.globals } :=
    grows_of_same rfl rfl
  exact ⟨grows, wellDefined.of_same grows rfl⟩

theorem assign_failsOnly (name : String) (value : Value) (table : SymbolTable) :
    FailsOnly Error.IsOrdinary (table.assign name value) := by
  unfold assign
  split
  · exact .error ⟨rfl, nofun⟩
  · split
    · exact .error ⟨rfl, nofun⟩
    · split
      · exact .error ⟨rfl, nofun⟩
      · refine FailsOnly.map ?_ _
        unfold Variables.set
        split
        · exact .error ⟨rfl, nofun⟩
        · exact .ok _

theorem registerHost_failsOnly (name : String) (function : HostFunction) (table : SymbolTable) :
    FailsOnly Error.IsOrdinary (table.registerHost name function) := by
  unfold registerHost
  split
  · next failed => exact .error (checkFunctionName_failsOnly name _ failed)
  · exact .ok _

theorem define_failsOnly (name : String) (params : List String) (body : String)
    (table : SymbolTable) :
    FailsOnly (fun error => error.IsOrdinary ∨ error.IsRefusal)
      (table.define name params body) := by
  unfold define
  split
  · next failed => exact .error (Or.inl (checkFunctionName_failsOnly name _ failed))
  · split
    · next failed => exact .error (Or.inl (checkParameters_failsOnly [] params _ failed))
    · split
      · next failed => exact .error (Or.inr (Conversion.convert_failsOnly _ body _ failed))
      · split
        · next failed => exact .error (Or.inl (freeze_failsOnly table params _ _ failed))
        · exact .ok _

end Changes

end SymbolTable

end Calculator
