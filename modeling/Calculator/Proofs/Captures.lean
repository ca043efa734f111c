import Calculator.Proofs.SideBySide

/-!
# What a run leaves as it was

Writing captures is all that a run does to its symbol table.  So whatever survives the writing of
captures survives every run, also one that fails.  The functions of the table survive it, and all
variables but captures, whose names begin with a dollar sign.
-/

namespace Calculator

namespace Variables

/-- Decide whether a name is that of a capture. -/
def isCapture (name : String) : Bool :=
  name.toList.head? == some '$'

theorem captureName_eq_toString (index : Nat) : captureName index = "$" ++ toString index := by
  rw [captureName, Decimal.naturalText_eq_toString]

theorem isCapture_captureName (index : Nat) : isCapture (captureName index) = true := by
  simp [isCapture, captureName]

theorem isCapture_of_isIdentifier {name : String} (identifier : isIdentifier name = true) :
    isCapture name = false := by
  unfold isIdentifier at identifier
  unfold isCapture
  split at identifier
  · cases identifier
  · next first rest chars =>
    have lower : first.isLower = true := (Bool.and_eq_true_iff.mp identifier).1
    rw [chars, List.head?_cons]
    by_contra isDollar
    have equal : first = '$' := by simpa using isDollar
    rw [equal] at lower
    cases lower

/-- Writing captures leaves every name alone that is not among those written. -/
theorem get?_setCaptures_of_ne {name : String} {index : Nat} {texts : List String}
    (different : ∀ offset < texts.length, captureName (index + offset) ≠ name)
    (globals : Variables) :
    Entries.get? (setCaptures index texts globals) name = Entries.get? globals name := by
  induction texts generalizing index globals with
  | nil => rfl
  | cons text texts ih =>
      have first : captureName index ≠ name := different 0 (Nat.zero_lt_succ _)
      have later : ∀ offset < texts.length, captureName (index + 1 + offset) ≠ name := by
        intro offset inside
        rw [Nat.add_assoc, Nat.add_comm 1 offset]
        exact different (offset + 1) (Nat.succ_lt_succ inside)
      rw [setCaptures, ih later, setCapture, Entries.get?_put_of_ne _ _ first]

theorem get?_setCaptures_of_plain {name : String} (plain : isCapture name = false) (index : Nat)
    (texts : List String) (globals : Variables) :
    Entries.get? (setCaptures index texts globals) name = Entries.get? globals name := by
  refine get?_setCaptures_of_ne (fun offset _ equal => ?_) globals
  rw [← equal, isCapture_captureName] at plain
  cases plain

theorem get?_setCaptures_cases {name : String} {value : Value} {index : Nat} {texts : List String}
    {globals : Variables}
    (bound : Entries.get? (setCaptures index texts globals) name = some value) :
    Entries.get? globals name = some value ∨
      ∃ index text, name = captureName index ∧ value = .string text := by
  induction texts generalizing index globals with
  | nil => exact Or.inl bound
  | cons text texts ih =>
      rcases ih bound with written | isText
      · rw [setCapture, Entries.get?_put] at written
        split at written
        · next isIndex => exact Or.inr ⟨index, text, isIndex.symm, (Option.some.inj written).symm⟩
        · exact Or.inl written
      · exact Or.inr isText

/-- What captures are bound to depends on their texts and on what they were bound to. -/
theorem get?_setCaptures_congr {name : String} {globals others : Variables}
    (equal : Entries.get? globals name = Entries.get? others name) (index : Nat)
    (texts : List String) :
    Entries.get? (setCaptures index texts globals) name =
      Entries.get? (setCaptures index texts others) name := by
  induction texts generalizing index globals others with
  | nil => exact equal
  | cons text texts ih =>
      apply ih
      rw [setCapture, setCapture, Entries.get?_put, Entries.get?_put, equal]

end Variables

namespace Evaluation

/-- Whatever survives the writing of captures survives a run. -/
theorem run_keeps {invariant : SymbolTable → Prop}
    (survives : ∀ table texts, invariant table → invariant (table.setCaptures texts))
    {table : SymbolTable} (holds : invariant table) (engine : Pattern.Engine) (limits : Limits)
    (program : Program) : invariant (run engine limits program table).2 := by
  -- A run is watched beside itself, so that only the invariant is left of the relation.
  let related (one other : Machine) : Prop := one = other ∧ invariant one.table
  have sameReads (locals : Entries Value) (token : Token) (one other : Machine)
      (together : related one other) :
      token.reads? locals one.table = token.reads? locals other.table := by
    rw [together.1]
  have lockstep : Lockstep related :=
    { functions := fun one other together name => by rw [together.1]
      captures := fun one other together texts =>
        ⟨by rw [together.1], survives one.table texts together.2⟩
      bodies := fun _ _ _ _ _ _ _ _ token _ => sameReads _ token }
  have counts : Run.Relates related (fun _ => False) (countStep limits) (countStep limits) :=
    countStep_relates (fun one other together => ⟨by rw [together.1], together.2⟩)
      fun one other together => Or.inl (by rw [together.1])
  have corresponds : List.Forall₂ (Corresponds related [] []) program program := by
    rw [List.forall₂_same]
    intro token _
    exact .same token (sameReads [] token)
  have watched : Run.Relates related (fun _ => False)
      (runNested engine limits limits.maxDepth [] program)
      (runNested engine limits limits.maxDepth [] program) :=
    runNested_relates lockstep counts (.refl limits limits.maxDepth) corresponds
  rcases watched { table, steps := 0 } { table, steps := 0 } ⟨rfl, holds⟩ with
    ⟨error, isExcused, -⟩ | ⟨-, stillHolds⟩
  · exact isExcused.elim
  · exact stillHolds.2

end Evaluation

namespace SymbolTable

/-- Two symbol tables differ at most in captures. -/
structure SameButCaptures (older newer : SymbolTable) : Prop where
  functions : newer.functions = older.functions
  hosts : newer.hosts = older.hosts
  bindings : ∀ name, Variables.isCapture name = false →
    newer.valueOf? name = older.valueOf? name

variable {older newer table : SymbolTable}

theorem SameButCaptures.refl (table : SymbolTable) : table.SameButCaptures table :=
  ⟨rfl, rfl, fun _ _ => rfl⟩

theorem SameButCaptures.setCaptures (same : older.SameButCaptures newer) (texts : List String) :
    older.SameButCaptures (newer.setCaptures texts) := by
  refine ⟨same.functions, same.hosts, fun name plain => ?_⟩
  rw [← same.bindings name plain]
  exact Variables.get?_setCaptures_of_plain plain 0 texts newer.globals

theorem SameButCaptures.function? (same : older.SameButCaptures newer) (name : String) :
    newer.function? name = older.function? name :=
  function?_congr (by rw [same.functions]) (by rw [same.hosts])

/-- A run changes at most captures, whether it fails or not. -/
theorem sameButCaptures_run (engine : Pattern.Engine) (limits : Limits) (program : Program)
    (table : SymbolTable) :
    table.SameButCaptures (Evaluation.run engine limits program table).2 :=
  Evaluation.run_keeps (fun _ texts same => same.setCaptures texts) (.refl table) engine limits
    program

end SymbolTable

end Calculator
