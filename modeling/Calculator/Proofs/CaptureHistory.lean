import Calculator.Proofs.Captures
import Calculator.Proofs.Execution
import Mathlib.Data.List.Chain
import Mathlib.Data.List.GetD
import Mathlib.Data.List.Induction

/-!
# The captures that a run leaves

Every match of a run binds a capture for each of its groups, and nothing else of the run binds
anything.  A later match binds only the captures of its own groups, so that a capture stands for
the last match that has such a group.  This is so for runs that end in a value and for runs that
fail, with the matches of called functions among the others in the order of the journal.
-/

namespace Calculator

/-- The text of a group of a match, empty if the group took no part. -/
def Finding.groupText (finding : Finding) (index : Nat) : String :=
  match finding.groups[index]? with
  | some (some text) => text
  | _ => ""

def Event.finding? : Event → Option Finding
  | .found finding => some finding
  | _ => none

/-- The matches that a journal tells of, in order. -/
def findings (events : List Event) : List Finding :=
  events.filterMap Event.finding?

/-- The last of some matches that has a group of this index. -/
def lastWithGroup? (index : Nat) (history : List Finding) : Option Finding :=
  (history.filter fun finding => decide (index < finding.groups.length)).getLast?

namespace Variables

theorem captureName_injective {one other : Nat} (equal : captureName one = captureName other) :
    one = other := by
  have sameDigits : Decimal.naturalChars one = Decimal.naturalChars other := by
    have sameChars := congrArg String.toList equal
    simpa [captureName, Decimal.naturalText] using sameChars
  rw [← Decimal.digitsValue_naturalChars one, sameDigits, Decimal.digitsValue_naturalChars]

theorem get?_setCaptures_captureName {index offset : Nat} {texts : List String}
    (inside : offset < texts.length) (globals : Variables) :
    Entries.get? (setCaptures index texts globals) (captureName (index + offset)) =
      some (.string texts[offset]) := by
  induction texts generalizing index offset globals with
  | nil => cases inside
  | cons text texts ih =>
      rw [setCaptures]
      cases offset with
      | zero =>
          have different : ∀ offset < texts.length,
              captureName (index + 1 + offset) ≠ captureName (index + 0) := by
            intro offset _ equal
            have sameIndex := captureName_injective equal
            omega
          rw [get?_setCaptures_of_ne different, setCapture]
          exact Entries.get?_put_self globals (captureName index) (.string text)
      | succ offset =>
          have sameIndex : index + (offset + 1) = index + 1 + offset := by omega
          rw [sameIndex]
          exact ih (Nat.lt_of_succ_lt_succ inside) (setCapture index text globals)

end Variables

namespace SymbolTable

open Variables

variable {table : SymbolTable} {finding : Finding}

theorem length_groupTexts (groups : Pattern.Groups) :
    (Pattern.groupTexts groups).length = groups.length :=
  List.length_map _

theorem getElem_groupTexts {index : Nat}
    (inside : index < (Pattern.groupTexts finding.groups).length) :
    (Pattern.groupTexts finding.groups)[index] = finding.groupText index := by
  have insideGroups : index < finding.groups.length := by
    rwa [length_groupTexts] at inside
  have isText : (Pattern.groupTexts finding.groups)[index] = finding.groups[index].getD "" :=
    List.getElem_map _
  rw [isText, Finding.groupText, List.getElem?_eq_getElem insideGroups]
  cases finding.groups[index] <;> rfl

theorem valueOf?_capture_of_lt {index : Nat} (inside : index < finding.groups.length) :
    (table.capture finding).valueOf? (captureName index) =
      some (.string (finding.groupText index)) := by
  rw [← length_groupTexts] at inside
  have written : Entries.get? (table.capture finding).globals (captureName (0 + index)) =
      some (.string (Pattern.groupTexts finding.groups)[index]) :=
    get?_setCaptures_captureName inside table.globals
  rwa [Nat.zero_add, getElem_groupTexts] at written

theorem valueOf?_capture_of_ne {name : String}
    (different : ∀ index < finding.groups.length, captureName index ≠ name) :
    (table.capture finding).valueOf? name = table.valueOf? name := by
  refine get?_setCaptures_of_ne (fun index inside => ?_) table.globals
  rw [Nat.zero_add]
  rw [length_groupTexts] at inside
  exact different index inside

/-- The symbol table after matches in order. -/
def captureAll (table : SymbolTable) (history : List Finding) : SymbolTable :=
  history.foldl (fun table finding => table.capture finding) table

theorem captureAll_append (table : SymbolTable) (earlier later : List Finding) :
    table.captureAll (earlier ++ later) = (table.captureAll earlier).captureAll later :=
  List.foldl_append

/-- After matches in order, a capture has the text of the last match that has its group. -/
theorem valueOf?_captureAll (table : SymbolTable) (history : List Finding) (index : Nat) :
    (table.captureAll history).valueOf? (captureName index) =
      match lastWithGroup? index history with
      | some finding => some (.string (finding.groupText index))
      | none => table.valueOf? (captureName index) := by
  -- The last match decides, so the induction takes the history apart from its end.
  induction history using List.reverseRecOn with
  | nil => rfl
  | append_singleton earlier last ih =>
      rw [captureAll_append, lastWithGroup?, List.filter_append]
      by_cases inside : index < last.groups.length
      · have kept : [last].filter (fun finding => decide (index < finding.groups.length)) =
            [last] :=
          List.filter_cons_of_pos (decide_eq_true inside)
        rw [kept, List.getLast?_concat]
        exact valueOf?_capture_of_lt inside
      · have dropped : [last].filter (fun finding => decide (index < finding.groups.length)) = [] :=
          List.filter_cons_of_neg (by rw [decide_eq_true_iff]; exact inside)
        rw [dropped, List.append_nil, ← lastWithGroup?, ← ih]
        refine valueOf?_capture_of_ne fun other otherInside equal => inside ?_
        rw [← captureName_injective equal]
        exact otherInside

theorem valueOf?_captureAll_of_ne {name : String} (different : ∀ index, name ≠ captureName index)
    (table : SymbolTable) (history : List Finding) :
    (table.captureAll history).valueOf? name = table.valueOf? name := by
  induction history generalizing table with
  | nil => rfl
  | cons finding later ih =>
      exact (ih (table.capture finding)).trans
        (valueOf?_capture_of_ne fun index _ => (different index).symm)

end SymbolTable

section Runs

variable {limits : Limits} {table : SymbolTable} {depth : Nat} {program : Program}
  {machine after : Machine} {failure : Option Error} {events : List Event}

/-- What a run does to the symbol table is to write the captures of its matches. -/
theorem Execution.table_eq (execution : Execution limits table depth program machine failure after
    events) : after.table = machine.table.captureAll (findings events) := by
  induction execution with
  | ended noLimit => rfl
  | exhausted exceeded => rfl
  | halted allowed noLimit => rfl
  | plain allowed noCallee later ih => exact ih
  | found allowed later ih => exact ih
  | refused allowed isCallee => rfl
  | returned allowed isCallee body later bodyIH laterIH =>
      rename_i inner events
      have split : findings (inner ++ .leave :: events) = findings inner ++ findings events :=
        List.filterMap_append
      rw [laterIH, bodyIH, ← SymbolTable.captureAll_append, ← split]
      rfl
  | failed allowed isCallee body ih => exact ih

/-- A match is written down right after its operator. -/
def Event.MayFollow (earlier later : Event) : Prop :=
  ∀ finding, later = .found finding → earlier = .token (.op (.binary .regexMatch))

theorem Execution.isChain (execution : Execution limits table depth program machine failure after
    events) (start : Event) : List.IsChain Event.MayFollow (start :: events) := by
  induction execution generalizing start with
  | ended noLimit => exact .singleton start
  | exhausted exceeded => exact .singleton start
  | halted allowed noLimit => exact .cons_cons nofun (.singleton _)
  | plain allowed noCallee later ih => exact .cons_cons nofun (ih _)
  | found allowed later ih => exact .cons_cons nofun (.cons_cons (fun _ _ => rfl) (ih _))
  | refused allowed isCallee => exact .cons_cons nofun (.singleton _)
  | returned allowed isCallee body later bodyIH laterIH =>
      rename_i function _ inner events
      have joined : List.IsChain Event.MayFollow ((.enter function :: inner) ++ .leave :: events) :=
        List.isChain_append.mpr ⟨bodyIH _, laterIH _, by rintro _ _ _ ⟨⟩; exact nofun⟩
      exact .cons_cons nofun (.cons_cons nofun joined)
  | failed allowed isCallee body ih => exact .cons_cons nofun (.cons_cons nofun (ih _))

theorem Execution.getLast?_of_found {earlier later : List Event} {finding : Finding}
    (execution : Execution limits table depth program machine failure after
      (earlier ++ .found finding :: later)) :
    earlier.getLast? = some (.token (.op (.binary .regexMatch))) := by
  have chain := execution.isChain .leave
  rw [← List.cons_append, List.isChain_append] at chain
  have follows := chain.2.2
  cases earlier using List.reverseRecOn with
  | nil => cases follows .leave rfl (.found finding) rfl finding rfl
  | append_singleton before last =>
      have isOperator : last = .token (.op (.binary .regexMatch)) := by
        refine follows last ?_ (.found finding) rfl finding rfl
        rw [← List.cons_append, List.getLast?_concat]
        rfl
      rw [List.getLast?_concat, isOperator]

end Runs

namespace Evaluation

open Variables

/-- The table that a run leaves can be told from its journal. -/
theorem table_run (engine : Pattern.Engine) (limits : Limits) (program : Program)
    (table : SymbolTable) :
    (run engine limits program table).2 =
      table.captureAll (findings (watch engine limits program table).2) := by
  obtain ⟨machine, isAfter, execution⟩ := execution_run engine limits program table
  exact isAfter.symm.trans execution.table_eq

theorem getLast?_of_found_watch {engine : Pattern.Engine} {limits : Limits} {program : Program}
    {table : SymbolTable} {earlier later : List Event} {finding : Finding}
    (isJournal : (watch engine limits program table).2 = earlier ++ .found finding :: later) :
    earlier.getLast? = some (.token (.op (.binary .regexMatch))) := by
  obtain ⟨machine, -, execution⟩ := execution_run engine limits program table
  rw [isJournal] at execution
  exact execution.getLast?_of_found

/-- A dollar sign and the number of a group stand for the text of that group in the last match of
the journal that has it, and for what they stood for before if there is none.  All else is as it was
before the run. -/
theorem captures_run (engine : Pattern.Engine) (limits : Limits) (program : Program)
    (table : SymbolTable) :
    let journal : List Event := (watch engine limits program table).2
    let after : SymbolTable := (run engine limits program table).2
    (watch engine limits program table).1 = run engine limits program table ∧
      (∀ earlier finding later, journal = earlier ++ .found finding :: later →
        earlier.getLast? = some (.token (.op (.binary .regexMatch)))) ∧
      (∀ index : Nat, after.valueOf? ("$" ++ toString index) =
        match lastWithGroup? index (findings journal) with
        | some finding => some (.string (finding.groupText index))
        | none => table.valueOf? ("$" ++ toString index)) ∧
      (findings journal = [] → after = table) ∧
      (∀ name, (∀ index : Nat, name ≠ "$" ++ toString index) →
        after.valueOf? name = table.valueOf? name) ∧
      after.functions = table.functions ∧ after.hosts = table.hosts := by
  intro journal after
  have written : after = table.captureAll (findings journal) :=
    table_run engine limits program table
  have kept : table.SameButCaptures after :=
    SymbolTable.sameButCaptures_run engine limits program table
  refine ⟨watch_fst engine limits program table, fun _ _ _ => getLast?_of_found_watch, ?_, ?_, ?_,
    kept.functions, kept.hosts⟩
  · intro index
    rw [written, ← captureName_eq_toString]
    exact table.valueOf?_captureAll (findings journal) index
  · intro nothing
    rw [written, nothing]
    rfl
  · intro name different
    simp only [← captureName_eq_toString] at different
    rw [written]
    exact SymbolTable.valueOf?_captureAll_of_ne different table (findings journal)

/-- A match with one group comes after a match with two.  It leaves the capture of the second group
as it was, and both stay when the run fails. -/
example :
    let engine : Pattern.Engine := fun _ source => .ok fun _ =>
      if source = "long" then some [some "ab", some "b"] else some [none]
    let program : Program :=
      [.string "x", .regex "long" "", .op (.binary .regexMatch),
        .string "x", .regex "short" "", .op (.binary .regexMatch)]
    let ended := run engine Limits.standard program SymbolTable.initial
    ended.1 = .error (.internal (.leftover 2)) ∧
      ended.2.valueOf? "$0" = some (.string "") ∧
      ended.2.valueOf? "$1" = some (.string "b") :=
  ⟨rfl, by with_unfolding_all rfl, by with_unfolding_all rfl⟩

end Evaluation

end Calculator
