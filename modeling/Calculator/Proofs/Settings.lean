import Calculator.InitFile
import Calculator.Proofs.ExpressionLines
import Mathlib.Algebra.Group.Nat.Defs

/-!
# What settings mean

The words after a `/set` command ask for a change of one option, or there is a fault in them.  Which
of the two it is, and which change or which fault, is a matter of the words alone.  The main
statement is that an init file is changed as the words mean, and stays as it was if they mean
nothing.
-/

namespace Calculator

namespace Text

theorem splitFirst?_eq_none_iff {isCut : Char → Bool} {chars : List Char} :
    splitFirst? isCut chars = none ↔ ∀ c ∈ chars, isCut c = false := by
  induction chars with
  | nil => simp [splitFirst?]
  | cons first rest ih =>
      rw [splitFirst?, List.forall_mem_cons, ← ih]
      cases isCut first <;> simp

end Text

/-- A change of one option. -/
inductive Setting
  | maxDepth (limit : Nat)
  | maxSteps (limit : Nat)
  | quiet (on : Bool)

namespace Setting

/-- An init file after a change. -/
def change (setting : Setting) (file : InitFile) : InitFile :=
  match setting with
  | maxDepth limit => { file with limits := { file.limits with maxDepth := limit } }
  | maxSteps limit => { file with limits := { file.limits with maxSteps := limit } }
  | quiet on => { file with quiet := on }

/-- A limit is written with decimal digits, perhaps after a plus sign.  It is positive and fits in
64 bits. -/
def LimitText (text : String) (limit : Nat) : Prop :=
  ∃ digits : List Char, (text.toList = digits ∨ text.toList = '+' :: digits) ∧ digits ≠ [] ∧
    (∀ c ∈ digits, c.isDigit = true) ∧ Decimal.digitsValue digits = limit ∧ 0 < limit ∧
    limit < 2 ^ 64

/-- A switch is turned by a word, with letters of any case. -/
def SwitchText (text : String) (on : Bool) : Prop :=
  String.ofList (text.toList.map Char.toLower) ∈
    if on then ["on", "1", "true", "yes"] else ["off", "0", "false", "no"]

/-- Words name an option and a value. -/
inductive Names : List String → String → String → Prop
  /-- The first word is `option=value`.  No other word matters. -/
  | joined (option value : String) (others : List String) (noEquals : '=' ∉ option.toList) :
      Names ((option ++ "=" ++ value) :: others) option value
  /-- The first word is the option, and all others are the value. -/
  | apart (option first : String) (others : List String) (noEquals : '=' ∉ option.toList) :
      Names (option :: first :: others) option (" ".intercalate (first :: others))

/-- What words after a `/set` command mean: a change, or a fault. -/
inductive Means : List String → Except SettingFault Setting → Prop
  | missingArgument : Means [] (.error .missingArgument)
  | missingValue {option : String} (noEquals : '=' ∉ option.toList) :
      Means [option] (.error (.missingValue option))
  | maxDepth {words : List String} {value : String} {limit : Nat}
      (names : Names words "max_depth" value) (isLimit : LimitText value limit) :
      Means words (.ok (maxDepth limit))
  | maxSteps {words : List String} {value : String} {limit : Nat}
      (names : Names words "max_steps" value) (isLimit : LimitText value limit) :
      Means words (.ok (maxSteps limit))
  | quiet {words : List String} {value : String} {on : Bool}
      (names : Names words "quiet" value) (isSwitch : SwitchText value on) :
      Means words (.ok (quiet on))
  | notPositive {words : List String} {option value : String} (names : Names words option value)
      (takesLimit : option = "max_depth" ∨ option = "max_steps")
      (noLimit : ∀ limit, ¬LimitText value limit) :
      Means words (.error (.notPositive option value))
  | notSwitch {words : List String} {value : String} (names : Names words "quiet" value)
      (noSwitch : ∀ on, ¬SwitchText value on) :
      Means words (.error (.notSwitch "quiet" value))
  | emptyOption {words : List String} {value : String} (names : Names words "" value) :
      Means words (.error .emptyOption)
  | unknownOption {words : List String} {option value : String} (names : Names words option value)
      (unknown : option ∉ ["max_depth", "max_steps", "quiet", ""]) :
      Means words (.error (.unknownOption option))

variable {words : List String} {option value text : String} {file : InitFile}

/-- The limit that digits without a sign stand for. -/
def limitOf? (digits : List Char) : Option Nat :=
  if digits.isEmpty || !digits.all Char.isDigit then none
  else if Decimal.digitsValue digits = 0 ∨ InitFile.limitBound ≤ Decimal.digitsValue digits then
    none
  else some (Decimal.digitsValue digits)

theorem limitOf?_eq_some_iff {digits : List Char} {limit : Nat} :
    limitOf? digits = some limit ↔ digits ≠ [] ∧ (∀ c ∈ digits, c.isDigit = true) ∧
      Decimal.digitsValue digits = limit ∧ 0 < limit ∧ limit < 2 ^ 64 := by
  have isBound : InitFile.limitBound = 2 ^ 64 := rfl
  unfold limitOf?
  split
  · next notNumeral =>
    simp only [reduceCtorEq, false_iff]
    rintro ⟨nonempty, areDigits, -⟩
    have isNumeral : (digits.isEmpty || !digits.all Char.isDigit) = false := by
      simpa [nonempty] using areDigits
    rw [isNumeral] at notNumeral
    cases notNumeral
  · next isNumeral =>
    have digitsOnly : digits ≠ [] ∧ ∀ c ∈ digits, c.isDigit = true := by simpa using isNumeral
    split
    · next outOfRange =>
      simp only [reduceCtorEq, false_iff]
      rintro ⟨-, -, rfl, positive, bounded⟩
      omega
    · next inRange =>
      rw [Option.some.injEq]
      constructor
      · rintro rfl
        exact ⟨digitsOnly.1, digitsOnly.2, rfl, by omega, by omega⟩
      · rintro ⟨-, -, isValue, -⟩
        exact isValue

theorem limit?_signed {digits : List Char} (signed : text.toList = '+' :: digits) :
    InitFile.limit? text = limitOf? digits := by
  rw [InitFile.limit?, signed]
  rfl

theorem limit?_unsigned (unsigned : text.toList.head? ≠ some '+') :
    InitFile.limit? text = limitOf? text.toList := by
  rw [InitFile.limit?]
  split
  · next rest signed =>
    rw [signed] at unsigned
    exact absurd rfl unsigned
  · rfl

theorem limit?_eq_some_iff {limit : Nat} :
    InitFile.limit? text = some limit ↔ LimitText text limit := by
  by_cases isSigned : text.toList.head? = some '+'
  · obtain ⟨digits, signed⟩ := List.head?_eq_some_iff.mp isSigned
    rw [limit?_signed signed, limitOf?_eq_some_iff]
    constructor
    · intro isNumeral
      exact ⟨digits, Or.inr signed, isNumeral⟩
    · rintro ⟨others, written | written, isNumeral⟩
      · -- A sign is no digit.
        rw [signed] at written
        exact absurd (isNumeral.2.1 '+' (written ▸ List.mem_cons_self)) (by decide)
      · rw [signed] at written
        rwa [(List.cons.inj written).2]
  · rw [limit?_unsigned isSigned, limitOf?_eq_some_iff]
    constructor
    · intro isNumeral
      exact ⟨text.toList, Or.inl rfl, isNumeral⟩
    · rintro ⟨digits, written | written, isNumeral⟩
      · rwa [written]
      · rw [written] at isSigned
        exact absurd rfl isSigned

theorem switch?_eq_some_iff {on : Bool} : InitFile.switch? text = some on ↔ SwitchText text on := by
  unfold InitFile.switch? SwitchText
  dsimp only
  generalize String.ofList (text.toList.map Char.toLower) = word
  simp only [List.contains_iff_mem]
  by_cases turnsOn : word ∈ ["on", "1", "true", "yes"]
  · have notOff : word ∉ ["off", "0", "false", "no"] := by
      revert word
      decide
    cases on <;> simp [turnsOn, notOff]
  · by_cases turnsOff : word ∈ ["off", "0", "false", "no"] <;>
      cases on <;> simp [turnsOn, turnsOff]

theorem limit?_eq_none_iff :
    InitFile.limit? text = none ↔ ∀ limit, ¬LimitText text limit := by
  simp only [Option.eq_none_iff_forall_ne_some, ne_eq, limit?_eq_some_iff]

theorem switch?_eq_none_iff : InitFile.switch? text = none ↔ ∀ on, ¬SwitchText text on := by
  simp only [Option.eq_none_iff_forall_ne_some, ne_eq, switch?_eq_some_iff]

theorem splitFirst?_of_noEquals (noEquals : '=' ∉ text.toList) :
    Text.splitFirst? (· == '=') text.toList = none := by
  refine Text.splitFirst?_eq_none_iff.mpr fun c member => ?_
  exact beq_false_of_ne fun isEquals => noEquals (isEquals ▸ member)

theorem Names.set_eq (names : Names words option value) (file : InitFile) :
    file.set words = file.setOption option value := by
  cases names with
  | joined option value others noEquals =>
      have cut : Text.splitFirst? (· == '=') (option ++ "=" ++ value).toList =
          some (option.toList, value.toList) := by
        refine Text.splitFirst?_eq_some_iff.mpr ⟨fun c member => ?_, '=', rfl, by simp⟩
        exact beq_false_of_ne fun isEquals => noEquals (isEquals ▸ member)
      rw [InitFile.set, cut]
      dsimp only
      rw [String.ofList_toList, String.ofList_toList]
  | apart option first others noEquals =>
      rw [InitFile.set, splitFirst?_of_noEquals noEquals]
      rfl

theorem Names.exists_means (names : Names words option value) : ∃ verdict, Means words verdict := by
  by_cases takesLimit : option = "max_depth" ∨ option = "max_steps"
  · by_cases isLimit : ∃ limit, LimitText value limit
    · obtain ⟨limit, isLimit⟩ := isLimit
      rcases takesLimit with rfl | rfl
      · exact ⟨_, .maxDepth names isLimit⟩
      · exact ⟨_, .maxSteps names isLimit⟩
    · exact ⟨_, .notPositive names takesLimit (not_exists.mp isLimit)⟩
  · obtain ⟨notDepth, notSteps⟩ := not_or.mp takesLimit
    by_cases isQuiet : option = "quiet"
    · subst isQuiet
      by_cases isSwitch : ∃ on, SwitchText value on
      · obtain ⟨on, isSwitch⟩ := isSwitch
        exact ⟨_, .quiet names isSwitch⟩
      · exact ⟨_, .notSwitch names (not_exists.mp isSwitch)⟩
    · by_cases isEmpty : option = ""
      · subst isEmpty
        exact ⟨_, .emptyOption names⟩
      · exact ⟨_, .unknownOption names (by simp [notDepth, notSteps, isQuiet, isEmpty])⟩

/-- All words mean something. -/
theorem exists_means (words : List String) : ∃ verdict, Means words verdict := by
  cases words with
  | nil => exact ⟨_, .missingArgument⟩
  | cons first rest =>
      by_cases hasEquals : '=' ∈ first.toList
      · obtain ⟨before, after, chars, noEquals⟩ := List.eq_append_cons_of_mem hasEquals
        have written : first = String.ofList before ++ "=" ++ String.ofList after := by
          rw [← String.toList_inj, chars]
          simp
        have names : Names (first :: rest) (String.ofList before) (String.ofList after) := by
          rw [written]
          exact .joined _ _ rest (by rwa [String.toList_ofList])
        exact names.exists_means
      · cases rest with
        | nil => exact ⟨_, .missingValue hasEquals⟩
        | cons second others => exact (Names.apart first second others hasEquals).exists_means

/-- An init file is changed as the words mean.  If there is a fault in them, it is not changed. -/
theorem Means.set_eq {verdict : Except SettingFault Setting} (means : Means words verdict)
    (file : InitFile) : file.set words = verdict.map (·.change file) := by
  cases means with
  | missingArgument => rfl
  | missingValue noEquals =>
      rw [InitFile.set, splitFirst?_of_noEquals noEquals]
      rfl
  | maxDepth names isLimit =>
      rw [names.set_eq, InitFile.setOption, if_pos rfl, limit?_eq_some_iff.mpr isLimit]
      rfl
  | maxSteps names isLimit =>
      rw [names.set_eq, InitFile.setOption, if_neg (by decide), if_pos rfl,
        limit?_eq_some_iff.mpr isLimit]
      rfl
  | quiet names isSwitch =>
      rw [names.set_eq, InitFile.setOption, if_neg (by decide), if_neg (by decide), if_pos rfl,
        switch?_eq_some_iff.mpr isSwitch]
      rfl
  | notPositive names takesLimit noLimit =>
      rw [names.set_eq]
      have unread := limit?_eq_none_iff.mpr noLimit
      rcases takesLimit with rfl | rfl
      · rw [InitFile.setOption, if_pos rfl, unread]
        rfl
      · rw [InitFile.setOption, if_neg (by decide), if_pos rfl, unread]
        rfl
  | notSwitch names noSwitch =>
      rw [names.set_eq, InitFile.setOption, if_neg (by decide), if_neg (by decide), if_pos rfl,
        switch?_eq_none_iff.mpr noSwitch]
      rfl
  | emptyOption names =>
      rw [names.set_eq]
      rfl
  | unknownOption names unknown =>
      simp only [List.mem_cons, List.not_mem_nil, or_false, not_or] at unknown
      obtain ⟨notDepth, notSteps, notQuiet, notEmpty⟩ := unknown
      rw [names.set_eq, InitFile.setOption, if_neg notDepth, if_neg notSteps, if_neg notQuiet,
        if_neg notEmpty]
      rfl

/-- Settings can be told from each other by what they do to two init files. -/
theorem eq_of_change_eq {setting other : Setting}
    (same : ∀ file, setting.change file = other.change file) : setting = other := by
  have low := same { limits := { maxDepth := 0, maxSteps := 0 }, quiet := false, lines := [] }
  have high := same { limits := { maxDepth := 1, maxSteps := 1 }, quiet := true, lines := [] }
  cases setting <;> cases other <;> grind [change]

/-- Words have only one meaning. -/
theorem Means.unique {first second : Except SettingFault Setting} (means : Means words first)
    (other : Means words second) : first = second := by
  have same (file : InitFile) : first.map (·.change file) = second.map (·.change file) := by
    rw [← means.set_eq, ← other.set_eq]
  cases first with
  | error fault =>
      cases second with
      | error fault' => exact congrArg Except.error (Except.error.inj (same InitFile.initial))
      | ok setting => cases same InitFile.initial
  | ok setting =>
      cases second with
      | error fault => cases same InitFile.initial
      | ok setting' =>
          exact congrArg Except.ok (eq_of_change_eq fun file => Except.ok.inj (same file))

/-- A limit that is set is positive. -/
theorem Means.maxDepth_pos {limit : Nat} (means : Means words (.ok (.maxDepth limit))) :
    0 < limit := by
  cases means with
  | maxDepth names isLimit =>
      obtain ⟨digits, -, -, -, -, positive, -⟩ := isLimit
      exact positive

theorem Means.maxSteps_pos {limit : Nat} (means : Means words (.ok (.maxSteps limit))) :
    0 < limit := by
  cases means with
  | maxSteps names isLimit =>
      obtain ⟨digits, -, -, -, -, positive, -⟩ := isLimit
      exact positive

end Setting

end Calculator
