import Calculator.Proofs.QuotedWords
import Calculator.Proofs.Settings

/-!
# The lines of init files

Every line of an init file is evaluated, changes an option, or is skipped.  Lines of the three kinds
do not get in each other's way: what is evaluated does not depend on the options, and the options do
not depend on what is evaluated.  The main statement is that loading a file sorts its lines like
this, and that a line which changes an option may be moved past all lines that do not.
-/

namespace Calculator

namespace InitFile

/-! ## Kinds of lines -/

/-- A line to evaluate is not blank, and begins with neither a semicolon nor a slash. -/
def IsStatement (raw : List Char) : Prop :=
  ∃ first rest, Text.trimChars raw = first :: rest ∧ first ≠ ';' ∧ first ≠ '/'

/-- A line has the command `/set` with words after it. -/
inductive IsSetting (raw : List Char) : List String → Prop
  | bare (trimmed : Text.trimChars raw = ['/', 's', 'e', 't']) : IsSetting raw []
  | spaced {words : List String} (blank : Char) (arguments : List Char)
      (isBlank : Text.isAsciiBlank blank = true)
      (trimmed : Text.trimChars raw = ['/', 's', 'e', 't'] ++ blank :: arguments)
      (hasWords : HasWords words (Text.trimChars arguments)) : IsSetting raw words

/-- A line changes an option. -/
def Sets (raw : List Char) (setting : Setting) : Prop :=
  ∃ words, IsSetting raw words ∧ Setting.Means words (.ok setting)

section Kinds

variable {raw : List Char} {words : List String} {text : String}

theorem ofChars_of_uncut {command : List Char} (trimmed : Text.trimChars raw = '/' :: command)
    (uncut : Text.splitFirst? Text.isAsciiBlank command = none) :
    Line.ofChars raw = if command = ['s', 'e', 't'] then .setting [] else .skipped := by
  have noWords : wordsOf (Text.trimChars []) = [] := rfl
  simp only [Line.ofChars, trimmed, uncut, Option.getD_none, noWords]

/-- The command of a line ends at the first blank. -/
theorem ofChars_of_cut {rest command arguments : List Char}
    (trimmed : Text.trimChars raw = '/' :: rest)
    (cut : Text.splitFirst? Text.isAsciiBlank rest = some (command, arguments)) :
    Line.ofChars raw =
      if command = ['s', 'e', 't'] then .setting (wordsOf (Text.trimChars arguments))
      else .skipped := by
  simp only [Line.ofChars, trimmed, cut, Option.getD_some]

/-- A line without a command is skipped, or it is evaluated without the blanks at its ends. -/
theorem ofChars_of_plain (plain : ∀ rest, Text.trimChars raw ≠ '/' :: rest) :
    Line.ofChars raw = .skipped ∧ ¬IsStatement raw ∨
      Line.ofChars raw = .statement (String.ofList (Text.trimChars raw)) ∧ IsStatement raw := by
  unfold Line.ofChars IsStatement
  cases trimmed : Text.trimChars raw with
  | nil => simp
  | cons first rest =>
      have notSlash : first ≠ '/' := fun isSlash => plain rest (by rw [trimmed, isSlash])
      by_cases isComment : first = ';'
      · subst isComment
        exact Or.inl ⟨rfl, by simp⟩
      · exact Or.inr (by simp [isComment, notSlash])

theorem ofChars_eq_statement_iff :
    Line.ofChars raw = .statement text ↔
      IsStatement raw ∧ text = String.ofList (Text.trimChars raw) := by
  by_cases isCommand : ∃ rest, Text.trimChars raw = '/' :: rest
  · obtain ⟨rest, trimmed⟩ := isCommand
    have notStatement : ¬IsStatement raw := by
      rintro ⟨first, others, equal, -, notSlash⟩
      rw [trimmed] at equal
      exact notSlash (List.cons.inj equal).1.symm
    cases cut : Text.splitFirst? Text.isAsciiBlank rest with
    | none =>
        rw [ofChars_of_uncut trimmed cut]
        split <;> simp [notStatement]
    | some parts =>
        rw [ofChars_of_cut trimmed cut]
        split <;> simp [notStatement]
  · rcases ofChars_of_plain (not_exists.mp isCommand) with
      ⟨isSkipped, notStatement⟩ | ⟨isEvaluated, isStatement⟩
    · simp [isSkipped, notStatement]
    · simp [isEvaluated, isStatement, eq_comm]

theorem IsSetting.ofChars_eq (isSetting : IsSetting raw words) :
    Line.ofChars raw = .setting words := by
  cases isSetting with
  | bare trimmed =>
      rw [ofChars_of_uncut trimmed rfl]
      rfl
  | spaced blank arguments isBlank trimmed hasWords =>
      have noBlank : ∀ c ∈ ['s', 'e', 't'], Text.isAsciiBlank c = false := by
        simp [Text.isAsciiBlank]
      have cut : Text.splitFirst? Text.isAsciiBlank (['s', 'e', 't'] ++ blank :: arguments) =
          some (['s', 'e', 't'], arguments) :=
        Text.splitFirst?_eq_some_iff.mpr ⟨noBlank, blank, isBlank, rfl⟩
      rw [ofChars_of_cut trimmed cut, wordsOf_eq_iff.mpr hasWords]
      exact if_pos rfl

theorem isSetting_of_ofChars (found : Line.ofChars raw = .setting words) :
    IsSetting raw words := by
  by_cases isCommand : ∃ rest, Text.trimChars raw = '/' :: rest
  · obtain ⟨rest, trimmed⟩ := isCommand
    cases cut : Text.splitFirst? Text.isAsciiBlank rest with
    | none =>
        rw [ofChars_of_uncut trimmed cut] at found
        split at found
        · next isSet =>
          cases found
          exact .bare (by rw [trimmed, isSet])
        · cases found
    | some parts =>
        obtain ⟨command, arguments⟩ := parts
        obtain ⟨-, blank, isBlank, rfl⟩ := Text.splitFirst?_eq_some_iff.mp cut
        rw [ofChars_of_cut trimmed cut] at found
        split at found
        · next isSet =>
          cases found
          exact .spaced blank arguments isBlank (by rw [trimmed, isSet]; rfl)
            (wordsOf_eq_iff.mp rfl)
        · cases found
  · rcases ofChars_of_plain (not_exists.mp isCommand) with ⟨isSkipped, -⟩ | ⟨isEvaluated, -⟩
    · rw [isSkipped] at found
      cases found
    · rw [isEvaluated] at found
      cases found

theorem ofChars_eq_setting_iff : Line.ofChars raw = .setting words ↔ IsSetting raw words :=
  ⟨isSetting_of_ofChars, IsSetting.ofChars_eq⟩

end Kinds

/-! ## Numbered lines -/

section Numbers

variable {α : Type}

/-- What is selected from lines, with the numbers of the lines, the first of which is given. -/
def numbered (select : List Char → Option α) (number : Nat) (raws : List (List Char)) :
    List (Nat × α) :=
  (raws.zipIdx number).filterMap fun entry => (select entry.1).map (entry.2, ·)

variable {select : List Char → Option α} {number : Nat} {raw : List Char}
  {raws : List (List Char)}

theorem numbered_cons :
    numbered select number (raw :: raws) =
      ((select raw).map (number, ·)).toList ++ numbered select (number + 1) raws := by
  rw [numbered, List.zipIdx_cons, List.filterMap_cons]
  cases select raw <;> rfl

theorem mem_numbered {entry : Nat × α} :
    entry ∈ numbered select number raws ↔
      ∃ raw, (raw, entry.1) ∈ raws.zipIdx number ∧ select raw = some entry.2 := by
  rw [numbered, List.mem_filterMap]
  constructor
  · rintro ⟨⟨raw, place⟩, member, selected⟩
    obtain ⟨value, isValue, rfl⟩ := Option.map_eq_some_iff.mp selected
    exact ⟨raw, member, isValue⟩
  · rintro ⟨raw, member, isValue⟩
    exact ⟨(raw, entry.1), member, by rw [isValue]; rfl⟩

theorem pairwise_numbered : (numbered select number raws).Pairwise (·.1 < ·.1) := by
  induction raws generalizing number with
  | nil => exact .nil
  | cons raw others ih =>
      rw [numbered_cons]
      cases select raw with
      | none => exact ih
      | some value =>
          refine List.Pairwise.cons (fun entry later => ?_) ih
          obtain ⟨other, member, -⟩ := mem_numbered.mp later
          exact List.le_snd_of_mem_zipIdx member

theorem map_snd_numbered (number : Nat) :
    (numbered select number raws).map Prod.snd = raws.filterMap select := by
  induction raws generalizing number with
  | nil => rfl
  | cons raw others ih =>
      rw [numbered_cons, List.map_append, ih, List.filterMap_cons]
      cases select raw <;> rfl

end Numbers

/-! ## What loading gathers -/

/-- The text that is evaluated for a line. -/
def statement? (raw : List Char) : Option String :=
  match Line.ofChars raw with
  | .statement text => some text
  | _ => none

/-- The words of a line that has the command `/set`. -/
def words? (raw : List Char) : Option (List String) :=
  match Line.ofChars raw with
  | .setting words => some words
  | _ => none

/-- The fault in words after a `/set` command. -/
def fault? (words : List String) : Option SettingFault :=
  match initial.set words with
  | .error fault => some fault
  | .ok _ => none

/-- The fault in a line. -/
def lineFault? (raw : List Char) : Option SettingFault :=
  (words? raw).bind fault?

/-- The message about a numbered line. -/
def lineFault (entry : Nat × SettingFault) : LineFault :=
  { line := entry.1, message := entry.2.message }

/-- An init file after words, which may be faulty. -/
def withWords (file : InitFile) (words : List String) : InitFile :=
  match file.set words with
  | .error _ => file
  | .ok changed => changed

/-- An init file after a numbered line. -/
def withLine (number : Nat) (raw : List Char) (file : InitFile) : InitFile :=
  match Line.ofChars raw with
  | .skipped => file
  | .statement text => { file with lines := file.lines ++ [(number, text)] }
  | .setting words => file.withWords words

theorem statement?_eq_some_iff {raw : List Char} {text : String} :
    statement? raw = some text ↔ IsStatement raw ∧ text = String.ofList (Text.trimChars raw) := by
  rw [← ofChars_eq_statement_iff, statement?]
  cases Line.ofChars raw <;> simp

theorem words?_eq_some_iff {raw : List Char} {words : List String} :
    words? raw = some words ↔ IsSetting raw words := by
  rw [← ofChars_eq_setting_iff, words?]
  cases Line.ofChars raw <;> simp

theorem fault?_eq_some_iff {words : List String} {fault : SettingFault} :
    fault? words = some fault ↔ Setting.Means words (.error fault) := by
  obtain ⟨verdict, means⟩ := Setting.exists_means words
  rw [fault?, means.set_eq]
  constructor
  · intro found
    cases verdict with
    | error other =>
        cases found
        exact means
    | ok setting => cases found
  · intro isFault
    rw [means.unique isFault]
    rfl

theorem lineFault?_eq_some_iff {raw : List Char} {fault : SettingFault} :
    lineFault? raw = some fault ↔
      ∃ words, IsSetting raw words ∧ Setting.Means words (.error fault) := by
  simp only [lineFault?, Option.bind_eq_some_iff, words?_eq_some_iff, fault?_eq_some_iff]

theorem withWords_of_fault {words : List String} {fault : SettingFault}
    (means : Setting.Means words (.error fault)) (file : InitFile) :
    file.withWords words = file := by
  rw [withWords, means.set_eq]
  rfl

theorem withWords_of_setting {words : List String} {setting : Setting}
    (means : Setting.Means words (.ok setting)) (file : InitFile) :
    file.withWords words = setting.change file := by
  rw [withWords, means.set_eq]
  rfl

theorem lines_withWords (file : InitFile) (words : List String) :
    (file.withWords words).lines = file.lines := by
  obtain ⟨verdict, means⟩ := Setting.exists_means words
  cases verdict with
  | error fault => rw [withWords_of_fault means]
  | ok setting =>
      rw [withWords_of_setting means]
      cases setting <;> rfl

section Loading

variable (number : Nat) (raw : List Char) (raws : List (List Char)) (file : InitFile)

theorem lines_withLine :
    (withLine number raw file).lines = file.lines ++ ((statement? raw).map (number, ·)).toList := by
  rw [withLine, statement?]
  cases Line.ofChars raw with
  | skipped => exact (List.append_nil _).symm
  | statement text => rfl
  | setting words => exact (lines_withWords file words).trans (List.append_nil _).symm

/-- Loading goes on after a line with what the line has changed, and keeps its fault. -/
theorem loadLines_cons :
    loadLines number (raw :: raws) file =
      let later := loadLines (number + 1) raws (withLine number raw file)
      (later.1, ((lineFault? raw).map (number, ·)).toList.map lineFault ++ later.2) := by
  rw [loadLines, withLine, lineFault?, words?]
  cases Line.ofChars raw with
  | skipped => rfl
  | statement text => rfl
  | setting words =>
      obtain ⟨verdict, means⟩ := Setting.exists_means words
      cases verdict with
      | error fault =>
          have isFault : fault? words = some fault := fault?_eq_some_iff.mpr means
          simp [means.set_eq, withWords_of_fault means, isFault, Except.map, lineFault]
      | ok setting =>
          have noFault : fault? words = none := by
            rw [fault?, means.set_eq]
            rfl
          simp [means.set_eq, withWords_of_setting means, noFault, Except.map]

theorem lines_loadLines :
    (loadLines number raws file).1.lines = file.lines ++ numbered statement? number raws := by
  induction raws generalizing number file with
  | nil => exact (List.append_nil _).symm
  | cons raw others ih => rw [loadLines_cons, ih, lines_withLine, numbered_cons, List.append_assoc]

theorem faults_loadLines :
    (loadLines number raws file).2 = (numbered lineFault? number raws).map lineFault := by
  induction raws generalizing number file with
  | nil => rfl
  | cons raw others ih =>
      rw [loadLines_cons, numbered_cons, List.map_append]
      dsimp only
      rw [ih]

end Loading

/-! ## Options -/

/-- A value is that of the last line which sets an option, or the first value of the option if no
line sets it. -/
def LastSet {α : Type} (option : α → Setting) (first : α) (raws : List (List Char)) (value : α) :
    Prop :=
  (∃ before raw after, raws = before ++ raw :: after ∧ Sets raw (option value) ∧
    ∀ later ∈ after, ∀ other, ¬Sets later (option other)) ∨
  value = first ∧ ∀ raw ∈ raws, ∀ other, ¬Sets raw (option other)

/-- A value in init files is that of an option. -/
structure IsOption {α : Type} (option : α → Setting) (get : InitFile → α) : Prop where
  set : ∀ value file, get ((option value).change file) = value
  others : ∀ setting : Setting, (∀ value, setting ≠ option value) →
    ∀ file, get (setting.change file) = get file
  lines : ∀ lines file, get { file with lines } = get file

section Options

variable {α : Type} {option : α → Setting} {get : InitFile → α} {raw : List Char}
  {raws : List (List Char)} {first value : α}

theorem LastSet.cons_of_sets {given : α} (sets : Sets raw (option given))
    (last : LastSet option given raws value) : LastSet option first (raw :: raws) value := by
  rcases last with ⟨before, place, after, rfl, placeSets, noLater⟩ | ⟨rfl, noLater⟩
  · exact Or.inl ⟨raw :: before, place, after, rfl, placeSets, noLater⟩
  · exact Or.inl ⟨[], raw, raws, rfl, sets, noLater⟩

theorem LastSet.cons_of_not_sets (setsNot : ∀ other, ¬Sets raw (option other))
    (last : LastSet option first raws value) : LastSet option first (raw :: raws) value := by
  rcases last with ⟨before, place, after, rfl, placeSets, noLater⟩ | ⟨isFirst, noLater⟩
  · exact Or.inl ⟨raw :: before, place, after, rfl, placeSets, noLater⟩
  · exact Or.inr ⟨isFirst, List.forall_mem_cons.mpr ⟨setsNot, noLater⟩⟩

theorem not_sets_of_words?_eq_none (noWords : words? raw = none) (setting : Setting) :
    ¬Sets raw setting := by
  rintro ⟨words, isSetting, -⟩
  rw [words?_eq_some_iff.mpr isSetting] at noWords
  cases noWords

theorem Sets.means {words : List String} {setting : Setting} (sets : Sets raw setting)
    (isSetting : IsSetting raw words) : Setting.Means words (.ok setting) := by
  obtain ⟨others, isOther, means⟩ := sets
  have same : words? raw = some others := words?_eq_some_iff.mpr isOther
  rw [words?_eq_some_iff.mpr isSetting] at same
  cases same
  exact means

theorem IsOption.withLine_cases (isOption : IsOption option get) (number : Nat) (raw : List Char)
    (file : InitFile) :
    Sets raw (option (get (withLine number raw file))) ∨
      (∀ other, ¬Sets raw (option other)) ∧ get (withLine number raw file) = get file := by
  cases line : Line.ofChars raw with
  | skipped =>
      refine Or.inr ⟨fun other => not_sets_of_words?_eq_none (by rw [words?, line]) _, ?_⟩
      rw [withLine, line]
  | statement text =>
      refine Or.inr ⟨fun other => not_sets_of_words?_eq_none (by rw [words?, line]) _, ?_⟩
      rw [withLine, line]
      exact isOption.lines _ file
  | setting words =>
      have isSetting : IsSetting raw words := ofChars_eq_setting_iff.mp line
      rw [withLine, line]
      dsimp only
      obtain ⟨verdict, means⟩ := Setting.exists_means words
      cases verdict with
      | error fault =>
          refine Or.inr ⟨fun other sets => ?_, by rw [withWords_of_fault means]⟩
          cases means.unique (sets.means isSetting)
      | ok setting =>
          rw [withWords_of_setting means]
          by_cases isOwn : ∃ value, setting = option value
          · obtain ⟨value, rfl⟩ := isOwn
            rw [isOption.set]
            exact Or.inl ⟨words, isSetting, means⟩
          · have foreign := not_exists.mp isOwn
            refine Or.inr ⟨fun other sets => ?_, isOption.others setting foreign file⟩
            exact foreign other (Except.ok.inj (means.unique (sets.means isSetting)))

/-- An option has the value of the last line that sets it. -/
theorem IsOption.lastSet (isOption : IsOption option get) (number : Nat)
    (raws : List (List Char)) (file : InitFile) :
    LastSet option (get file) raws (get (loadLines number raws file).1) := by
  induction raws generalizing number file with
  | nil => exact Or.inr ⟨rfl, nofun⟩
  | cons raw others ih =>
      rw [loadLines_cons]
      have later := ih (number + 1) (withLine number raw file)
      rcases isOption.withLine_cases number raw file with sets | ⟨setsNot, same⟩
      · exact .cons_of_sets sets later
      · rw [same] at later
        exact .cons_of_not_sets setsNot later

theorem isOption_maxDepth : IsOption .maxDepth (·.limits.maxDepth) where
  set _ _ := rfl
  others setting foreign file := by
    cases setting with
    | maxDepth limit => exact absurd rfl (foreign limit)
    | maxSteps limit => rfl
    | quiet on => rfl
  lines _ _ := rfl

theorem isOption_maxSteps : IsOption .maxSteps (·.limits.maxSteps) where
  set _ _ := rfl
  others setting foreign file := by
    cases setting with
    | maxDepth limit => rfl
    | maxSteps limit => exact absurd rfl (foreign limit)
    | quiet on => rfl
  lines _ _ := rfl

theorem isOption_quiet : IsOption .quiet (·.quiet) where
  set _ _ := rfl
  others setting foreign file := by
    cases setting with
    | maxDepth limit => rfl
    | maxSteps limit => rfl
    | quiet on => exact absurd rfl (foreign on)
  lines _ _ := rfl

theorem LastSet.holds {condition : α → Prop} (last : LastSet option first raws value)
    (ofFirst : condition first) (ofSet : ∀ raw other, Sets raw (option other) → condition other) :
    condition value := by
  rcases last with ⟨before, raw, after, -, sets, -⟩ | ⟨rfl, -⟩
  · exact ofSet raw value sets
  · exact ofFirst

end Options

/-! ## Whole files -/

/-- An init file holds what its lines say, and what is reported are the faults in them. -/
structure Holds (raws : List (List Char)) (file : InitFile) (reported : List LineFault) :
    Prop where
  /-- The lines to evaluate, without the blanks at their ends. -/
  statements : ∀ number text, (number, text) ∈ file.lines ↔
    ∃ raw, (raw, number) ∈ raws.zipIdx 1 ∧ IsStatement raw ∧
      text = String.ofList (Text.trimChars raw)
  statements_ordered : file.lines.Pairwise (·.1 < ·.1)
  /-- The faulty lines among those with the command `/set`. -/
  faults : ∀ fault, fault ∈ reported ↔
    ∃ raw words cause, (raw, fault.line) ∈ raws.zipIdx 1 ∧ IsSetting raw words ∧
      Setting.Means words (.error cause) ∧ fault.message = cause.message
  faults_ordered : reported.Pairwise (·.line < ·.line)
  /-- A faulty line neither is evaluated nor changes an option. -/
  faulty : ∀ raw words cause, IsSetting raw words → Setting.Means words (.error cause) →
    ¬IsStatement raw ∧ ∀ setting, ¬Sets raw setting
  maxDepth : LastSet .maxDepth Limits.standard.maxDepth raws file.limits.maxDepth
  maxSteps : LastSet .maxSteps Limits.standard.maxSteps raws file.limits.maxSteps
  quiet : LastSet .quiet false raws file.quiet
  maxDepth_pos : 0 < file.limits.maxDepth
  maxSteps_pos : 0 < file.limits.maxSteps

theorem IsSetting.not_isStatement {raw : List Char} {words : List String}
    (isSetting : IsSetting raw words) : ¬IsStatement raw := by
  intro isStatement
  have evaluated := ofChars_eq_statement_iff.mpr ⟨isStatement, rfl⟩
  rw [isSetting.ofChars_eq] at evaluated
  cases evaluated

theorem load_holds (text : String) :
    Holds (Text.linesOf text.toList) (load text).1 (load text).2 := by
  generalize raws : Text.linesOf text.toList = lines
  have gathered : (load text).1.lines = numbered statement? 1 lines := by
    rw [load, raws, lines_loadLines]
    rfl
  have faulted : (load text).2 = (numbered lineFault? 1 lines).map lineFault := by
    rw [load, raws, faults_loadLines]
  have depth : LastSet .maxDepth Limits.standard.maxDepth lines (load text).1.limits.maxDepth := by
    rw [load, raws]
    exact isOption_maxDepth.lastSet 1 lines initial
  have steps : LastSet .maxSteps Limits.standard.maxSteps lines (load text).1.limits.maxSteps := by
    rw [load, raws]
    exact isOption_maxSteps.lastSet 1 lines initial
  refine
    { statements := fun number text => ?_, statements_ordered := ?_, faults := fun fault => ?_,
      faults_ordered := ?_, faulty := fun raw words cause isSetting means => ?_,
      maxDepth := depth, maxSteps := steps, quiet := ?_, maxDepth_pos := ?_, maxSteps_pos := ?_ }
  · simp only [gathered, mem_numbered, statement?_eq_some_iff]
  · rw [gathered]
    exact pairwise_numbered
  · rw [faulted, List.mem_map]
    constructor
    · rintro ⟨⟨number, cause⟩, member, rfl⟩
      obtain ⟨raw, place, isFault⟩ := mem_numbered.mp member
      obtain ⟨words, isSetting, means⟩ := lineFault?_eq_some_iff.mp isFault
      exact ⟨raw, words, cause, place, isSetting, means, rfl⟩
    · rintro ⟨raw, words, cause, place, isSetting, means, isMessage⟩
      have isFault : lineFault? raw = some cause :=
        lineFault?_eq_some_iff.mpr ⟨words, isSetting, means⟩
      refine ⟨(fault.line, cause), mem_numbered.mpr ⟨raw, place, isFault⟩, ?_⟩
      rw [lineFault, ← isMessage]
  · rw [faulted]
    exact pairwise_numbered.map lineFault fun _ _ before => before
  · refine ⟨isSetting.not_isStatement, fun setting sets => ?_⟩
    cases means.unique (sets.means isSetting)
  · rw [load, raws]
    exact isOption_quiet.lastSet 1 lines initial
  · exact depth.holds (by decide) fun raw limit ⟨words, isSetting, means⟩ => means.maxDepth_pos
  · exact steps.holds (by decide) fun raw limit ⟨words, isSetting, means⟩ => means.maxSteps_pos

/-- Two files with the faults in their lines differ at most in the numbers of lines. -/
structure SameButNumbers (first second : InitFile × List LineFault) : Prop where
  limits : first.1.limits = second.1.limits
  quiet : first.1.quiet = second.1.quiet
  texts : first.1.lines.map Prod.snd = second.1.lines.map Prod.snd
  messages : first.2.map LineFault.message = second.2.map LineFault.message

/-- The options of an init file. -/
def withoutLines (file : InitFile) : InitFile :=
  { file with lines := [] }

theorem withWords_withoutLines (file : InitFile) (words : List String) :
    file.withoutLines.withWords words = (file.withWords words).withoutLines := by
  obtain ⟨verdict, means⟩ := Setting.exists_means words
  cases verdict with
  | error fault => rw [withWords_of_fault means, withWords_of_fault means]
  | ok setting =>
      rw [withWords_of_setting means, withWords_of_setting means]
      cases setting <;> rfl

/-- The options of a file are those that its `/set` lines lead to, one after another. -/
theorem options_loadLines (number : Nat) (raws : List (List Char)) (file : InitFile) :
    (loadLines number raws file).1.withoutLines =
      (raws.filterMap words?).foldl withWords file.withoutLines := by
  induction raws generalizing number file with
  | nil => rfl
  | cons raw others ih =>
      rw [loadLines_cons, ih, List.filterMap_cons, withLine, words?]
      cases Line.ofChars raw with
      | skipped => rfl
      | statement text => rfl
      | setting words => rw [List.foldl_cons, withWords_withoutLines]

/-- Apart from the numbers of lines, a file is given by its `/set` lines and by the lines that it
evaluates. -/
theorem sameButNumbers_load {first second : String}
    (sameSettings : (Text.linesOf first.toList).filterMap words? =
      (Text.linesOf second.toList).filterMap words?)
    (sameStatements : (Text.linesOf first.toList).filterMap statement? =
      (Text.linesOf second.toList).filterMap statement?) :
    SameButNumbers (load first) (load second) := by
  have messages (raws : List (List Char)) :
      (loadLines 1 raws initial).2.map LineFault.message =
        ((raws.filterMap words?).filterMap fault?).map SettingFault.message := by
    have selected : (fun raw => (words? raw).bind fault?) = lineFault? := rfl
    rw [faults_loadLines, List.map_map, List.filterMap_filterMap, selected,
      ← map_snd_numbered 1, List.map_map]
    rfl
  have options : (load first).1.withoutLines = (load second).1.withoutLines := by
    rw [load, load, options_loadLines, options_loadLines, sameSettings]
  have limits : (load first).1.withoutLines.limits = (load second).1.withoutLines.limits := by
    rw [options]
  have quiet : (load first).1.withoutLines.quiet = (load second).1.withoutLines.quiet := by
    rw [options]
  refine ⟨limits, quiet, ?_, ?_⟩
  · simp only [load, lines_loadLines, List.map_append, map_snd_numbered, sameStatements]
  · rw [load, load, messages, messages, sameSettings]

theorem evaluateLines_congr (engine : Pattern.Engine) {first second : List (Nat × String)}
    (same : first.map Prod.snd = second.map Prod.snd) (interpreter : Interpreter) :
    (evaluateLines engine first interpreter).2 = (evaluateLines engine second interpreter).2 ∧
      (evaluateLines engine first interpreter).1.map LineFault.message =
        (evaluateLines engine second interpreter).1.map LineFault.message := by
  induction first generalizing second interpreter with
  | nil =>
      cases second with
      | nil => exact ⟨rfl, rfl⟩
      | cons entry others => cases same
  | cons entry others ih =>
      cases second with
      | nil => cases same
      | cons entry' others' =>
          obtain ⟨number, text⟩ := entry
          obtain ⟨number', text'⟩ := entry'
          obtain ⟨sameText, sameLater⟩ := List.cons.inj same
          dsimp only at sameText
          subst sameText
          obtain ⟨sameState, sameMessages⟩ := ih sameLater (interpreter.evaluate engine text).2
          rw [evaluateLines, evaluateLines]
          dsimp only
          cases (interpreter.evaluate engine text).1 with
          | ok value => exact ⟨sameState, sameMessages⟩
          | error error => exact ⟨sameState, congrArg (error.message :: ·) sameMessages⟩

/-- Files that differ in the numbers of lines prepare an interpreter alike. -/
theorem SameButNumbers.apply {first second : InitFile × List LineFault}
    (same : SameButNumbers first second) (engine : Pattern.Engine) (interpreter : Interpreter) :
    (first.1.apply engine interpreter).2 = (second.1.apply engine interpreter).2 ∧
      (first.1.apply engine interpreter).1.map LineFault.message =
        (second.1.apply engine interpreter).1.map LineFault.message := by
  rw [InitFile.apply, InitFile.apply, same.limits, same.quiet]
  exact evaluateLines_congr engine same.texts _

section Moving

variable {passed : List (List Char)} {setting : List Char} {words : List String}

theorem filterMap_words?_passed (passes : ∀ line ∈ passed, ∀ words, ¬IsSetting line words) :
    passed.filterMap words? = [] := by
  refine List.filterMap_eq_nil_iff.mpr fun line member => ?_
  refine Option.eq_none_iff_forall_ne_some.mpr fun words isWords => ?_
  exact passes line member words (words?_eq_some_iff.mp isWords)

theorem IsSetting.statement?_eq (isSetting : IsSetting setting words) :
    statement? setting = none := by
  rw [statement?, isSetting.ofChars_eq]

end Moving

/-- Loading sorts the lines of a file: those to evaluate, faulty ones, and those that change an
option.  A line with the command `/set` can be moved past lines without it.  Then loading differs in
the numbers of lines alone, and every interpreter is prepared alike, with the same messages. -/
theorem load_sorts_lines :
    (∀ text, Holds (Text.linesOf text.toList) (load text).1 (load text).2) ∧
      ∀ (first second : String) (before passed after : List (List Char)) (setting : List Char)
        (words : List String),
        Text.linesOf first.toList = before ++ setting :: (passed ++ after) →
        Text.linesOf second.toList = before ++ (passed ++ setting :: after) →
        IsSetting setting words → (∀ line ∈ passed, ∀ others, ¬IsSetting line others) →
        SameButNumbers (load first) (load second) ∧
          ∀ engine interpreter,
            ((load first).1.apply engine interpreter).2 =
                ((load second).1.apply engine interpreter).2 ∧
              ((load first).1.apply engine interpreter).1.map LineFault.message =
                ((load second).1.apply engine interpreter).1.map LineFault.message := by
  refine ⟨load_holds, ?_⟩
  intro first second before passed after setting words isFirst isSecond isSetting passes
  have same : SameButNumbers (load first) (load second) := by
    refine sameButNumbers_load ?_ ?_
    · rw [isFirst, isSecond]
      simp only [List.filterMap_append, List.filterMap_cons, filterMap_words?_passed passes,
        List.nil_append]
    · rw [isFirst, isSecond]
      simp only [List.filterMap_append, List.filterMap_cons, isSetting.statement?_eq]
  exact ⟨same, fun engine interpreter => same.apply engine interpreter⟩

/-- A limit that no assignment can keep, set before a comment and an assignment or after them. -/
theorem load_sorts_lines_steps :
    let first := "/set max_steps 1\n; note\nx = 1 + 2\n/quit"
    let second := "; note\nx = 1 + 2\n/set max_steps 1\n/quit"
    let setting := "/set max_steps 1".toList
    let passed := ["; note".toList, "x = 1 + 2".toList]
    let after := ["/quit".toList]
    Text.linesOf first.toList = [] ++ setting :: (passed ++ after) ∧
      Text.linesOf second.toList = [] ++ (passed ++ setting :: after) ∧
      IsSetting setting ["max_steps", "1"] ∧
      (∀ line ∈ passed, ∀ others, ¬IsSetting line others) ∧
      SameButNumbers (load first) (load second) ∧
      ∀ engine interpreter,
        ((load first).1.apply engine interpreter).2 =
            ((load second).1.apply engine interpreter).2 ∧
          ((load first).1.apply engine interpreter).1.map LineFault.message =
            ((load second).1.apply engine interpreter).1.map LineFault.message := by
  intro first second setting passed after
  have isFirst : Text.linesOf first.toList = [] ++ setting :: (passed ++ after) := by
    decide +kernel
  have isSecond : Text.linesOf second.toList = [] ++ (passed ++ setting :: after) := by
    decide +kernel
  have isSetting : IsSetting setting ["max_steps", "1"] :=
    words?_eq_some_iff.mp (by decide +kernel)
  have passes : ∀ line ∈ passed, ∀ others, ¬IsSetting line others := by
    have noWords : ∀ line ∈ passed, words? line = none := by decide +kernel
    intro line member others isOther
    rw [← words?_eq_some_iff, noWords line member] at isOther
    cases isOther
  exact ⟨isFirst, isSecond, isSetting, passes,
    load_sorts_lines.2 first second [] passed after setting _ isFirst isSecond isSetting passes⟩

end InitFile

end Calculator
