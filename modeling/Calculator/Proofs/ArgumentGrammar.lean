import Calculator.CommandLine
import Mathlib.Data.List.Basic

/-!
# The grammar of arguments

The arguments of a command line are a sequence of items: expressions, and clusters of flags that may
end in an init file or in an expression.  An item takes one argument, or two where a cluster leaves
its expression to the next argument.  Two dashes may follow, and after them anything.  The main
statement is that the command line is read exactly by this grammar: what is read is what the items
say, and arguments that are no such sequence are refused at the first place where they cannot go on.
-/

namespace Calculator

/-- A flag that needs nothing after it. -/
inductive Flag
  | quiet
  | debug
  deriving DecidableEq

def Flag.letter : Flag → Char
  | quiet => 'q'
  | debug => 'd'

/-- The argument with the letters of flags and with other characters after them. -/
def clusterText (flags : List Flag) (ending : List Char) : String :=
  String.ofList ('-' :: (flags.map Flag.letter ++ ending))

/-- A part of a command line that has a meaning of its own. -/
inductive Item
  /-- An expression, which is not taken for flags. -/
  | positional (expression : String)
      (plain : expression = "-" ∨ expression.toList.head? ≠ some '-')
  | toggles (first : Flag) (others : List Flag)
  | skipInitFile (flags : List Flag)
  | initFile (flags : List Flag) (path : String) (nonempty : path ≠ "")
  /-- Flags with an expression in the same argument. -/
  | attached (flags : List Flag) (expression : String) (nonempty : expression ≠ "")
  /-- Flags with an expression in the next argument, which may be any text. -/
  | detached (flags : List Flag) (expression : String)

namespace Item

/-- How an item is written. -/
def arguments : Item → List String
  | positional expression _ => [expression]
  | toggles first others => [clusterText (first :: others) []]
  | skipInitFile flags => [clusterText flags ['f']]
  | initFile flags path _ => [clusterText flags ('f' :: path.toList)]
  | attached flags expression _ => [clusterText flags ('c' :: expression.toList)]
  | detached flags expression => [clusterText flags ['c'], expression]

def flagsOf : Item → List Flag
  | positional _ _ => []
  | toggles first others => first :: others
  | skipInitFile flags => flags
  | initFile flags _ _ => flags
  | attached flags _ _ => flags
  | detached flags _ => flags

def expression? : Item → Option String
  | positional expression _ => some expression
  | attached _ expression _ => some expression
  | detached _ expression => some expression
  | _ => none

/-- What an item says about the init file. -/
def initChoice? : Item → Option InitChoice
  | skipInitFile _ => some .skip
  | initFile _ path _ => some (.explicit path)
  | _ => none

end Item

namespace CommandLine

/-- The command line that items ask for, with the expressions after two dashes. -/
def ofItems (items : List Item) (rest : List String) : CommandLine where
  initFile := (items.filterMap Item.initChoice?).getLast?.getD .search
  expressions := items.filterMap Item.expression? ++ rest
  quiet := items.any (·.flagsOf.contains .quiet)
  debug := items.any (·.flagsOf.contains .debug)

/-- Arguments are read by the grammar as a command line, or they are refused. -/
inductive Reads : List String → Except UsageFault CommandLine → Prop
  | items (items : List Item) : Reads (items.flatMap Item.arguments) (.ok (ofItems items []))
  | separated (items : List Item) (expressions : List String) :
      Reads (items.flatMap Item.arguments ++ "--" :: expressions) (.ok (ofItems items expressions))
  /-- After items, and after flags in one argument, there is another letter. -/
  | unknownOption (items : List Item) (flags : List Flag) (letter : Char) (ending : List Char)
      (later : List String) (unknown : letter ∉ ['q', 'd', 'f', 'c'])
      (notSeparator : clusterText flags (letter :: ending) ≠ "--") :
      Reads (items.flatMap Item.arguments ++ clusterText flags (letter :: ending) :: later)
        (.error (.unknownOption letter))
  /-- There is no argument left for an expression. -/
  | missingExpression (items : List Item) (flags : List Flag) :
      Reads (items.flatMap Item.arguments ++ [clusterText flags ['c']])
        (.error .missingExpression)

/-! ## What is read -/

section Reading

variable {flags : List Flag} {line : CommandLine} {ending : List Char} {later : List String}

/-- A command line after flags have been read. -/
def withFlags (flags : List Flag) (line : CommandLine) : CommandLine :=
  { line with
    quiet := line.quiet || flags.contains .quiet
    debug := line.debug || flags.contains .debug }

theorem withFlags_nil (line : CommandLine) : withFlags [] line = line := by
  simp [withFlags]

theorem readCluster_flags (flags : List Flag) (ending : List Char) (line : CommandLine) :
    readCluster (flags.map Flag.letter ++ ending) line =
      readCluster ending (withFlags flags line) := by
  induction flags generalizing line with
  | nil => rw [withFlags_nil, List.map_nil, List.nil_append]
  | cons flag others ih =>
      rw [List.map_cons, List.cons_append]
      cases flag with
      | quiet => simp [Flag.letter, readCluster, ih, withFlags]
      | debug => simp [Flag.letter, readCluster, ih, withFlags]

theorem cluster?_clusterText (nonempty : flags ≠ [] ∨ ending ≠ []) :
    cluster? (clusterText flags ending) = some (flags.map Flag.letter ++ ending) := by
  rw [cluster?, clusterText, String.toList_ofList]
  cases letters : flags.map Flag.letter ++ ending with
  | nil => simp_all
  | cons first rest => rfl

/-- A cluster is not taken for the end of the flags, because a dash is no flag. -/
theorem clusterText_ne_separator (notDash : ending.head? ≠ some '-') :
    clusterText flags ending ≠ "--" := by
  intro equal
  have chars : flags.map Flag.letter ++ ending = ['-'] := by
    have sameChars := congrArg String.toList equal
    rw [clusterText, String.toList_ofList] at sameChars
    exact (List.cons.inj sameChars).2
  cases flags with
  | nil =>
      rw [List.map_nil, List.nil_append] at chars
      rw [chars] at notDash
      exact notDash rfl
  | cons flag others =>
      cases flag <;> cases chars

/-- What comes of the arguments after a cluster.  The first of them is an expression if the cluster
says so. -/
def readLater (later : List String) :
    Except UsageFault (CommandLine × Bool) → Except UsageFault CommandLine
  | .error fault => .error fault
  | .ok (line, false) => readArguments later line
  | .ok (line, true) =>
    match later with
    | [] => .error .missingExpression
    | expression :: rest => readArguments rest (line.addExpression expression)

theorem readArguments_clusterText (nonempty : flags ≠ [] ∨ ending ≠ [])
    (notSeparator : clusterText flags ending ≠ "--") :
    readArguments (clusterText flags ending :: later) line =
      readLater later (readCluster ending (withFlags flags line)) := by
  rewrite [readArguments, if_neg notSeparator, cluster?_clusterText nonempty, ← readCluster_flags]
  rfl

theorem readArguments_letter {letter : Char} (notDash : letter ≠ '-') :
    readArguments (clusterText flags (letter :: ending) :: later) line =
      readLater later (readCluster (letter :: ending) (withFlags flags line)) := by
  have notSeparator : clusterText flags (letter :: ending) ≠ "--" :=
    clusterText_ne_separator fun isDash => notDash (Option.some.inj isDash)
  exact readArguments_clusterText (Or.inr (List.cons_ne_nil letter ending)) notSeparator

/-- A command line after an item has been read. -/
def withItem (item : Item) (line : CommandLine) : CommandLine where
  initFile := item.initChoice?.getD line.initFile
  expressions := line.expressions ++ item.expression?.toList
  quiet := line.quiet || item.flagsOf.contains .quiet
  debug := line.debug || item.flagsOf.contains .debug

theorem readArguments_positional {expression : String}
    (plain : expression = "-" ∨ expression.toList.head? ≠ some '-') :
    readArguments (expression :: later) line =
      readArguments later (line.addExpression expression) := by
  have notSeparator : expression ≠ "--" := by
    rintro rfl
    rcases plain with equal | notDash
    · exact absurd equal (by decide)
    · exact notDash rfl
  have noCluster : cluster? expression = none := by
    unfold cluster?
    split
    · next letter rest chars =>
      rcases plain with rfl | notDash
      · cases chars
      · rw [chars] at notDash
        exact absurd rfl notDash
    · rfl
  rw [readArguments, if_neg notSeparator, noCluster]

theorem readArguments_item (item : Item) (later : List String) (line : CommandLine) :
    readArguments (item.arguments ++ later) line = readArguments later (withItem item line) := by
  cases item with
  | positional expression plain =>
      rw [Item.arguments, List.singleton_append, readArguments_positional plain]
      simp [withItem, Item.initChoice?, Item.expression?, Item.flagsOf, addExpression]
  | toggles first others =>
      have isCluster : clusterText (first :: others) [] ≠ "--" := clusterText_ne_separator nofun
      rw [Item.arguments, List.singleton_append,
        readArguments_clusterText (Or.inl (List.cons_ne_nil _ _)) isCluster]
      simp [readLater, readCluster, withFlags, withItem, Item.initChoice?, Item.expression?,
        Item.flagsOf]
  | skipInitFile flags =>
      rw [Item.arguments, List.singleton_append, readArguments_letter (by decide)]
      simp [readLater, readCluster, withFlags, withItem, Item.initChoice?, Item.expression?,
        Item.flagsOf]
  | initFile flags path nonempty =>
      rw [Item.arguments, List.singleton_append, readArguments_letter (by decide)]
      simp [readLater, readCluster, withFlags, withItem, Item.initChoice?, Item.expression?,
        Item.flagsOf, nonempty]
  | attached flags expression nonempty =>
      rw [Item.arguments, List.singleton_append, readArguments_letter (by decide)]
      simp [readLater, readCluster, withFlags, withItem, Item.initChoice?, Item.expression?,
        Item.flagsOf, nonempty, addExpression]
  | detached flags expression =>
      rw [Item.arguments, List.cons_append, readArguments_letter (by decide)]
      simp [readLater, readCluster, withFlags, withItem, Item.initChoice?, Item.expression?,
        Item.flagsOf, addExpression]

/-- A command line after items have been read. -/
def withItems (items : List Item) (line : CommandLine) : CommandLine :=
  items.foldl (fun line item => withItem item line) line

theorem readArguments_items (items : List Item) (later : List String) (line : CommandLine) :
    readArguments (items.flatMap Item.arguments ++ later) line =
      readArguments later (withItems items line) := by
  induction items generalizing line with
  | nil => rfl
  | cons item others ih =>
      rw [List.flatMap_cons, List.append_assoc, readArguments_item, ih]
      rfl

/-- What has been read before items stays, but for an init file that they choose. -/
theorem withItems_eq (items : List Item) (line : CommandLine) :
    withItems items line =
      { initFile := (items.filterMap Item.initChoice?).getLast?.getD line.initFile
        expressions := line.expressions ++ items.filterMap Item.expression?
        quiet := line.quiet || items.any (·.flagsOf.contains .quiet)
        debug := line.debug || items.any (·.flagsOf.contains .debug) } := by
  induction items generalizing line with
  | nil => simp [withItems]
  | cons item others ih =>
      have step : withItems (item :: others) line = withItems others (withItem item line) := rfl
      rw [step, ih]
      cases choice : item.initChoice? <;> cases expression : item.expression? <;>
        simp [withItem, choice, expression, List.getLast?_cons, Bool.or_assoc]

theorem withItems_initial (items : List Item) (rest : List String) :
    let read := withItems items initial
    { read with expressions := read.expressions ++ rest } = ofItems items rest := by
  intro read
  simp [read, withItems_eq, ofItems, initial]

end Reading

/-- What the grammar says is what is read. -/
theorem Reads.parse_eq {arguments : List String} {outcome : Except UsageFault CommandLine}
    (reads : Reads arguments outcome) : parse arguments = outcome := by
  unfold parse
  cases reads with
  | items items =>
      have read := readArguments_items items [] initial
      rw [List.append_nil, readArguments] at read
      rw [read, ← withItems_initial, List.append_nil]
  | separated items expressions =>
      rw [readArguments_items, readArguments, if_pos rfl, ← withItems_initial]
  | unknownOption items flags letter ending later unknown notSeparator =>
      simp only [List.mem_cons, List.not_mem_nil, or_false, not_or] at unknown
      obtain ⟨notQuiet, notDebug, notFile, notExpression⟩ := unknown
      have nonempty : flags ≠ [] ∨ letter :: ending ≠ [] := Or.inr (List.cons_ne_nil letter ending)
      rw [readArguments_items, readArguments_clusterText nonempty notSeparator, readCluster,
        if_neg notDebug, if_neg notQuiet, if_neg notFile, if_neg notExpression]
      rfl
  | missingExpression items flags =>
      rw [readArguments_items, readArguments_letter (by decide)]
      rfl

/-! ## Every sequence of arguments -/

/-- The flags at the beginning of a cluster. -/
theorem exists_flags (letters : List Char) :
    ∃ (flags : List Flag) (ending : List Char), letters = flags.map Flag.letter ++ ending ∧
      ∀ next rest, ending = next :: rest → next ≠ 'q' ∧ next ≠ 'd' := by
  induction letters with
  | nil => exact ⟨[], [], rfl, nofun⟩
  | cons letter others ih =>
      obtain ⟨flags, ending, rfl, stops⟩ := ih
      by_cases isQuiet : letter = 'q'
      · exact ⟨.quiet :: flags, ending, by rw [isQuiet]; rfl, stops⟩
      · by_cases isDebug : letter = 'd'
        · exact ⟨.debug :: flags, ending, by rw [isDebug]; rfl, stops⟩
        · refine ⟨[], letter :: (flags.map Flag.letter ++ ending), rfl, ?_⟩
          rintro _ _ equal
          cases equal
          exact ⟨isQuiet, isDebug⟩

/-- What an argument can be where an item is expected. -/
inductive Opening : String → Prop
  | separator : Opening "--"
  | item (item : Item) {argument : String} (written : item.arguments = [argument]) :
      Opening argument
  /-- The expression comes in the next argument. -/
  | detached (flags : List Flag) : Opening (clusterText flags ['c'])
  | unknown (flags : List Flag) (letter : Char) (ending : List Char)
      (unknown : letter ∉ ['q', 'd', 'f', 'c'])
      (notSeparator : clusterText flags (letter :: ending) ≠ "--") :
      Opening (clusterText flags (letter :: ending))

theorem opening_of_cluster {flags : List Flag} {ending : List Char}
    (nonempty : flags.map Flag.letter ++ ending ≠ [])
    (stops : ∀ next rest, ending = next :: rest → next ≠ 'q' ∧ next ≠ 'd')
    (notSeparator : clusterText flags ending ≠ "--") : Opening (clusterText flags ending) := by
  cases ending with
  | nil =>
      cases flags with
      | nil => exact absurd rfl nonempty
      | cons first others => exact .item (.toggles first others) rfl
  | cons letter rest =>
      obtain ⟨notQuiet, notDebug⟩ := stops letter rest rfl
      have written : String.ofList rest ≠ "" ∨ rest = [] := by
        cases rest <;> simp
      by_cases isFile : letter = 'f'
      · subst isFile
        rcases written with named | rfl
        · exact .item (.initFile flags (String.ofList rest) named) (by simp [Item.arguments])
        · exact .item (.skipInitFile flags) rfl
      · by_cases isExpression : letter = 'c'
        · subst isExpression
          rcases written with given | rfl
          · exact .item (.attached flags (String.ofList rest) given) (by simp [Item.arguments])
          · exact .detached flags
        · exact .unknown flags letter rest (by simp_all) notSeparator

theorem opening (argument : String) : Opening argument := by
  by_cases isSeparator : argument = "--"
  · rw [isSeparator]
    exact .separator
  · by_cases plain : argument = "-" ∨ argument.toList.head? ≠ some '-'
    · exact .item (.positional argument plain) rfl
    · obtain ⟨notDash, dashed⟩ := not_or.mp plain
      obtain ⟨letters, chars⟩ := List.head?_eq_some_iff.mp (not_not.mp dashed)
      obtain ⟨flags, ending, rfl, stops⟩ := exists_flags letters
      have isCluster : argument = clusterText flags ending := by
        rw [clusterText, ← chars, String.ofList_toList]
      rw [isCluster] at isSeparator notDash ⊢
      refine opening_of_cluster (fun nothing => notDash ?_) stops isSeparator
      rw [clusterText, nothing]

theorem Reads.cons {later : List String} {outcome : Except UsageFault CommandLine} (item : Item)
    (reads : Reads later outcome) : ∃ extended, Reads (item.arguments ++ later) extended := by
  cases reads with
  | items items => exact ⟨_, .items (item :: items)⟩
  | separated items expressions =>
      rw [← List.append_assoc]
      exact ⟨_, .separated (item :: items) expressions⟩
  | unknownOption items flags letter ending rest unknown notSeparator =>
      rw [← List.append_assoc]
      exact ⟨_, .unknownOption (item :: items) flags letter ending rest unknown notSeparator⟩
  | missingExpression items flags =>
      rw [← List.append_assoc]
      exact ⟨_, .missingExpression (item :: items) flags⟩

/-- The grammar says something about all arguments. -/
theorem exists_reads : ∀ arguments : List String, ∃ outcome, Reads arguments outcome
  | [] => ⟨_, .items []⟩
  | argument :: rest => by
      cases opening argument with
      | separator => exact ⟨_, .separated [] rest⟩
      | item item written =>
          obtain ⟨outcome, reads⟩ := exists_reads rest
          rw [← List.singleton_append, ← written]
          exact reads.cons item
      | unknown flags letter ending unknown notSeparator =>
          exact ⟨_, .unknownOption [] flags letter ending rest unknown notSeparator⟩
      | detached flags =>
          match rest with
          | [] => exact ⟨_, .missingExpression [] flags⟩
          | expression :: later =>
              obtain ⟨outcome, reads⟩ := exists_reads later
              exact reads.cons (.detached flags expression)

/-- Arguments are read as the grammar says.  A sequence of items, perhaps with two dashes and
further expressions after it, is read as the command line that the items ask for, and all other
arguments are refused for an unknown letter or for a missing expression. -/
theorem parse_eq_iff (arguments : List String) (outcome : Except UsageFault CommandLine) :
    parse arguments = outcome ↔ Reads arguments outcome := by
  constructor
  · rintro rfl
    obtain ⟨outcome, reads⟩ := exists_reads arguments
    rwa [reads.parse_eq]
  · exact Reads.parse_eq

/-- The last `f` counts, and an expression in an argument of its own may look like flags. -/
example : parse ["-qf", "1", "-fa.calc", "-dc", "--", "--", "-f"] =
    .ok { initFile := .explicit "a.calc", expressions := ["1", "--", "-f"]
          quiet := true, debug := true } := by
  decide +kernel

end CommandLine

end Calculator
