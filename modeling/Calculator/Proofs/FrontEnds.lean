import Calculator.FileTree
import Calculator.Proofs.ArgumentGrammar
import Mathlib.Data.List.TakeWhile

/-!
# Expressions as arguments and as input lines

The application takes expressions from its command line or, if there are none, from the lines of its
input.  The two ways differ in where a text is cut: arguments come one by one, and the input is cut
at its line feeds, where a carriage return before a line feed is lost.  A session trims every line,
so that this makes no difference.  The main statement is that both ways lead to the same outcome.
-/

namespace Calculator

namespace Text

variable {chars blanks : List Char}

theorem dropTrailingBlanks_append_blanks (areBlank : ∀ c ∈ blanks, isBlank c = true) :
    dropTrailingBlanks (chars ++ blanks) = dropTrailingBlanks chars := by
  unfold dropTrailingBlanks
  rw [List.reverse_append, List.dropWhile_append_of_pos]
  simpa using areBlank

theorem trimChars_append_blanks (areBlank : ∀ c ∈ blanks, isBlank c = true) :
    trimChars (chars ++ blanks) = trimChars chars := by
  have allSkipped : blanks.dropWhile isBlank = [] := List.dropWhile_eq_nil_iff.mpr areBlank
  unfold trimChars skipBlanks
  rw [List.dropWhile_append, allSkipped]
  split
  · next empty => rw [List.isEmpty_iff.mp empty]
  · exact dropTrailingBlanks_append_blanks areBlank

/-- Up to a line feed, a text gives its first line, perhaps without a carriage return. -/
theorem exists_splitLine_feed (noFeed : '\n' ∉ chars) (rest : List Char) :
    ∃ line blanks, chars = line ++ blanks ∧ (∀ c ∈ blanks, isBlank c = true) ∧
      splitLine (chars ++ '\n' :: rest) = (line, some rest) := by
  induction chars with
  | nil => exact ⟨[], [], rfl, nofun, by simp [splitLine]⟩
  | cons c later ih =>
      rw [List.mem_cons, not_or] at noFeed
      by_cases isReturn : c = '\r' ∧ later = []
      · obtain ⟨rfl, rfl⟩ := isReturn
        exact ⟨[], ['\r'], rfl, List.forall_mem_singleton.mpr rfl, by simp [splitLine]⟩
      · obtain ⟨line, blanks, rfl, areBlank, split⟩ := ih noFeed.2
        refine ⟨c :: line, blanks, rfl, areBlank, ?_⟩
        rw [List.cons_append, splitLine, split]
        · exact fun isFeed => noFeed.1 isFeed.symm
        · -- A line feed comes right after the first character only if nothing else is left.
          intro after isReturned startsWithFeed
          have nothing : line ++ blanks = [] := by
            cases equal : line ++ blanks with
            | nil => rfl
            | cons first others =>
                rw [equal] at startsWithFeed noFeed
                simp_all
          exact isReturn ⟨isReturned, nothing⟩

theorem splitLine_of_no_feed (noFeed : '\n' ∉ chars) : splitLine chars = (chars, none) := by
  induction chars with
  | nil => rfl
  | cons c later ih =>
      rw [List.mem_cons, not_or] at noFeed
      rw [splitLine, ih noFeed.2]
      · exact fun isFeed => noFeed.1 isFeed.symm
      · rintro after - rfl
        simp at noFeed

theorem trim_append_blanks (areBlank : ∀ c ∈ blanks, isBlank c = true) :
    trim (String.ofList (chars ++ blanks)) = trim (String.ofList chars) := by
  simp only [trim, String.toList_ofList, trimChars_append_blanks areBlank]

theorem linesOf_feed (noFeed : '\n' ∉ chars) (rest : List Char) :
    ∃ line blanks, chars = line ++ blanks ∧ (∀ c ∈ blanks, isBlank c = true) ∧
      linesOf (chars ++ '\n' :: rest) = line :: linesOf rest := by
  obtain ⟨line, blanks, equal, areBlank, split⟩ := exists_splitLine_feed noFeed rest
  refine ⟨line, blanks, equal, areBlank, ?_⟩
  rw [linesOf]
  split
  · next first later found =>
    rw [split] at found
    cases found
    rfl
  · next first found =>
    rw [split] at found
    cases found

theorem linesOf_of_no_feed (noFeed : '\n' ∉ chars) :
    linesOf chars = if chars.isEmpty then [] else [chars] := by
  rw [linesOf]
  split
  · next first later found =>
    rw [splitLine_of_no_feed noFeed] at found
    cases found
  · next first found =>
    rw [splitLine_of_no_feed noFeed] at found
    cases found
    rfl

theorem toList_unlines_cons (line : String) (later : List String) :
    (unlines (line :: later)).toList = line.toList ++ '\n' :: (unlines later).toList := by
  simp [unlines, String.join_cons]

/-- Lines that end with line feeds are found again, blanks at their ends aside. -/
theorem map_trim_lines_unlines {texts : List String} (noFeeds : ∀ text ∈ texts, '\n' ∉ text.toList)
    (last : String) :
    (lines (unlines texts ++ last)).map trim = texts.map trim ++ (lines last).map trim := by
  induction texts with
  | nil => simp [unlines, lines]
  | cons text later ih =>
      obtain ⟨noFeed, noFeedLater⟩ := List.forall_mem_cons.mp noFeeds
      obtain ⟨line, blanks, equal, areBlank, cut⟩ :=
        linesOf_feed noFeed (unlines later ++ last).toList
      have trimmed : trim (String.ofList line) = trim text := by
        rw [← trim_append_blanks areBlank, ← equal, String.ofList_toList]
      have whole : (unlines (text :: later) ++ last).toList =
          text.toList ++ '\n' :: (unlines later ++ last).toList := by
        simp [toList_unlines_cons]
      calc (lines (unlines (text :: later) ++ last)).map trim
          = trim (String.ofList line) :: (lines (unlines later ++ last)).map trim := by
            rw [lines, whole, cut]
            rfl
        _ = (text :: later).map trim ++ (lines last).map trim := by
            rw [trimmed, ih noFeedLater]
            rfl

end Text

namespace Session

variable {engine : Pattern.Engine} {color : Bool} {style : Style}

theorem line_congr {raw other : String} (same : Text.trim raw = Text.trim other)
    (interpreter : Interpreter) :
    line engine color raw interpreter = line engine color other interpreter := by
  simp only [line, same]

/-- Without a prompt, lines are handled like expressions that are equal to them when trimmed. -/
theorem runLines_eq_runExpressions (noPrompt : style.prompt = false)
    {texts expressions : List String} (same : texts.map Text.trim = expressions.map Text.trim)
    (transcript : Transcript) (interpreter : Interpreter) :
    runLines engine style texts transcript interpreter =
      runExpressions engine style.color expressions transcript interpreter := by
  have silent (transcript : Transcript) : transcript.prompt style = transcript := by
    simp [Transcript.prompt, noPrompt]
  induction texts generalizing expressions transcript interpreter with
  | nil =>
      have nothing : expressions = [] := by simpa using same.symm
      rw [nothing, runLines, runExpressions, silent]
  | cons text later ih =>
      obtain ⟨expression, others, rfl, sameText, sameLater⟩ :=
        List.map_eq_cons_iff.mp same.symm
      rw [runLines, runExpressions, line_congr sameText.symm, silent]
      dsimp only
      split
      · rfl
      · exact ih sameLater.symm _ _

theorem Transcript.add_success_empty (transcript : Transcript) :
    transcript.add (Response.success "") = transcript := by
  simp [Transcript.add, Response.success]

theorem runExpressions_concat_empty (expressions : List String) (transcript : Transcript)
    (interpreter : Interpreter) :
    runExpressions engine color (expressions ++ [""]) transcript interpreter =
      runExpressions engine color expressions transcript interpreter := by
  induction expressions generalizing transcript interpreter with
  | nil =>
      have answer : line engine color "" interpreter = (Response.success "", interpreter) := rfl
      simp only [List.nil_append, runExpressions, answer]
      rw [transcript.add_success_empty]
      rfl
  | cons expression later ih =>
      rw [List.cons_append, runExpressions, runExpressions]
      dsimp only
      split
      · rfl
      · exact ih _ _

variable {expressions : List String}

theorem run_unlines (noPrompt : style.prompt = false)
    (noFeeds : ∀ expression ∈ expressions, '\n' ∉ expression.toList) (interpreter : Interpreter) :
    run engine style (Text.unlines expressions) interpreter =
      runExpressions engine style.color expressions Transcript.empty interpreter := by
  refine runLines_eq_runExpressions noPrompt ?_ Transcript.empty interpreter
  have cut := Text.map_trim_lines_unlines noFeeds ""
  have noLines : Text.lines "" = [] := by simp [Text.lines, Text.linesOf_of_no_feed]
  rwa [String.append_empty, noLines, List.map_nil, List.append_nil] at cut

/-- The line feed after the last line may be missing, also where that line is empty. -/
theorem run_unlines_append {last : String} (noPrompt : style.prompt = false)
    (noFeeds : ∀ expression ∈ expressions, '\n' ∉ expression.toList) (noFeed : '\n' ∉ last.toList)
    (interpreter : Interpreter) :
    run engine style (Text.unlines expressions ++ last) interpreter =
      runExpressions engine style.color (expressions ++ [last]) Transcript.empty interpreter := by
  have cut := Text.map_trim_lines_unlines noFeeds last
  by_cases isEmpty : last = ""
  · rw [isEmpty, String.append_empty, runExpressions_concat_empty]
    exact run_unlines noPrompt noFeeds interpreter
  · refine runLines_eq_runExpressions noPrompt ?_ Transcript.empty interpreter
    have single : Text.lines last = [last] := by
      simp [Text.lines, Text.linesOf_of_no_feed noFeed, isEmpty]
    rw [cut, single, List.map_append]

end Session

/-- The arguments that ask for an init file. -/
def InitChoice.arguments : InitChoice → List String
  | search => []
  | skip => ["-f"]
  | explicit path => ["-f" ++ path]

namespace CommandLine

/-- The arguments that ask for the evaluation of expressions. -/
def expressionArguments (expressions : List String) : List String :=
  expressions.flatMap fun expression => ["-c", expression]

theorem readArguments_expressionArguments (expressions : List String) (line : CommandLine) :
    readArguments (expressionArguments expressions) line =
      .ok { line with expressions := line.expressions ++ expressions } := by
  let items := expressions.map (Item.detached [])
  have written : expressionArguments expressions = items.flatMap Item.arguments := by
    rw [List.flatMap_map]
    rfl
  have read := readArguments_items items [] line
  rw [List.append_nil, ← written] at read
  rw [read, readArguments, withItems_eq]
  simp [items, List.filterMap_map, Function.comp_def, Item.initChoice?, Item.expression?,
    Item.flagsOf]

theorem exists_items_of_initChoice (choice : InitChoice) :
    ∃ items : List Item, choice.arguments = items.flatMap Item.arguments ∧
      items.filterMap Item.expression? = [] := by
  cases choice with
  | search => exact ⟨[], rfl, rfl⟩
  | skip => exact ⟨[.skipInitFile []], rfl, rfl⟩
  | explicit path =>
      by_cases isEmpty : path = ""
      · subst isEmpty
        exact ⟨[.skipInitFile []], rfl, rfl⟩
      · refine ⟨[.initFile [] path isEmpty], ?_, rfl⟩
        simp [InitChoice.arguments, Item.arguments, clusterText, ← String.toList_inj]

theorem readArguments_initChoice (choice : InitChoice) :
    ∃ line, line.expressions = [] ∧
      ∀ rest, readArguments (choice.arguments ++ rest) initial = readArguments rest line := by
  obtain ⟨items, written, noExpressions⟩ := exists_items_of_initChoice choice
  refine ⟨withItems items initial, ?_, fun rest => ?_⟩
  · rw [withItems_eq, noExpressions]
    rfl
  · rw [written, readArguments_items]

end CommandLine

namespace Application

variable (engine : Pattern.Engine) (around : Surroundings)

/-- Expressions that are given as arguments lead to the same outcome as the same expressions on the
lines of an input that is no terminal, whichever init file is asked for. -/
theorem run_expressions_eq_run_lines (choice : InitChoice) {expressions : List String}
    (nonempty : expressions ≠ [])
    (noFeeds : ∀ expression ∈ expressions, '\n' ∉ expression.toList) :
    let given : List String := choice.arguments ++ CommandLine.expressionArguments expressions
    let piped : Session.Style := { around.style with prompt := false }
    run engine { around with arguments := given } =
        run engine
          { around with
            arguments := choice.arguments, input := Text.unlines expressions, style := piped } ∧
      ∀ earlier last, expressions = earlier ++ [last] →
        run engine { around with arguments := given } =
          run engine
            { around with
              arguments := choice.arguments, input := Text.unlines earlier ++ last,
              style := piped } := by
  intro given piped
  obtain ⟨line, noExpressions, chosen⟩ := CommandLine.readArguments_initChoice choice
  have parsedGiven : CommandLine.parse given = .ok { line with expressions } := by
    rw [CommandLine.parse, chosen, CommandLine.readArguments_expressionArguments, noExpressions,
      List.nil_append]
  have parsedChoice : CommandLine.parse choice.arguments = .ok line := by
    have chosenAlone := chosen []
    rwa [List.append_nil] at chosenAlone
  -- What is left to compare are the sessions, because both start from the same interpreter.
  have agree {input : String}
      (same : ∀ interpreter, Session.run engine piped input interpreter =
        Session.runExpressions engine around.style.color expressions Session.Transcript.empty
          interpreter) :
      run engine { around with arguments := given } =
        run engine
          { around with arguments := choice.arguments, input, style := piped } := by
    simp only [run, parsedGiven, parsedChoice, runCommandLine, noExpressions, List.isEmpty_nil,
      List.isEmpty_iff, nonempty, if_true, if_false, same]
    rfl
  constructor
  · exact agree (Session.run_unlines rfl noFeeds)
  · rintro earlier last rfl
    obtain ⟨noFeedsEarlier, noFeedLast⟩ := List.forall_mem_append.mp noFeeds
    exact agree (Session.run_unlines_append rfl noFeedsEarlier
      (noFeedLast last (List.mem_singleton.mpr rfl)))

/-- An init file is found in the home directory, and the second of three expressions ends a session
that begins with what the file says. -/
theorem run_expressions_eq_run_lines_quit :
    let tree : FileTree := FileTree.ofFiles "/home" [(".safexprrc", "x = 2")]
    let around : Surroundings :=
      { arguments := [], input := "", style := { prompt := true, color := false }
        places := standardPlaces none (some "/home"), read := tree.read }
    let engine : Pattern.Engine := fun _ _ => .error "none"
    ["y = x\r", " /quit", "y"] ≠ [] ∧
      (∀ expression ∈ ["y = x\r", " /quit", "y"], '\n' ∉ expression.toList) ∧
      initPath? around .search = some "/home/.safexprrc" ∧
      around.read "/home/.safexprrc" = .ok "x = 2" ∧
      run engine { around with arguments := ["-c", "y = x\r", "-c", " /quit", "-c", "y"] } =
        run engine
          { around with
            arguments := [], input := "y = x\r\n /quit\ny\n"
            style := { prompt := false, color := false } } := by
  intro tree around engine
  have nonempty : ["y = x\r", " /quit", "y"] ≠ [] := by decide
  have noFeeds : ∀ expression ∈ ["y = x\r", " /quit", "y"], '\n' ∉ expression.toList := by decide
  have isFound : initPath? around .search = some "/home/.safexprrc" := by decide +kernel
  have isRead : around.read "/home/.safexprrc" = .ok "x = 2" := by decide +kernel
  exact ⟨nonempty, noFeeds, isFound, isRead,
    (run_expressions_eq_run_lines engine around .search nonempty noFeeds).1⟩

end Application

end Calculator
