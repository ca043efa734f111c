import Calculator.Proofs.Acceptance
import Calculator.Proofs.Continuation
import Calculator.Proofs.Derivation

/-!
# Omitted multiplication signs

Where an operand follows another one, the two are multiplied.  So the multiplication sign between
two operands may be omitted, and this is the only effect of two operands in a row: the main
statement is that an expression keeps its program when a multiplication sign is written at every
place where a pass over the expression multiplies without one.  The sign may stand anywhere among
the blanks between the operands.
-/

namespace Calculator

theorem LexMode.after_of_startsOperand {lexeme : Lexeme} (starts : lexeme.startsOperand = true) :
    LexMode.initial.after lexeme =
      LexMode.after { afterOperand := true, inPattern := false } lexeme := by
  cases lexeme with
  | operand | openGroup | openCall => rfl
  | _ => cases starts

namespace Lexeme

def multiplicationSign : Lexeme :=
  .operator (.binary .multiply)

theorem readAt_multiply {arity? : String → Option Nat} {mode : LexMode} (chars : List Char) :
    readAt arity? mode '*' chars = .ok (multiplicationSign, chars) := by
  have noNumeral : Decimal.Numeral.scan? ('*' :: chars) = none := rfl
  have ordinary : '*' ∉ marks := by decide
  rw [readAt_of_not_mem_marks ordinary, if_neg (by decide), readNumber, noNumeral]
  simp [readSign, doubleSign?, singleSign?, multiplicationSign]

/-- Where an operand follows another one, a multiplication sign may be written anywhere among the
blanks between the two. -/
theorem lexemesOf_multiply {arity? : String → Option Nat} {mode : LexMode} {lexeme : Lexeme}
    {blanks gap taken rest other : List Char}
    (settled : mode = { afterOperand := true, inPattern := false })
    (starts : lexeme.startsOperand = true)
    (read : next arity? mode ((blanks ++ gap) ++ (taken ++ rest)) =
      .ok (some (lexeme, taken ++ rest, rest)))
    (ends : lexeme.EndsBefore rest other) :
    lexemesOf arity? mode (blanks ++ '*' :: (gap ++ (taken ++ other))) =
      before [multiplicationSign, lexeme] (lexemesOf arity? (mode.after lexeme) other) := by
  obtain ⟨areBlanks, c, later, rfl, solid, found⟩ := exists_readAt_of_next read
  obtain ⟨beforeSign, afterSign⟩ := List.forall_mem_append.mp areBlanks
  rw [settled] at found ⊢
  -- The sign is read first, and then the lexeme as at the start of an expression.
  have signRead : next arity? { afterOperand := true, inPattern := false }
      (blanks ++ '*' :: (gap ++ (c :: later ++ other))) = _ :=
    next_of_blanks beforeSign rfl (readAt_multiply _)
  have readAlone : next arity? LexMode.initial ((blanks ++ gap) ++ (c :: later ++ rest)) =
      .ok (some (lexeme, c :: later ++ rest, rest)) :=
    next_of_blanks areBlanks solid (readAt_of_startsOperand found starts)
  have initial : LexMode.after { afterOperand := true, inPattern := false } multiplicationSign =
      LexMode.initial := rfl
  rw [lexemesOf_of_next signRead, initial,
    lexemesOf_of_next (next_of_taken readAlone afterSign ends), before_before,
    LexMode.after_of_startsOperand starts]
  rfl

end Lexeme

namespace Conversion

/-- A pass multiplies the operand that it has completed with the one that a lexeme starts. -/
def Juxtaposes (state : Conversion) (lexeme : Lexeme) : Prop :=
  state.afterOperand = true ∧ lexeme.startsOperand = true

/-- A second text is the rest of an expression with a multiplication sign at every place where a
pass, which stands in a state before that rest, multiplies without one. -/
inductive Starred (arity? : String → Option Nat) : Conversion → List Char → List Char → Prop
  | ended {state : Conversion} {blanks : List Char}
      (read : Lexeme.next arity? state.mode blanks = .ok none) : Starred arity? state blanks blanks
  | kept {state next : Conversion} {lexeme : Lexeme} {blanks taken rest starred : List Char}
      (read : Lexeme.next arity? state.mode (blanks ++ (taken ++ rest)) =
        .ok (some (lexeme, taken ++ rest, rest)))
      (accepted : state.accept arity? lexeme (taken ++ rest) rest = .ok next)
      (apart : ¬state.Juxtaposes lexeme) (later : Starred arity? next rest starred) :
      Starred arity? state (blanks ++ (taken ++ rest)) (blanks ++ (taken ++ starred))
  | inserted {state next : Conversion} {lexeme : Lexeme}
      {before after taken rest starred : List Char}
      (read : Lexeme.next arity? state.mode ((before ++ after) ++ (taken ++ rest)) =
        .ok (some (lexeme, taken ++ rest, rest)))
      (accepted : state.accept arity? lexeme (taken ++ rest) rest = .ok next)
      (joined : state.Juxtaposes lexeme) (later : Starred arity? next rest starred) :
      Starred arity? state ((before ++ after) ++ (taken ++ rest))
        (before ++ '*' :: (after ++ (taken ++ starred)))

section Passes

variable {arity? : String → Option Nat} {state : Conversion} {chars starred : List Char}

/-- The multiplication signs can be written. -/
theorem exists_starred_of_run {program : Program}
    (converted : state.run arity? chars = .ok program) :
    ∃ starred, Starred arity? state chars starred := by
  fun_induction run arity? state chars with
  | case1 state chars error read => cases converted
  | case2 state chars read => exact ⟨chars, .ended read⟩
  | case3 state chars lexeme source rest read error refused => cases converted
  | case4 state chars lexeme source rest read next accepted ih =>
      obtain ⟨starred, later⟩ := ih converted
      obtain ⟨blanks, taken, rfl, rfl⟩ := Lexeme.exists_taken_of_next read
      by_cases joined : state.Juxtaposes lexeme
      · rw [← List.append_nil blanks] at read ⊢
        exact ⟨_, .inserted read accepted joined later⟩
      · exact ⟨_, .kept read accepted joined later⟩

/-- An operand may end where a starred text begins. -/
theorem Starred.endsOperand (related : Starred arity? state chars starred)
    (after : state.afterOperand = true) : EndsOperand starred := by
  cases related with
  | ended read =>
      have areBlanks := Lexeme.isBlank_of_next_none read
      cases chars with
      | nil => exact nofun
      | cons c later => exact endsOperand_of_isBlank (areBlanks c List.mem_cons_self) later
  | @kept state next lexeme blanks taken rest starred read accepted apart later =>
      obtain ⟨areBlanks, c, others, rfl, -, found⟩ := Lexeme.exists_readAt_of_next read
      cases blanks with
      | nil =>
          refine Lexeme.endsOperand_of_readAt found ?_ _
          by_contra starts
          exact apart ⟨after, Bool.not_eq_false _ ▸ starts⟩
      | cons b blanks => exact endsOperand_of_isBlank (areBlanks b List.mem_cons_self) _
  | @inserted state next lexeme before gap taken rest starred read accepted joined later =>
      obtain ⟨areBlanks, -⟩ := Lexeme.exists_readAt_of_next read
      cases before with
      | nil =>
          rintro _ ⟨⟩
          decide
      | cons b blanks => exact endsOperand_of_isBlank (areBlanks b List.mem_cons_self) _

/-- No multiplication sign is understood where an operand has to begin. -/
theorem Starred.head?_eq (related : Starred arity? state chars starred)
    (before : state.afterOperand = false) : starred.head? = chars.head? := by
  cases related with
  | ended read => rfl
  | @kept state next lexeme blanks taken rest starred read accepted apart later =>
      obtain ⟨-, c, others, rfl, -⟩ := Lexeme.exists_readAt_of_next read
      cases blanks <;> rfl
  | inserted read accepted joined later =>
      rw [joined.1] at before
      cases before

/-- A lexeme may end where a starred text begins. -/
theorem Starred.endsBefore (related : Starred arity? state chars starred) {lexeme : Lexeme}
    (mode : state.afterOperand = lexeme.endsOperand) : lexeme.EndsBefore chars starred := by
  cases lexeme with
  | operand token => exact Or.inl (related.endsOperand mode)
  | operator sign => exact Or.inl (related.head?_eq mode)
  | _ => trivial

theorem Starred.lexemesOf (related : Starred arity? state chars starred) (tidy : state.Tidy) :
    ∃ lexemes, Lexeme.lexemesOf arity? state.mode chars = .ok lexemes ∧
      Lexeme.lexemesOf arity? state.mode starred =
        .ok (Lexeme.withProducts state.afterOperand lexemes) := by
  induction related with
  | @ended state blanks read =>
      have ended : Lexeme.lexemesOf arity? state.mode blanks = .ok [] :=
        Lexeme.lexemesOf_of_next_none read
      exact ⟨[], ended, ended⟩
  | @kept state next lexeme blanks taken rest starred read accepted apart later ih =>
      obtain ⟨nextTidy, nextMode⟩ := accept_mode tidy accepted
      have nextAfter := afterOperand_of_accept tidy accepted
      obtain ⟨lexemes, isRest, isStarred⟩ := ih nextTidy
      have areBlanks := (Lexeme.exists_readAt_of_next read).1
      have readAgain := Lexeme.next_of_taken read areBlanks (later.endsBefore nextAfter)
      have noSign : lexeme.understood state.afterOperand = [] := by
        rw [Lexeme.understood, if_neg]
        rwa [Bool.and_eq_true]
      refine ⟨lexeme :: lexemes, ?_, ?_⟩
      · rw [Lexeme.lexemesOf_of_next read, ← nextMode, isRest]
        rfl
      · rw [Lexeme.lexemesOf_of_next readAgain, ← nextMode, isStarred, Lexeme.withProducts, noSign,
          ← nextAfter]
        rfl
  | @inserted state next lexeme before gap taken rest starred read accepted joined later ih =>
      obtain ⟨nextTidy, nextMode⟩ := accept_mode tidy accepted
      have nextAfter := afterOperand_of_accept tidy accepted
      obtain ⟨lexemes, isRest, isStarred⟩ := ih nextTidy
      have withSign := Lexeme.lexemesOf_multiply (mode_of_afterOperand tidy joined.1) joined.2 read
        (later.endsBefore nextAfter)
      have sign : lexeme.understood state.afterOperand = [Lexeme.multiplicationSign] := by
        rw [Lexeme.understood, if_pos]
        · rfl
        · rw [Bool.and_eq_true]
          exact joined
      refine ⟨lexeme :: lexemes, ?_, ?_⟩
      · rw [Lexeme.lexemesOf_of_next read, ← nextMode, isRest]
        rfl
      · rw [withSign, ← nextMode, isStarred, Lexeme.withProducts, sign, ← nextAfter]
        rfl

end Passes

/-- An expression keeps its program when every multiplication sign that is understood between two
operands is written, and it can be written. -/
theorem convert_of_starred {arity? : String → Option Nat} {source : String} {program : Program}
    (converted : convert arity? source = .ok program) :
    (∃ starred : String, Starred arity? start source.toList starred.toList) ∧
      ∀ starred : String, Starred arity? start source.toList starred.toList →
        convert arity? starred = .ok program := by
  constructor
  · obtain ⟨starred, related⟩ := exists_starred_of_run converted
    exact ⟨String.ofList starred, by rwa [String.toList_ofList]⟩
  · intro starred related
    obtain ⟨lexemes, tree, sequenced, grammatical, treeLexemes, rfl⟩ :=
      exists_tree_of_convert converted
    obtain ⟨found, isSource, isStarred⟩ := related.lexemesOf start_tidy
    have same : found = lexemes := Except.ok.inj (isSource.symm.trans sequenced)
    refine convert_of_grammatical grammatical ?_
    rw [treeLexemes, ← same]
    exact isStarred

/-- Both signs are written, one before the blank and one where there is none. -/
theorem convert_of_starred_group :
    let arity? : String → Option Nat := fun _ => none
    let program : Program :=
      [.var "a", .var "b", .op (.binary .multiply), .var "c", .op (.binary .multiply)]
    convert arity? "a (b)c" = .ok program ∧ convert arity? "a* (b)*c" = .ok program := by
  intro arity? program
  have converted : convert arity? "a (b)c" = .ok program := by with_unfolding_all rfl
  have isSource : "a (b)c".toList = ['a', ' ', '(', 'b', ')', 'c'] := by decide
  have isStarred : "a* (b)*c".toList = ['a', '*', ' ', '(', 'b', ')', '*', 'c'] := by decide
  have related : Starred arity? start "a (b)c".toList "a* (b)*c".toList := by
    rw [isSource, isStarred]
    refine @Starred.kept _ _ _ _ [] ['a'] [' ', '(', 'b', ')', 'c'] _ rfl rfl
      (fun joined => Bool.false_ne_true joined.1) ?_
    refine @Starred.inserted _ _ _ _ [] [' '] ['('] ['b', ')', 'c'] _ rfl rfl ⟨rfl, rfl⟩ ?_
    refine @Starred.kept _ _ _ _ [] ['b'] [')', 'c'] _ rfl rfl
      (fun joined => Bool.false_ne_true joined.1) ?_
    refine @Starred.kept _ _ _ _ [] [')'] ['c'] _ rfl rfl
      (fun joined => Bool.false_ne_true joined.2) ?_
    refine @Starred.inserted _ _ _ _ [] [] ['c'] [] _ rfl rfl ⟨rfl, rfl⟩ ?_
    exact .ended rfl
  exact ⟨converted, (convert_of_starred converted).2 "a* (b)*c" related⟩

end Conversion

end Calculator
