import Calculator.Proofs.DelimitedParts
import Calculator.Proofs.RegexPlaces

/-!
# A match operator after an expression

A match operator that is written after an expression, with an operand behind it, takes what the
operator table gives it.  Only conjunctions and disjunctions bind looser, so those that no
parenthesis encloses wait for the match, and all else is matched.  The main statement is that the
operand and the match operator come in the program of the expression right before the operators
that wait.
-/

namespace Calculator

/-- The operators that bind looser than a match operator. -/
def BinaryOp.isLogical (op : BinaryOp) : Bool :=
  op == .and || op == .or

theorem Op.yieldsTo_regexMatch (op : BinaryOp) :
    (Op.binary op).yieldsTo (.binary .regexMatch) = !op.isLogical := by
  cases op <;> rfl

theorem Op.isLogical_iff (op : BinaryOp) :
    op.isLogical = true ↔ (Op.binary op).precedence ≤ 1 := by
  cases op <;> decide

namespace Tree

variable {α : Type}

/-- The tree of an expression with a match operator and an operand after it. -/
def matchedWith : Tree α → Tree α → Tree α
  | binary op left right, operand =>
    if op.isLogical then binary op left (right.matchedWith operand)
    else binary .regexMatch (binary op left right) operand
  | subject, operand => binary .regexMatch subject operand

/-- The conjunctions and disjunctions that no parenthesis encloses at the end of an expression, the
latest first. -/
def waiting : Tree α → List BinaryOp
  | binary op _ right => if op.isLogical then right.waiting ++ [op] else []
  | _ => []

section Grammar

variable {arity? : String → Option Nat} {tree operand : Tree α}

theorem mem_leading_matchedWith {later : BinaryOp}
    (member : later ∈ (tree.matchedWith operand).leading) :
    later ∈ tree.leading ∨ later = .regexMatch := by
  have taken (inTaken : later ∈ (binary .regexMatch tree operand).leading) :
      later ∈ tree.leading ∨ later = .regexMatch := by
    rwa [leading, List.mem_append, List.mem_singleton] at inTaken
  cases tree with
  | binary op left right =>
      rw [matchedWith] at member
      split at member
      · exact Or.inl member
      · exact taken member
  | _ => exact taken member

/-- An operator that waits at the end of a tree has one operand, or stands open in the tree. -/
theorem mem_pending_cases {earlier : Op} (member : earlier ∈ tree.pending) :
    (∃ sign, earlier = .unary sign) ∨ ∃ op ∈ tree.openOperators, earlier = .binary op := by
  induction tree with
  | unary sign body ih =>
      rcases List.mem_append.mp member with inside | isRoot
      · exact ih inside
      · exact Or.inl ⟨sign, List.mem_singleton.mp isRoot⟩
  | binary op left right _ ih =>
      rcases List.mem_append.mp member with inside | isRoot
      · refine (ih inside).imp_right ?_
        rintro ⟨inner, isOpen, rfl⟩
        exact ⟨inner, List.mem_append_right _ (List.mem_cons_of_mem _ isOpen), rfl⟩
      · refine Or.inr ⟨op, ?_, List.mem_singleton.mp isRoot⟩
        exact List.mem_append_right _ List.mem_cons_self
  | leaf | group | index | call => cases member

/-- Where the root is no conjunction and no disjunction, no open operator is one. -/
theorem not_isLogical_of_mem_openOperators (grammatical : tree.Grammatical arity?)
    (closed : tree.waiting = []) {inner : BinaryOp} (member : inner ∈ tree.openOperators) :
    inner.isLogical = false := by
  cases grammatical with
  | leaf | group | call => cases member
  | unary inside waits =>
      have isPower : inner = .power := eq_power_of_mem_openOperators inside
        (fun later isLater => Op.eq_power_of_unary_waits (waits later isLater)) member
      rw [isPower]
      rfl
  | index before inside primary =>
      rw [openOperators, openOperators_of_primary before primary] at member
      cases member
  | @binary op left right before after yields waits =>
      have tight : ¬op.isLogical = true := by
        intro logical
        rw [waiting, if_pos logical] at closed
        simp at closed
      have atLeast : (Op.binary op).precedence ≤ (Op.binary inner).precedence := by
        rcases List.mem_append.mp member with inLeft | inRoot
        · exact (left_followsTable before yields inLeft).1
        · rcases List.mem_cons.mp inRoot with isRoot | inRight
          · rw [isRoot]
          · exact (right_followsTable after waits inRight).1
      rw [Op.isLogical_iff] at tight
      rw [← Bool.not_eq_true, Op.isLogical_iff]
      omega

theorem yieldsTo_regexMatch_of_mem_pending (grammatical : tree.Grammatical arity?)
    (closed : tree.waiting = []) :
    ∀ earlier ∈ tree.pending, earlier.yieldsTo (.binary .regexMatch) = true := by
  intro earlier member
  rcases mem_pending_cases member with ⟨sign, rfl⟩ | ⟨op, isOpen, rfl⟩
  · cases sign <;> rfl
  · rw [Op.yieldsTo_regexMatch, not_isLogical_of_mem_openOperators grammatical closed isOpen]
    rfl

/-- The match operator stands in the tree where the operator table puts it. -/
theorem Grammatical.matchedWith (grammatical : tree.Grammatical arity?)
    (operandGrammatical : operand.Grammatical arity?) (noLeading : operand.leading = []) :
    (tree.matchedWith operand).Grammatical arity? := by
  have taken {tree : Tree α} (grammatical : tree.Grammatical arity?) (closed : tree.waiting = []) :
      (Tree.binary .regexMatch tree operand).Grammatical arity? := by
    refine .binary grammatical operandGrammatical
      (yieldsTo_regexMatch_of_mem_pending grammatical closed) ?_
    rw [noLeading]
    exact nofun
  induction grammatical with
  | @binary op left right before after yields waits _ afterIH =>
      cases logical : op.isLogical with
      | false =>
          have closed : (Tree.binary op left right).waiting = [] := by simp [waiting, logical]
          have isTaken := taken (.binary before after yields waits) closed
          simpa [Tree.matchedWith, logical] using isTaken
      | true =>
          rw [Tree.matchedWith, if_pos logical]
          refine .binary before afterIH yields fun later member => ?_
          rcases mem_leading_matchedWith member with earlier | rfl
          · exact waits later earlier
          · rw [Op.yieldsTo_regexMatch, logical]
            rfl
  | leaf value => exact taken (.leaf value) rfl
  | group inside => exact taken (.group inside) rfl
  | unary inside waits => exact taken (.unary inside waits) rfl
  | index before inside primary => exact taken (.index before inside primary) rfl
  | call inside complete => exact taken (.call inside complete) rfl

end Grammar

theorem lexemes_matchedWith (tree operand : Tree Leaf) :
    (tree.matchedWith operand).lexemes = tree.lexemes ++ Lexeme.matchSign :: operand.lexemes := by
  induction tree with
  | binary op left right _ ih =>
      rw [matchedWith]
      split
      · rw [lexemes_binary, lexemes_binary, ih, List.append_assoc, List.cons_append]
      · rfl
  | _ => rfl

/-- The operand and the match operator come right before the operators that wait. -/
theorem exists_program_matchedWith (tree : Tree Leaf) :
    ∃ matched : Program,
      tree.program = matched ++ tree.waiting.map (Token.op ∘ Op.binary) ∧
        ∀ operand : Tree Leaf, (tree.matchedWith operand).program =
          matched ++ operand.program ++
            .op (.binary .regexMatch) :: tree.waiting.map (Token.op ∘ Op.binary) := by
  induction tree with
  | binary op left right _ ih =>
      cases logical : op.isLogical with
      | false =>
          refine ⟨(binary op left right).program, by simp [waiting, logical], fun operand => ?_⟩
          simp [matchedWith, waiting, logical, program_binary]
      | true =>
          obtain ⟨matched, isRight, matchesRight⟩ := ih
          refine ⟨left.program ++ matched, ?_, fun operand => ?_⟩
          · simp [waiting, logical, program_binary, isRight]
          · simp [matchedWith, waiting, logical, program_binary, matchesRight]
  | _ => exact ⟨_, (List.append_nil _).symm, fun operand => by
      simp [matchedWith, waiting, program_binary]⟩

open Lexeme (Joins endsOperand matchSign startsOperand understood withProducts) in
theorem WrittenAs.matchedWith {arity? : String → Option Nat} {tree : Tree Leaf}
    {lexemes : List Lexeme} (written : tree.WrittenAs arity? lexemes) (leaf : Leaf) :
    (tree.matchedWith (.leaf leaf)).WrittenAs arity?
      (lexemes ++ [matchSign, .operand leaf.token]) where
  grammatical := written.grammatical.matchedWith (.leaf leaf) rfl
  inOrder := by
    simp [lexemes_matchedWith, matchSign, withProducts, understood, startsOperand, endsOperand,
      written.inOrder]
  joins := by simp [matchSign, Joins, endsOperand, written.joins]
  completes := by simp [matchSign, Lexeme.completes, endsOperand]

end Tree

/-- After a match operator every operand is read, a regular expression too. -/
theorem Lexeme.lexemesOf_matchOperand {arity? : String → Option Nat} {chars : List Char}
    {leaf : Leaf} (spells : Spells chars leaf) :
    lexemesOf arity? Tree.afterOperandMode (" =~ ".toList ++ chars) =
      .ok [matchSign, .operand leaf.token] := by
  have signRead : next arity? Tree.afterOperandMode (" =~ ".toList ++ chars) =
      .ok (some (matchSign, '=' :: '~' :: ' ' :: chars, ' ' :: chars)) := rfl
  have operandRead : next arity? { afterOperand := false, inPattern := true } (chars ++ []) =
      .ok (some (.operand leaf.token, chars ++ [], [])) :=
    readsAs_of_spells spells rfl (fun _ => rfl) [] nofun
  rw [List.append_nil] at operandRead
  have afterSign : Tree.afterOperandMode.after matchSign =
      { afterOperand := false, inPattern := true } := rfl
  rw [lexemesOf_of_next signRead, afterSign, lexemesOf_congr (next_blank chars),
    lexemesOf_of_next operandRead, lexemesOf_nil]
  rfl

/-- The program of an expression with a match operator and an operand after it: both come right
before the conjunctions and disjunctions that wait at the end of the expression. -/
theorem exists_convert_matchOperand {arity? : String → Option Nat} {source : String}
    {program : Program} (converted : convert arity? source = .ok program) :
    ∃ (lexemes : List Lexeme) (tree : Tree Leaf) (matched : Program),
      Lexeme.sequence arity? source = .ok lexemes ∧ tree.Grammatical arity? ∧
      tree.lexemes = Lexeme.withProducts false lexemes ∧
      program = matched ++ tree.waiting.map (Token.op ∘ Op.binary) ∧
      ∀ (operand : String) (leaf : Leaf), Spells operand.toList leaf →
        convert arity? (source ++ " =~ " ++ operand) =
          .ok (matched ++ leaf.token :: .op (.binary .regexMatch) ::
            tree.waiting.map (Token.op ∘ Op.binary)) := by
  obtain ⟨tree, lexemes, written, rfl, cut, reads⟩ := exists_writtenAs_of_convert converted
  obtain ⟨matched, isProgram, withOperand⟩ := tree.exists_program_matchedWith
  refine ⟨lexemes, tree, matched, cut, written.grammatical, written.inOrder, isProgram, ?_⟩
  intro operand leaf spells
  have isMatched : (tree.matchedWith (.leaf leaf)).program = matched ++ leaf.token ::
      .op (.binary .regexMatch) :: tree.waiting.map (Token.op ∘ Op.binary) := by
    rw [withOperand, List.append_assoc]
    rfl
  rw [← isMatched]
  refine (written.matchedWith leaf).convert ?_
  have all : Lexeme.lexemesOf arity? LexMode.initial
      (source.toList ++ (" =~ ".toList ++ operand.toList)) = _ :=
    reads false (" =~ ".toList ++ operand.toList) (.blank _)
  rw [Lexeme.lexemesOf_matchOperand spells] at all
  rw [String.toList_append, String.toList_append, List.append_assoc, all]
  rfl

end Calculator
