import Calculator.Proofs.Brackets
import Calculator.Proofs.Continuation
import Calculator.Proofs.Printing
import Mathlib.Data.List.Forall2

/-!
# Expressions made of expressions

An expression in parentheses, in the brackets of an index or between the commas of a call is
converted there as it is by itself.  So the program of an expression that is put together from
delimited parts is put together from the programs of the parts.  The trees of the parts become
subtrees, and no operator outside of a part can take only some of it.
-/

namespace Calculator

namespace Lexeme

/-- Decide whether an operand is complete after lexemes. -/
def completes (afterOperand : Bool) : List Lexeme → Bool
  | [] => afterOperand
  | lexeme :: later => completes lexeme.endsOperand later

/-- An operand that directly follows another one is of a kind that may do so. -/
def Joins (afterOperand : Bool) : List Lexeme → Prop
  | [] => True
  | lexeme :: later =>
    (∀ token, lexeme = .operand token → afterOperand = true →
      Conversion.isJuxtaposable token = true) ∧ Joins lexeme.endsOperand later

section Sequences

variable (afterOperand : Bool) (first second : List Lexeme)

@[simp]
theorem completes_append :
    completes afterOperand (first ++ second) = completes (completes afterOperand first) second := by
  induction first generalizing afterOperand with
  | nil => rfl
  | cons lexeme later ih => exact ih lexeme.endsOperand

@[simp]
theorem joins_append : Joins afterOperand (first ++ second) ↔
    Joins afterOperand first ∧ Joins (completes afterOperand first) second := by
  induction first generalizing afterOperand with
  | nil => simp [Joins, completes]
  | cons lexeme later ih => simp [Joins, completes, ih, and_assoc]

@[simp]
theorem withProducts_append : withProducts afterOperand (first ++ second) =
    withProducts afterOperand first ++ withProducts (completes afterOperand first) second := by
  induction first generalizing afterOperand with
  | nil => rfl
  | cons lexeme later ih => simp [withProducts, completes, ih]

end Sequences

/-- Lexemes where they stand, with the multiplication signs that are understood. -/
def Located.withProducts (afterOperand : Bool) : List Located → List Located
  | [] => []
  | first :: later =>
    (first.lexeme.understood afterOperand).map (fun sign => ⟨sign, first.source, first.source⟩) ++
      first :: withProducts first.lexeme.endsOperand later

@[simp]
theorem Located.map_withProducts (afterOperand : Bool) (located : List Located) :
    (Located.withProducts afterOperand located).map Located.lexeme =
      Lexeme.withProducts afterOperand (located.map Located.lexeme) := by
  induction located generalizing afterOperand with
  | nil => rfl
  | cons first later ih => simp [withProducts, Lexeme.withProducts, ih, Function.comp_def]

end Lexeme

namespace Conversion

variable {arity? : String → Option Nat} {state final : Conversion}
  {located : List Lexeme.Located}

theorem joins_of_acceptAll (tidy : state.Tidy)
    (accepted : acceptAll arity? located state = .ok final) :
    Lexeme.Joins state.afterOperand (located.map Lexeme.Located.lexeme) ∧
      final.afterOperand =
        Lexeme.completes state.afterOperand (located.map Lexeme.Located.lexeme) := by
  induction located generalizing state with
  | nil =>
      cases accepted
      exact ⟨trivial, rfl⟩
  | cons first later ih =>
      rw [acceptAll] at accepted
      split at accepted
      · cases accepted
      · next middle firstAccepted =>
        have middleTidy := (accept_mode tidy firstAccepted).1
        obtain ⟨laterJoins, completed⟩ := ih middleTidy accepted
        rw [afterOperand_of_accept tidy firstAccepted] at laterJoins completed
        refine ⟨⟨fun token isOperand after => ?_, laterJoins⟩, completed⟩
        rw [isOperand] at firstAccepted
        cases juxtaposable : isJuxtaposable token with
        | true => rfl
        | false => simp [accept, acceptOperand, after, juxtaposable] at firstAccepted

/-- An operand after another one is read as if a multiplication sign stood between them. -/
theorem accept_pushBinary {lexeme : Lexeme} (after : state.afterOperand = true)
    (starts : lexeme.startsOperand = true)
    (joins : ∀ token, lexeme = .operand token → isJuxtaposable token = true)
    (source rest : List Char) :
    state.accept arity? lexeme source rest =
      (state.pushBinary .multiply).accept arity? lexeme source rest := by
  have joined : state.juxtapose = state.pushBinary .multiply := juxtapose_of_afterOperand after
  have pushed : (state.pushBinary .multiply).juxtapose = state.pushBinary .multiply :=
    juxtapose_of_beforeOperand rfl
  have pushedBefore : (state.pushBinary .multiply).afterOperand = false := rfl
  cases lexeme with
  | operand token =>
      simp [accept, acceptOperand, joins token rfl, joined, pushed, pushedBefore]
  | openGroup => simp only [accept, openGroup, joined, pushed]
  | openCall name => simp only [accept, openCall, joined, pushed]
  | closeGroup | comma | openIndex | closeIndex | operator => cases starts

/-- With the multiplication signs that are understood, lexemes are accepted as without them. -/
theorem acceptAll_withProducts (tidy : state.Tidy)
    (joins : Lexeme.Joins state.afterOperand (located.map Lexeme.Located.lexeme)) :
    acceptAll arity? (Lexeme.Located.withProducts state.afterOperand located) state =
      acceptAll arity? located state := by
  induction located generalizing state with
  | nil => rfl
  | cons first later ih =>
      obtain ⟨firstJoins, laterJoins⟩ := joins
      have fromFirst :
          acceptAll arity? (first :: Lexeme.Located.withProducts first.lexeme.endsOperand later)
            state = acceptAll arity? (first :: later) state := by
        rw [acceptAll, acceptAll]
        split
        · rfl
        · next middle accepted =>
          have middleTidy := (accept_mode tidy accepted).1
          have middleAfter := afterOperand_of_accept tidy accepted
          rw [← middleAfter] at laterJoins ⊢
          exact ih middleTidy laterJoins
      rw [Lexeme.Located.withProducts, Lexeme.understood]
      by_cases joined : (state.afterOperand && first.lexeme.startsOperand) = true
      · obtain ⟨after, starts⟩ := Bool.and_eq_true_iff.mp joined
        have signAccepted (source rest : List Char) :
            state.accept arity? (.operator (.binary .multiply)) source rest =
              .ok (state.pushBinary .multiply) := by
          simp [accept, acceptOperator, after]
        have sameAccept : state.accept arity? first.lexeme first.source first.rest = _ :=
          accept_pushBinary after starts (fun token isOperand => firstJoins token isOperand after)
            _ _
        rw [if_pos joined, List.map_cons, List.map_nil, List.singleton_append,
          acceptAll_cons_of_ok (signAccepted _ _), ← fromFirst, acceptAll, acceptAll, sameAccept]
      · rw [if_neg joined, List.map_nil, List.nil_append, fromFirst]

end Conversion

/-- Lexemes are those of an expression with a given tree. -/
structure Tree.WrittenAs (arity? : String → Option Nat) (tree : Tree Leaf)
    (lexemes : List Lexeme) : Prop where
  grammatical : tree.Grammatical arity?
  inOrder : tree.lexemes = Lexeme.withProducts false lexemes
  joins : Lexeme.Joins false lexemes
  completes : Lexeme.completes false lexemes = true

/-- The text of an expression, where an operand may start and a closing mark follows, is read as
given lexemes. -/
def Lexeme.ReadsPart (arity? : String → Option Nat) (chars : List Char) (lexemes : List Lexeme) :
    Prop :=
  ∀ (inPattern : Bool) (suffix : List Char), BeginsClosing suffix →
    lexemesOf arity? { afterOperand := false, inPattern } (chars ++ suffix) =
      before lexemes (lexemesOf arity? Tree.afterOperandMode suffix)

/-- An expression converts to the program of a tree, if its lexemes are those of the tree. -/
theorem Tree.WrittenAs.convert {arity? : String → Option Nat} {tree : Tree Leaf}
    {lexemes : List Lexeme} {source : String} (written : tree.WrittenAs arity? lexemes)
    (cut : Lexeme.lexemesOf arity? LexMode.initial source.toList = .ok lexemes) :
    convert arity? source = .ok tree.program := by
  obtain ⟨located, isLocated, rfl⟩ := map_eq_ok_iff.mp cut
  have accepted : Conversion.acceptAll arity? (Lexeme.Located.withProducts false located)
      Conversion.start = .ok (Conversion.start.afterTree tree) := by
    refine Conversion.follows_of_grammatical written.grammatical _ _ ?_ rfl trivial
    rw [Lexeme.Located.map_withProducts, written.inOrder]
  have same : Conversion.acceptAll arity? (Lexeme.Located.withProducts false located)
      Conversion.start = Conversion.acceptAll arity? located Conversion.start :=
    Conversion.acceptAll_withProducts Conversion.start_tidy written.joins
  exact Conversion.convert_eq_ok_iff.mpr
    ⟨located, _, isLocated, same.symm.trans accepted, Conversion.finish_afterTree tree⟩

theorem Conversion.afterOperand_of_finish {state : Conversion} {program : Program}
    (finished : state.finish = .ok program) : state.afterOperand = true := by
  unfold finish at finished
  split at finished
  · assumption
  · split at finished
    · cases finished
    · split at finished <;> cases finished

/-- An expression that converts has the same lexemes wherever a mark that separates lexemes follows
it. -/
theorem exists_writtenAs_of_convert {arity? : String → Option Nat} {source : String}
    {program : Program} (converted : convert arity? source = .ok program) :
    ∃ (tree : Tree Leaf) (lexemes : List Lexeme), tree.WrittenAs arity? lexemes ∧
      tree.program = program ∧ Lexeme.sequence arity? source = .ok lexemes ∧
      ∀ (inPattern : Bool) (suffix : List Char), Separates suffix →
        Lexeme.lexemesOf arity? { afterOperand := false, inPattern } (source.toList ++ suffix) =
          Lexeme.before lexemes (Lexeme.lexemesOf arity? Tree.afterOperandMode suffix) := by
  obtain ⟨lexemes, tree, cut, grammatical, inOrder, isProgram⟩ :=
    Conversion.exists_tree_of_convert converted
  obtain ⟨located, final, isLocated, accepted, finished⟩ :=
    Conversion.convert_eq_ok_iff.mp converted
  have sameLexemes : located.map Lexeme.Located.lexeme = lexemes := by
    rw [Lexeme.sequence, isLocated] at cut
    exact Except.ok.inj cut
  subst sameLexemes
  have completed := Conversion.afterOperand_of_finish finished
  obtain ⟨joins, completes⟩ := Conversion.joins_of_acceptAll Conversion.start_tidy accepted
  refine ⟨tree, _, ⟨grammatical, inOrder, joins, completes.symm.trans completed⟩,
    isProgram.symm, cut, ?_⟩
  intro inPattern suffix separates
  have widens : LexMode.initial.Widens { afterOperand := false, inPattern } := by
    cases inPattern with
    | false => exact Or.inl rfl
    | true => exact Or.inr ⟨rfl, rfl⟩
  exact Conversion.lexemesOf_append Conversion.start_tidy isLocated accepted completed widens
    separates

/-- An expression that converts can be a part of another one. -/
theorem exists_part_of_convert {arity? : String → Option Nat} {source : String}
    {program : Program} (converted : convert arity? source = .ok program) :
    ∃ (tree : Tree Leaf) (lexemes : List Lexeme), tree.WrittenAs arity? lexemes ∧
      tree.program = program ∧ Lexeme.ReadsPart arity? source.toList lexemes := by
  obtain ⟨tree, lexemes, written, isProgram, -, reads⟩ := exists_writtenAs_of_convert converted
  exact ⟨tree, lexemes, written, isProgram, fun inPattern suffix closing =>
    reads inPattern suffix closing.separates⟩

namespace Tree.WrittenAs

open Lexeme (Joins withProducts understood startsOperand endsOperand)

variable {arity? : String → Option Nat} {tree left right : Tree Leaf}
  {lexemes first second : List Lexeme}

theorem group (written : tree.WrittenAs arity? lexemes) :
    (Tree.group tree).WrittenAs arity? (.openGroup :: (lexemes ++ [.closeGroup])) where
  grammatical := .group written.grammatical
  inOrder := by
    simp [withProducts, understood, startsOperand, endsOperand, written.inOrder]
  joins := by simp [Joins, endsOperand, written.joins]
  completes := by simp [Lexeme.completes, endsOperand]

/-- An operator before a primary expression takes all of it. -/
theorem unary (written : tree.WrittenAs arity? lexemes) (primary : tree.rootOp? = none)
    (op : UnaryOp) :
    (Tree.unary op tree).WrittenAs arity? (.operator op.sign :: lexemes) where
  grammatical := .unary written.grammatical (by simp [Tree.leading_of_primary primary])
  inOrder := by
    simp [withProducts, understood, startsOperand, endsOperand, written.inOrder]
  joins := by simp [Joins, endsOperand, written.joins]
  completes := by simp [Lexeme.completes, endsOperand, written.completes]

theorem grammatical_binary (before : left.WrittenAs arity? first)
    (after : right.WrittenAs arity? second) (leftPrimary : left.rootOp? = none)
    (rightPrimary : right.rootOp? = none) (op : BinaryOp) :
    (Tree.binary op left right).Grammatical arity? := by
  refine .binary before.grammatical after.grammatical ?_ ?_
  · simp [Tree.pending_eq_nil_iff.mpr leftPrimary]
  · simp [Tree.leading_of_primary rightPrimary]

theorem binary (before : left.WrittenAs arity? first) (after : right.WrittenAs arity? second)
    (leftPrimary : left.rootOp? = none) (rightPrimary : right.rootOp? = none) (op : BinaryOp) :
    (Tree.binary op left right).WrittenAs arity? (first ++ .operator (.binary op) :: second) where
  grammatical := grammatical_binary before after leftPrimary rightPrimary op
  inOrder := by
    simp [withProducts, understood, startsOperand, endsOperand, before.inOrder, after.inOrder]
  joins := by simp [Joins, endsOperand, before.joins, after.joins]
  completes := by simp [Lexeme.completes, endsOperand, after.completes]

/-- A parenthesis after an operand multiplies. -/
theorem product (before : left.WrittenAs arity? first)
    (after : right.WrittenAs arity? (.openGroup :: second)) (leftPrimary : left.rootOp? = none)
    (rightPrimary : right.rootOp? = none) :
    (Tree.binary .multiply left right).WrittenAs arity? (first ++ .openGroup :: second) where
  grammatical := grammatical_binary before after leftPrimary rightPrimary .multiply
  inOrder := by
    simp [withProducts, understood, startsOperand, endsOperand, before.inOrder, after.inOrder,
      before.completes]
  joins := by
    have later := after.joins.2
    simp [Joins, endsOperand, before.joins] at later ⊢
    exact later
  completes := by
    have later := after.completes
    simpa [Lexeme.completes] using later

theorem index (before : left.WrittenAs arity? first) (inside : right.WrittenAs arity? second)
    (primary : left.rootOp? = none) :
    (Tree.index left right).WrittenAs arity?
      (first ++ .openIndex :: (second ++ [.closeIndex ']'])) where
  grammatical := .index before.grammatical inside.grammatical primary
  inOrder := by
    simp [withProducts, understood, startsOperand, endsOperand, before.inOrder, inside.inOrder]
  joins := by simp [Joins, endsOperand, before.joins, inside.joins]
  completes := by simp [Lexeme.completes, endsOperand]

/-- Arguments with commas between them. -/
theorem arguments {trees : List (Tree Leaf)} {parts : List (List Lexeme)}
    (each : List.Forall₂ (WrittenAs arity?) trees parts) :
    argumentLexemes trees = withProducts false ([.comma].intercalate parts) ∧
      Joins false ([.comma].intercalate parts) := by
  induction each with
  | nil => exact ⟨rfl, trivial⟩
  | cons first later ih =>
      cases later with
      | nil =>
          rw [List.intercalate_singleton]
          exact ⟨first.inOrder, first.joins⟩
      | cons second others =>
          obtain ⟨laterInOrder, laterJoins⟩ := ih
          rw [argumentLexemes_cons_cons, List.intercalate_cons_cons, List.append_assoc]
          constructor
          · simp [withProducts, understood, startsOperand, endsOperand, first.inOrder,
              laterInOrder]
          · simp [Joins, endsOperand, first.joins, laterJoins]

theorem call {trees : List (Tree Leaf)} {parts : List (List Lexeme)} {name : String}
    (each : List.Forall₂ (WrittenAs arity?) trees parts) (known : arity? name = some trees.length) :
    (Tree.call name trees).WrittenAs arity?
      (.openCall name :: ([.comma].intercalate parts ++ [.closeGroup])) where
  grammatical := by
    have both := each.imp fun tree part written => And.intro written.grammatical written
    exact .call ((List.forall₂_and_left _ _).mp both).1 known
  inOrder := by
    simp [lexemes_call, withProducts, understood, startsOperand, endsOperand, (arguments each).1]
  joins := by simp [Joins, endsOperand, (arguments each).2]
  completes := by simp [Lexeme.completes, endsOperand]

end Tree.WrittenAs

namespace Lexeme

open Calculator.Tree (afterOperandMode)

variable {arity? : String → Option Nat} {chars rest : List Char} {lexemes : List Lexeme}

theorem ReadsPart.group (reads : ReadsPart arity? chars lexemes) (mode : LexMode)
    (rest : List Char) :
    lexemesOf arity? mode ('(' :: (chars ++ ')' :: rest)) =
      before (.openGroup :: (lexemes ++ [.closeGroup]))
        (lexemesOf arity? afterOperandMode rest) := by
  have opens : next arity? mode ('(' :: (chars ++ ')' :: rest)) =
      .ok (some (.openGroup, _, chars ++ ')' :: rest)) := rfl
  have closes : next arity? afterOperandMode (')' :: rest) =
      .ok (some (.closeGroup, _, rest)) := rfl
  have inside := reads mode.inPattern (')' :: rest) (.group rest)
  rw [lexemesOf_of_next closes, before_before] at inside
  rw [lexemesOf_of_next opens, LexMode.after, inside, before_before]
  rfl

theorem ReadsPart.index (reads : ReadsPart arity? chars lexemes) (rest : List Char) :
    lexemesOf arity? afterOperandMode ('[' :: (chars ++ ']' :: rest)) =
      before (.openIndex :: (lexemes ++ [.closeIndex ']']))
        (lexemesOf arity? afterOperandMode rest) := by
  have opens : next arity? afterOperandMode ('[' :: (chars ++ ']' :: rest)) =
      .ok (some (.openIndex, _, chars ++ ']' :: rest)) := rfl
  have closes : next arity? afterOperandMode (']' :: rest) =
      .ok (some (.closeIndex ']', _, rest)) := rfl
  have inside := reads false (']' :: rest) (.index rest)
  rw [lexemesOf_of_next closes, before_before] at inside
  rw [lexemesOf_of_next opens, LexMode.after, inside, before_before]
  rfl

/-- Between parentheses an operator is read as a whole. -/
theorem lexemesOf_binary (op : BinaryOp) (rest : List Char) :
    lexemesOf arity? afterOperandMode (op.symbol.toList ++ '(' :: rest) =
      before [.operator (.binary op)]
        (lexemesOf arity? { afterOperand := false, inPattern := op == .regexMatch }
          ('(' :: rest)) := by
  have read : next arity? afterOperandMode (op.symbol.toList ++ '(' :: rest) =
      .ok (some (.operator (.binary op), op.symbol.toList ++ '(' :: rest, '(' :: rest)) := by
    cases op <;> rfl
  exact lexemesOf_of_next read

theorem lexemesOf_unary (op : UnaryOp) (rest : List Char) :
    lexemesOf arity? LexMode.initial (op.sourceSymbol.toList ++ '(' :: rest) =
      before [.operator op.sign] (lexemesOf arity? LexMode.initial ('(' :: rest)) := by
  have read : next arity? LexMode.initial (op.sourceSymbol.toList ++ '(' :: rest) =
      .ok (some (.operator op.sign, op.sourceSymbol.toList ++ '(' :: rest, '(' :: rest)) := by
    cases op <;> rfl
  rw [lexemesOf_of_next read]
  cases op <;> rfl

theorem lexemesOf_arguments {texts : List (List Char)} {parts : List (List Lexeme)}
    (each : List.Forall₂ (ReadsPart arity?) texts parts) (rest : List Char) :
    lexemesOf arity? LexMode.initial ([','].intercalate texts ++ ')' :: rest) =
      before ([.comma].intercalate parts ++ [.closeGroup])
        (lexemesOf arity? afterOperandMode rest) := by
  induction each with
  | nil => exact lexemesOf_of_next rfl
  | cons first later ih =>
      cases later with
      | nil =>
          have closes : next arity? afterOperandMode (')' :: rest) =
              .ok (some (.closeGroup, _, rest)) := rfl
          have inside := first false (')' :: rest) (.group rest)
          rw [lexemesOf_of_next closes, before_before] at inside
          rw [List.intercalate_singleton, List.intercalate_singleton]
          exact inside
      | cons second others =>
          have separates (tail : List Char) : next arity? afterOperandMode (',' :: tail) =
              .ok (some (.comma, _, tail)) := rfl
          have inside (tail : List Char) := first false (',' :: tail) (.comma tail)
          rw [List.intercalate_cons_cons, List.intercalate_cons_cons, List.append_assoc,
            List.append_assoc, List.append_assoc, List.append_assoc, List.singleton_append,
            List.singleton_append]
          refine (inside _).trans ?_
          rw [lexemesOf_of_next (separates _), LexMode.after, ← LexMode.initial, ih,
            before_before, before_before, List.append_assoc, List.singleton_append]

theorem lexemesOf_nil (mode : LexMode) : lexemesOf arity? mode [] = .ok [] :=
  lexemesOf_of_next_none rfl

end Lexeme

section Programs

open Lexeme (ReadsPart lexemesOf lexemesOf_nil)

variable {arity? : String → Option Nat} {source left right : String}
  {program leftProgram rightProgram : Program}

theorem convert_group (converted : convert arity? source = .ok program) :
    convert arity? ("(" ++ source ++ ")") = .ok program := by
  obtain ⟨tree, lexemes, written, rfl, reads⟩ := exists_part_of_convert converted
  refine written.group.convert ?_
  have cut := reads.group LexMode.initial []
  rw [lexemesOf_nil] at cut
  simpa using cut

theorem convert_unary (converted : convert arity? source = .ok program) (op : UnaryOp) :
    convert arity? (op.sourceSymbol ++ "(" ++ source ++ ")") =
      .ok (program ++ [.op (.unary op)]) := by
  obtain ⟨tree, lexemes, written, rfl, reads⟩ := exists_part_of_convert converted
  refine (written.group.unary rfl op).convert ?_
  have cut : lexemesOf arity? LexMode.initial _ = _ :=
    Lexeme.lexemesOf_unary op (source.toList ++ [')'])
  rw [reads.group LexMode.initial [], lexemesOf_nil] at cut
  simpa using cut

theorem convert_binary (leftConverted : convert arity? left = .ok leftProgram)
    (rightConverted : convert arity? right = .ok rightProgram) (op : BinaryOp) :
    convert arity? ("(" ++ left ++ ")" ++ op.symbol ++ "(" ++ right ++ ")") =
      .ok (leftProgram ++ rightProgram ++ [.op (.binary op)]) := by
  obtain ⟨first, firstLexemes, firstWritten, rfl, firstReads⟩ :=
    exists_part_of_convert leftConverted
  obtain ⟨second, secondLexemes, secondWritten, rfl, secondReads⟩ :=
    exists_part_of_convert rightConverted
  refine (firstWritten.group.binary secondWritten.group rfl rfl op).convert ?_
  have cut := firstReads.group LexMode.initial (op.symbol.toList ++ '(' :: (right.toList ++ [')']))
  rw [Lexeme.lexemesOf_binary, secondReads.group, lexemesOf_nil] at cut
  simpa using cut

/-- Expressions in parentheses that stand side by side are multiplied. -/
theorem convert_product (leftConverted : convert arity? left = .ok leftProgram)
    (rightConverted : convert arity? right = .ok rightProgram) :
    convert arity? ("(" ++ left ++ ")(" ++ right ++ ")") =
      .ok (leftProgram ++ rightProgram ++ [.op (.binary .multiply)]) := by
  obtain ⟨first, firstLexemes, firstWritten, rfl, firstReads⟩ :=
    exists_part_of_convert leftConverted
  obtain ⟨second, secondLexemes, secondWritten, rfl, secondReads⟩ :=
    exists_part_of_convert rightConverted
  refine (firstWritten.group.product secondWritten.group rfl rfl).convert ?_
  have cut := firstReads.group LexMode.initial ('(' :: (right.toList ++ [')']))
  rw [secondReads.group, lexemesOf_nil] at cut
  simpa using cut

theorem convert_index (leftConverted : convert arity? left = .ok leftProgram)
    (rightConverted : convert arity? right = .ok rightProgram) :
    convert arity? ("(" ++ left ++ ")[" ++ right ++ "]") =
      .ok (leftProgram ++ rightProgram ++ [.index]) := by
  obtain ⟨first, firstLexemes, firstWritten, rfl, firstReads⟩ :=
    exists_part_of_convert leftConverted
  obtain ⟨second, secondLexemes, secondWritten, rfl, secondReads⟩ :=
    exists_part_of_convert rightConverted
  refine (firstWritten.group.index secondWritten rfl).convert ?_
  have cut := firstReads.group LexMode.initial ('[' :: (right.toList ++ [']']))
  rw [secondReads.index, lexemesOf_nil] at cut
  simpa using cut

theorem exists_parts_of_convert {sources : List String} {programs : List Program}
    (converted : List.Forall₂ (fun source program => convert arity? source = .ok program) sources
      programs) :
    ∃ (trees : List (Tree Leaf)) (parts : List (List Lexeme)),
      List.Forall₂ (Tree.WrittenAs arity?) trees parts ∧ trees.length = sources.length ∧
        Tree.postorderAll Leaf.token trees = programs.flatten ∧
        List.Forall₂ (ReadsPart arity?) (sources.map String.toList) parts := by
  induction converted with
  | nil => exact ⟨[], [], .nil, rfl, rfl, .nil⟩
  | cons first later ih =>
      obtain ⟨tree, lexemes, written, isProgram, reads⟩ := exists_part_of_convert first
      obtain ⟨trees, parts, allWritten, length, programs, allRead⟩ := ih
      refine ⟨tree :: trees, lexemes :: parts, .cons written allWritten, ?_, ?_,
        .cons reads allRead⟩
      · simp [length]
      · rw [Tree.postorderAll, programs, List.flatten_cons, ← isProgram]
        rfl

theorem convert_call {sources : List String} {programs : List Program} {name : String}
    (identifier : isIdentifier name = true) (free : Lexeme.keyword? name = none)
    (known : arity? name = some sources.length)
    (converted : List.Forall₂ (fun source program => convert arity? source = .ok program) sources
      programs) :
    convert arity? (name ++ "(" ++ ",".intercalate sources ++ ")") =
      .ok (programs.flatten ++ [.call name sources.length]) := by
  obtain ⟨trees, parts, written, length, isProgram, reads⟩ := exists_parts_of_convert converted
  have treesKnown : arity? name = some trees.length := by rw [known, length]
  have isCall : (Tree.call name trees).program =
      programs.flatten ++ [.call name sources.length] := by
    rw [Tree.program, Tree.postorder, isProgram, length]
  rw [← isCall]
  refine (Tree.WrittenAs.call written treesKnown).convert ?_
  have opens : Lexeme.next arity? LexMode.initial
      (name.toList ++ '(' :: ([','].intercalate (sources.map String.toList) ++ [')'])) = _ :=
    Lexeme.next_openCall identifier free (by simp [known]) _
  have cut := Lexeme.lexemesOf_of_next opens
  rw [LexMode.after, ← LexMode.initial, Lexeme.lexemesOf_arguments reads [], lexemesOf_nil] at cut
  simpa using cut

/-- The program of an expression that is put together from delimited parts is put together from the
programs of the parts. -/
theorem convert_delimitedParts (arity? : String → Option Nat) :
    (∀ source program, convert arity? source = .ok program →
      convert arity? ("(" ++ source ++ ")") = .ok program ∧
        ∀ op : UnaryOp, convert arity? (op.sourceSymbol ++ "(" ++ source ++ ")") =
          .ok (program ++ [.op (.unary op)])) ∧
    (∀ left leftProgram right rightProgram, convert arity? left = .ok leftProgram →
      convert arity? right = .ok rightProgram →
        (∀ op : BinaryOp, convert arity? ("(" ++ left ++ ")" ++ op.symbol ++ "(" ++ right ++ ")") =
          .ok (leftProgram ++ rightProgram ++ [.op (.binary op)])) ∧
        convert arity? ("(" ++ left ++ ")(" ++ right ++ ")") =
          .ok (leftProgram ++ rightProgram ++ [.op (.binary .multiply)]) ∧
        convert arity? ("(" ++ left ++ ")[" ++ right ++ "]") =
          .ok (leftProgram ++ rightProgram ++ [.index])) ∧
    ∀ name sources programs, isIdentifier name = true → Lexeme.keyword? name = none →
      arity? name = some sources.length →
        List.Forall₂ (fun source program => convert arity? source = .ok program) sources programs →
          convert arity? (name ++ "(" ++ ",".intercalate sources ++ ")") =
            .ok (programs.flatten ++ [.call name sources.length]) := by
  refine ⟨fun source program converted => ?_, ?_, ?_⟩
  · exact ⟨convert_group converted, convert_unary converted⟩
  · intro left leftProgram right rightProgram leftConverted rightConverted
    exact ⟨convert_binary leftConverted rightConverted,
      convert_product leftConverted rightConverted, convert_index leftConverted rightConverted⟩
  · exact fun name sources programs => convert_call

/-- Around a sum, whose operator binds looser than those around it. -/
theorem convert_delimitedParts_sum :
    let arity? : String → Option Nat := fun name => if name = "max" then some 2 else none
    let sum : Program := [.var "a", .var "b", .op (.binary .add)]
    convert arity? "a+b" = .ok sum ∧ convert arity? "c" = .ok [.var "c"] ∧
      convert arity? "!(a+b)" = .ok (sum ++ [.op (.unary .not)]) ∧
      convert arity? "(a+b)=~(c)" = .ok (sum ++ [.var "c"] ++ [.op (.binary .regexMatch)]) ∧
      convert arity? "(c)(a+b)" = .ok ([.var "c"] ++ sum ++ [.op (.binary .multiply)]) ∧
      convert arity? "(a+b)[c]" = .ok (sum ++ [.var "c"] ++ [.index]) ∧
      convert arity? "max(c,a+b)" = .ok ([.var "c"] ++ sum ++ [.call "max" 2]) := by
  intro arity? sum
  have sumConverted : convert arity? "a+b" = .ok sum := by with_unfolding_all rfl
  have variableConverted : convert arity? "c" = .ok [.var "c"] := by with_unfolding_all rfl
  obtain ⟨single, double, called⟩ := convert_delimitedParts arity?
  obtain ⟨-, prefixed⟩ := single "a+b" sum sumConverted
  obtain ⟨joined, -, indexed⟩ := double "a+b" sum "c" _ sumConverted variableConverted
  obtain ⟨-, multiplied, -⟩ := double "c" _ "a+b" sum variableConverted sumConverted
  have arguments : List.Forall₂ (fun source program => convert arity? source = .ok program)
      ["c", "a+b"] [[.var "c"], sum] :=
    .cons variableConverted (.cons sumConverted .nil)
  have calls := called "max" _ _ (by decide) (by decide) rfl arguments
  exact ⟨sumConverted, variableConverted, prefixed .not, joined .regexMatch, multiplied, indexed,
    calls⟩

end Programs

end Calculator
