import Calculator.Proofs.Derivation

/-!
# What brackets enclose

The lexemes after an opening bracket, up to the closing bracket that matches it, fall into segments
at the commas that no inner bracket encloses.  In the lexemes of a tree, each of these segments is
written by one whole subtree: the body of a parenthesis, the selector of an index, or an argument
of a call.  The main statement joins this to what is known about the tree of a converted expression.
-/

namespace Calculator

namespace Lexeme

/-- Decide whether a lexeme opens a bracket. -/
def opens : Lexeme → Bool
  | .openGroup | .openCall _ | .openIndex => true
  | _ => false

/-- The lexemes after an opening bracket up to the closing bracket that matches it, cut at the
commas that stand between, when so many inner brackets are still open. -/
def segments : Nat → List Lexeme → List (List Lexeme)
  | _, [] => [[]]
  | 0, .closeGroup :: _ => [[]]
  | 0, .closeIndex _ :: _ => [[]]
  | 0, .comma :: rest => [] :: segments 0 rest
  | depth + 1, .closeGroup :: rest => (segments depth rest).modifyHead (.closeGroup :: ·)
  | depth + 1, .closeIndex bracket :: rest =>
    (segments depth rest).modifyHead (.closeIndex bracket :: ·)
  | depth, lexeme :: rest =>
    (segments (if lexeme.opens then depth + 1 else depth) rest).modifyHead (lexeme :: ·)

/-- Lexemes in which brackets match and no comma stands outside of them: they belong to one
segment. -/
def Coherent (lexemes : List Lexeme) : Prop :=
  ∀ depth rest,
    segments depth (lexemes ++ rest) = (segments depth rest).modifyHead (lexemes ++ ·)

/-- Lexemes that belong to one segment within a further bracket. -/
def CoherentWithin (lexemes : List Lexeme) : Prop :=
  ∀ depth rest,
    segments (depth + 1) (lexemes ++ rest) = (segments (depth + 1) rest).modifyHead (lexemes ++ ·)

section Coherence

variable {first second : List Lexeme}

theorem modifyHead_modifyHead (segments : List (List Lexeme)) :
    (segments.modifyHead (second ++ ·)).modifyHead (first ++ ·) =
      segments.modifyHead (first ++ second ++ ·) := by
  cases segments with
  | nil => rfl
  | cons head rest => simp

theorem Coherent.within (coherent : Coherent first) : CoherentWithin first :=
  fun depth rest => coherent (depth + 1) rest

theorem Coherent.append (before : Coherent first) (after : Coherent second) :
    Coherent (first ++ second) := by
  intro depth rest
  rw [List.append_assoc, before, after, modifyHead_modifyHead]

theorem CoherentWithin.append (before : CoherentWithin first) (after : CoherentWithin second) :
    CoherentWithin (first ++ second) := by
  intro depth rest
  rw [List.append_assoc, before, after, modifyHead_modifyHead]

theorem coherent_operand (token : Token) : Coherent [.operand token] := by
  intro depth rest
  cases depth <;> rfl

theorem coherent_operator (sign : OperatorSign) : Coherent [.operator sign] := by
  intro depth rest
  cases depth <;> rfl

theorem coherentWithin_nil : CoherentWithin [] := by
  intro depth rest
  rw [List.nil_append]
  cases segments (depth + 1) rest <;> rfl

theorem coherentWithin_comma : CoherentWithin [.comma] := by
  intro depth rest
  rfl

theorem segments_closing {closing : Lexeme} {depth : Nat} {rest : List Lexeme}
    (closes : closing = .closeGroup ∨ ∃ bracket, closing = .closeIndex bracket) :
    segments (depth + 1) (closing :: rest) =
      (segments depth rest).modifyHead (closing :: ·) := by
  rcases closes with isGroup | ⟨bracket, isIndex⟩
  · rw [isGroup]
    rfl
  · rw [isIndex]
    rfl

theorem segments_opening {opening : Lexeme} {depth : Nat} {rest : List Lexeme}
    (isOpening : opening.opens = true) :
    segments depth (opening :: rest) =
      (segments (depth + 1) rest).modifyHead (opening :: ·) := by
  cases opening with
  | openGroup | openCall | openIndex => cases depth <;> rfl
  | _ => cases isOpening

/-- What stands within a further bracket is coherent with the brackets around it. -/
theorem CoherentWithin.enclosed {inside : List Lexeme} (coherent : CoherentWithin inside)
    {opening closing : Lexeme} (isOpening : opening.opens = true)
    (closes : closing = .closeGroup ∨ ∃ bracket, closing = .closeIndex bracket) :
    Coherent (opening :: (inside ++ [closing])) := by
  intro depth rest
  have closed : inside ++ [closing] ++ rest = inside ++ closing :: rest := by
    rw [List.append_assoc]
    rfl
  rw [List.cons_append, segments_opening isOpening, closed, coherent, segments_closing closes]
  cases segments depth rest with
  | nil => rfl
  | cons head later => simp

end Coherence

end Lexeme

namespace Tree

open Lexeme (segments opens Coherent CoherentWithin)

/-- The lexemes of the arguments of a call, with commas between the arguments. -/
def argumentLexemes (arguments : List (Tree Leaf)) : List Lexeme :=
  inOrderArguments (fun leaf => .operand leaf.token) id arguments

theorem argumentLexemes_cons_cons (argument next : Tree Leaf) (rest : List (Tree Leaf)) :
    argumentLexemes (argument :: next :: rest) =
      argument.lexemes ++ .comma :: argumentLexemes (next :: rest) :=
  rfl

theorem lexemes_call (name : String) (arguments : List (Tree Leaf)) :
    (call name arguments).lexemes =
      .openCall name :: (argumentLexemes arguments ++ [.closeGroup]) :=
  rfl

theorem coherentWithin_argumentLexemes {arguments : List (Tree Leaf)}
    (coherent : ∀ argument ∈ arguments, Coherent argument.lexemes) :
    CoherentWithin (argumentLexemes arguments) := by
  induction arguments with
  | nil => exact Lexeme.coherentWithin_nil
  | cons argument rest ih =>
      have first := coherent argument List.mem_cons_self
      cases rest with
      | nil => exact first.within
      | cons next later =>
          have others := ih fun other isOther => coherent other (List.mem_cons_of_mem _ isOther)
          exact first.within.append (Lexeme.coherentWithin_comma.append others)

/-- The lexemes of a tree belong to one segment. -/
theorem coherent_lexemes (tree : Tree Leaf) : Coherent tree.lexemes := by
  induction tree with
  | leaf operand => exact Lexeme.coherent_operand operand.token
  | group body ih => exact ih.within.enclosed rfl (Or.inl rfl)
  | unary op operand ih => exact (Lexeme.coherent_operator op.sign).append ih
  | binary op left right leftIH rightIH =>
      exact leftIH.append ((Lexeme.coherent_operator (.binary op)).append rightIH)
  | index container selector containerIH selectorIH =>
      rw [lexemes_index]
      exact containerIH.append (selectorIH.within.enclosed rfl (Or.inr ⟨']', rfl⟩))
  | call name arguments ih =>
      rw [lexemes_call]
      exact (coherentWithin_argumentLexemes ih).enclosed rfl (Or.inl rfl)

/-- The segments between the parentheses of a call.  An empty argument list is one empty
segment. -/
def argumentSegments : List (Tree Leaf) → List (List Lexeme)
  | [] => [[]]
  | arguments => arguments.map lexemes

theorem segments_argumentLexemes (arguments : List (Tree Leaf)) (rest : List Lexeme) :
    segments 0 (argumentLexemes arguments ++ .closeGroup :: rest) =
      argumentSegments arguments := by
  induction arguments with
  | nil => rfl
  | cons argument later ih =>
      cases later with
      | nil =>
          have first := coherent_lexemes argument 0 (.closeGroup :: rest)
          rw [segments, List.modifyHead, List.append_nil] at first
          exact first
      | cons next others =>
          rw [argumentLexemes_cons_cons, List.append_assoc, List.cons_append,
            coherent_lexemes argument, segments, ih]
          simp [argumentSegments]

/-- An opening bracket with given segments after it is that of a subtree: the segments are written
by its body, by its selector or by its arguments. -/
def Encloses (subtrees : List (Tree Leaf)) (opening : Lexeme) (inside : List (List Lexeme)) :
    Prop :=
  match opening with
  | .openGroup => ∃ body, group body ∈ subtrees ∧ inside = [body.lexemes]
  | .openIndex =>
    ∃ container selector, index container selector ∈ subtrees ∧ inside = [selector.lexemes]
  | .openCall name =>
    ∃ arguments, call name arguments ∈ subtrees ∧ inside = argumentSegments arguments
  | _ => True

/-- All opening brackets among some lexemes are those of subtrees, whatever follows the lexemes. -/
def BracketsEnclose (subtrees : List (Tree Leaf)) (lexemes : List Lexeme) : Prop :=
  ∀ before opening after rest, lexemes = before ++ opening :: after →
    Encloses subtrees opening (segments 0 (after ++ rest))

section Brackets

variable {smaller larger : List (Tree Leaf)} {first second : List Lexeme}

theorem Encloses.subset {opening : Lexeme} {inside : List (List Lexeme)}
    (encloses : Encloses smaller opening inside) (included : smaller ⊆ larger) :
    Encloses larger opening inside := by
  cases opening with
  | openGroup =>
      obtain ⟨body, member, equal⟩ := encloses
      exact ⟨body, included member, equal⟩
  | openIndex =>
      obtain ⟨container, selector, member, equal⟩ := encloses
      exact ⟨container, selector, included member, equal⟩
  | openCall name =>
      obtain ⟨arguments, member, equal⟩ := encloses
      exact ⟨arguments, included member, equal⟩
  | _ => trivial

theorem BracketsEnclose.subset (encloses : BracketsEnclose smaller first)
    (included : smaller ⊆ larger) : BracketsEnclose larger first :=
  fun before opening after rest written =>
    (encloses before opening after rest written).subset included

theorem BracketsEnclose.nil : BracketsEnclose smaller [] := by
  intro before opening after rest written
  cases before <;> cases written

theorem BracketsEnclose.append (inFirst : BracketsEnclose smaller first)
    (inSecond : BracketsEnclose smaller second) : BracketsEnclose smaller (first ++ second) := by
  intro before opening after rest written
  rcases List.append_eq_append_iff.mp written with ⟨gap, _, isSecond⟩ | ⟨gap, isFirst, isAfter⟩
  · exact inSecond gap opening after rest isSecond
  · cases gap with
    | nil => exact inSecond [] opening after rest isAfter.symm
    | cons found later =>
        rw [List.cons_append] at isAfter
        obtain ⟨rfl, rfl⟩ := List.cons.inj isAfter
        rw [List.append_assoc]
        exact inFirst before opening later (second ++ rest) isFirst

theorem BracketsEnclose.cons {lexeme : Lexeme}
    (encloses : ∀ rest, Encloses smaller lexeme (segments 0 (second ++ rest)))
    (inSecond : BracketsEnclose smaller second) : BracketsEnclose smaller (lexeme :: second) := by
  intro before opening after rest written
  cases before with
  | nil =>
      obtain ⟨rfl, rfl⟩ := List.cons.inj written
      exact encloses rest
  | cons found later => exact inSecond later opening after rest (List.cons.inj written).2

theorem BracketsEnclose.cons_of_not_opens {lexeme : Lexeme} (noBracket : lexeme.opens = false)
    (inSecond : BracketsEnclose smaller second) : BracketsEnclose smaller (lexeme :: second) := by
  refine .cons (fun rest => ?_) inSecond
  cases lexeme with
  | openGroup => cases noBracket
  | openCall name => cases noBracket
  | openIndex => cases noBracket
  | _ => trivial

theorem bracketsEnclose_argumentLexemes {arguments : List (Tree Leaf)}
    (encloses : ∀ argument ∈ arguments, BracketsEnclose argument.subtrees argument.lexemes) :
    BracketsEnclose (subtreesAll arguments) (argumentLexemes arguments) := by
  induction arguments with
  | nil => exact .nil
  | cons argument rest ih =>
      have first := (encloses argument List.mem_cons_self).subset
        (List.subset_append_left argument.subtrees (subtreesAll rest))
      cases rest with
      | nil => exact first
      | cons next later =>
          have others := (ih fun other isOther =>
            encloses other (List.mem_cons_of_mem _ isOther)).subset
              (List.subset_append_right argument.subtrees _)
          exact first.append (others.cons_of_not_opens rfl)

end Brackets

/-- Every opening bracket in the lexemes of a tree is that of a subtree. -/
theorem bracketsEnclose_lexemes (tree : Tree Leaf) :
    BracketsEnclose tree.subtrees tree.lexemes := by
  induction tree with
  | leaf operand => exact BracketsEnclose.nil.cons_of_not_opens rfl
  | group body ih =>
      have inside := ih.subset (List.subset_cons_self (group body) body.subtrees)
      rw [lexemes_group]
      refine .cons (fun rest => ?_) (inside.append (BracketsEnclose.nil.cons_of_not_opens rfl))
      refine ⟨body, List.mem_cons_self, ?_⟩
      rw [List.append_assoc, coherent_lexemes body]
      simp [segments]
  | unary op operand ih =>
      exact (ih.subset (List.subset_cons_self _ _)).cons_of_not_opens rfl
  | binary op left right leftIH rightIH =>
      have inLeft := leftIH.subset (List.subset_append_left left.subtrees right.subtrees)
      have inRight := rightIH.subset (List.subset_append_right left.subtrees right.subtrees)
      exact (inLeft.append (inRight.cons_of_not_opens rfl)).subset (List.subset_cons_self _ _)
  | index container selector containerIH selectorIH =>
      have inContainer := (containerIH.subset
        (List.subset_append_left container.subtrees selector.subtrees)).subset
          (List.subset_cons_self (index container selector) _)
      have inSelector := (selectorIH.subset
        (List.subset_append_right container.subtrees selector.subtrees)).subset
          (List.subset_cons_self (index container selector) _)
      rw [lexemes_index]
      refine inContainer.append (.cons (fun rest => ?_)
        (inSelector.append (BracketsEnclose.nil.cons_of_not_opens rfl)))
      refine ⟨container, selector, List.mem_cons_self, ?_⟩
      rw [List.append_assoc, coherent_lexemes selector]
      simp [segments]
  | call name arguments ih =>
      have inside := (bracketsEnclose_argumentLexemes ih).subset
        (List.subset_cons_self (call name arguments) _)
      rw [lexemes_call]
      refine .cons (fun rest => ?_) (inside.append (BracketsEnclose.nil.cons_of_not_opens rfl))
      refine ⟨arguments, List.mem_cons_self, ?_⟩
      rw [List.append_assoc]
      exact segments_argumentLexemes arguments rest

/-- A tree describes how an expression with given lexemes was converted to a program. -/
structure Describes (tree : Tree Leaf) (arity? : String → Option Nat) (lexemes : List Lexeme)
    (program : Program) : Prop where
  /-- The program is the postorder of the tree. -/
  isPostorder : program = tree.postorder Leaf.token
  /-- In order, the tree gives the lexemes, with a multiplication sign between operands that
  directly follow one another. -/
  isInOrder : tree.lexemes = Lexeme.withProducts false lexemes
  /-- Whole subtrees stand between brackets and commas. -/
  brackets : ∀ before opening after,
    Lexeme.withProducts false lexemes = before ++ opening :: after →
      Encloses tree.subtrees opening (segments 0 after)
  /-- Every call has as many arguments as its function takes. -/
  calls : ∀ name arguments, call name arguments ∈ tree.subtrees →
    arity? name = some arguments.length
  /-- The operator table is respected at every node. -/
  table : ∀ subtree ∈ tree.subtrees, subtree.FollowsTable

end Tree

namespace Conversion

/-- Every expression that converts is described by a tree. -/
theorem exists_describes_of_convert {arity? : String → Option Nat} {source : String}
    {program : Program} (converted : convert arity? source = .ok program) :
    ∃ (lexemes : List Lexeme) (tree : Tree Leaf),
      Lexeme.sequence arity? source = .ok lexemes ∧ tree.Describes arity? lexemes program := by
  obtain ⟨lexemes, tree, read, grammatical, written, isProgram⟩ := exists_tree_of_convert converted
  refine ⟨lexemes, tree, read, isProgram, written, ?_, ?_, ?_⟩
  · intro before opening after equal
    have encloses := tree.bracketsEnclose_lexemes before opening after [] (written.trans equal)
    rw [List.append_nil] at encloses
    exact encloses
  · intro name arguments member
    cases Tree.grammatical_of_mem_subtrees grammatical member with
    | call inside known => exact known
  · intro subtree member
    exact Tree.followsTable_of_mem_subtrees grammatical member

theorem exists_describes_of_juxtaposed_call :
    ∃ (lexemes : List Lexeme) (tree : Tree Leaf),
      Lexeme.sequence (fun name => if name = "max" then some 2 else none) "a max(b, c)^-(d)" =
          .ok lexemes ∧
        tree.Describes (fun name => if name = "max" then some 2 else none) lexemes
          [.var "a", .var "b", .var "c", .call "max" 2, .var "d", .op (.unary .negate),
            .op (.binary .power), .op (.binary .multiply)] :=
  exists_describes_of_convert (by with_unfolding_all rfl)

end Conversion

end Calculator
