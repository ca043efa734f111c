import Calculator.Proofs.Acceptance
import Calculator.Proofs.Bracketing
import Calculator.Proofs.Spelling

/-!
# Printed trees are read back

A tree over written operands is printed with a blank between its lexemes, and with parentheses only
where the operator table requires them.  Every word of the printed text is read as the lexeme that
it was printed for, so the text has the lexemes of the bracketed tree.  The main statement is that
the text converts to the program of the tree.
-/

namespace Calculator

namespace Tree

section Map

variable {α β γ : Type} (change : α → β)

mutual

/-- Change the operands of a tree. -/
def map : Tree α → Tree β
  | leaf operand => leaf (change operand)
  | group body => group body.map
  | unary op operand => unary op operand.map
  | binary op left right => binary op left.map right.map
  | index container selector => index container.map selector.map
  | call name arguments => call name (mapAll arguments)

/-- Change the operands of several trees. -/
def mapAll : List (Tree α) → List (Tree β)
  | [] => []
  | argument :: rest => argument.map :: mapAll rest

end

theorem mapAll_eq_map (arguments : List (Tree α)) :
    mapAll change arguments = arguments.map (map change) := by
  induction arguments with
  | nil => rfl
  | cons argument rest ih => rw [mapAll, ih, List.map_cons]

@[simp]
theorem rootOp?_map (tree : Tree α) : (tree.map change).rootOp? = tree.rootOp? := by
  cases tree <;> rfl

@[simp]
theorem pending_map (tree : Tree α) : (tree.map change).pending = tree.pending := by
  induction tree with
  | unary op operand ih => rw [map, pending, pending, ih]
  | binary op left right _ ih => rw [map, pending, pending, ih]
  | _ => rfl

@[simp]
theorem leading_map (tree : Tree α) : (tree.map change).leading = tree.leading := by
  induction tree with
  | binary op left right ih => rw [map, leading, leading, ih]
  | _ => rfl

theorem Grammatical.map {arity? : String → Option Nat} {tree : Tree α}
    (grammatical : tree.Grammatical arity?) : (tree.map change).Grammatical arity? := by
  induction grammatical with
  | leaf operand => exact .leaf (change operand)
  | group inside ih => exact .group ih
  | unary inside waits ih => exact .unary ih (by rwa [leading_map])
  | binary before after yields waits beforeIH afterIH =>
      exact .binary beforeIH afterIH (by rwa [pending_map]) (by rwa [leading_map])
  | index before inside primary beforeIH insideIH =>
      exact .index beforeIH insideIH (by rwa [rootOp?_map])
  | call inside complete ih =>
      rw [Tree.map, mapAll_eq_map]
      refine .call (fun argument isArgument => ?_) (by rw [complete, List.length_map])
      obtain ⟨plain, isPlain, rfl⟩ := List.mem_map.mp isArgument
      exact ih plain isPlain

theorem postorder_map (token : β → Token) (tree : Tree α) :
    (tree.map change).postorder token = tree.postorder fun operand => token (change operand) := by
  induction tree with
  | leaf operand => rfl
  | group body ih => exact ih
  | unary op operand ih => rw [map, postorder, postorder, ih]
  | binary op left right leftIH rightIH => rw [map, postorder, postorder, leftIH, rightIH]
  | index container selector containerIH selectorIH =>
      rw [map, postorder, postorder, containerIH, selectorIH]
  | call name arguments ih =>
      rw [map, postorder, postorder, mapAll_eq_map, postorderAll_map _ ih, List.length_map]

theorem inOrderArguments_map {operand : β → γ} {mark : Lexeme → γ} {arguments : List (Tree α)}
    (each : ∀ argument ∈ arguments, (argument.map change).inOrder operand mark =
      argument.inOrder (fun value => operand (change value)) mark) :
    inOrderArguments operand mark (mapAll change arguments) =
      inOrderArguments (fun value => operand (change value)) mark arguments := by
  induction arguments with
  | nil => rfl
  | cons argument rest ih =>
      have first := each argument List.mem_cons_self
      have later := ih fun other isOther => each other (List.mem_cons_of_mem _ isOther)
      cases rest with
      | nil => exact first
      | cons next others =>
          rw [mapAll] at later
          rw [mapAll, mapAll, inOrderArguments, inOrderArguments, first, later]

theorem inOrder_map (operand : β → γ) (mark : Lexeme → γ) (tree : Tree α) :
    (tree.map change).inOrder operand mark =
      tree.inOrder (fun value => operand (change value)) mark := by
  induction tree with
  | leaf value => rfl
  | group body ih => rw [map, inOrder, inOrder, ih]
  | unary op value ih => rw [map, inOrder, inOrder, ih]
  | binary op left right leftIH rightIH => rw [map, inOrder, inOrder, leftIH, rightIH]
  | index container selector containerIH selectorIH =>
      rw [map, inOrder, inOrder, containerIH, selectorIH]
  | call name arguments ih => rw [map, inOrder, inOrder, inOrderArguments_map change ih]

end Map

end Tree

/-- An operand together with a way to write it. -/
structure Spelling where
  chars : List Char
  leaf : Leaf
  spells : Spells chars leaf

/-- The token of a written operand. -/
def Spelling.token (spelling : Spelling) : Token :=
  spelling.leaf.token

/-- How lexemes other than operands are written. -/
def Lexeme.chars : Lexeme → List Char
  | operand token => token.text.toList
  | openCall name => name.toList ++ ['(']
  | openGroup => ['(']
  | closeGroup => [')']
  | comma => [',']
  | openIndex => ['[']
  | closeIndex bracket => [bracket]
  | operator sign => sign.symbol.toList

namespace Tree

/-- The words of a tree, one for each lexeme. -/
def words (tree : Tree Spelling) : List (List Char) :=
  tree.inOrder Spelling.chars Lexeme.chars

/-- The lexemes that the words of a tree stand for. -/
def wordLexemes (tree : Tree Spelling) : List Lexeme :=
  tree.inOrder (fun spelling => .operand spelling.token) id

/-- The text of a tree: its words with blanks between them, and the parentheses that the operator
table requires. -/
def print (tree : Tree Spelling) : String :=
  String.ofList ([' '].intercalate tree.bracketed.words)

/-- A tree that can be printed for a context.  A regular expression stands only on the right of the
match operator, and a call has exactly the arguments that its function takes, whose name must not
be a keyword. -/
inductive Printable (arity? : String → Option Nat) : Tree Spelling → Prop
  | leaf {spelling : Spelling} (value : spelling.leaf.isRegex = false) :
      Printable arity? (leaf spelling)
  | group {body : Tree Spelling} (inside : Printable arity? body) : Printable arity? (group body)
  | unary {op : UnaryOp} {operand : Tree Spelling} (inside : Printable arity? operand) :
      Printable arity? (unary op operand)
  | binary {op : BinaryOp} {left right : Tree Spelling} (before : Printable arity? left)
      (after : Printable arity? right) : Printable arity? (binary op left right)
  | regexMatch {left : Tree Spelling} {pattern : Spelling} (before : Printable arity? left)
      (isRegex : pattern.leaf.isRegex = true) :
      Printable arity? (binary .regexMatch left (.leaf pattern))
  | index {container selector : Tree Spelling} (before : Printable arity? container)
      (inside : Printable arity? selector) : Printable arity? (index container selector)
  | call {name : String} {arguments : List (Tree Spelling)}
      (identifier : isIdentifier name = true) (free : Lexeme.keyword? name = none)
      (complete : arity? name = some arguments.length)
      (inside : ∀ argument ∈ arguments, Printable arity? argument) :
      Printable arity? (call name arguments)

theorem Printable.calls {arity? : String → Option Nat} {tree : Tree Spelling}
    (printable : tree.Printable arity?) {name : String} {arguments : List (Tree Spelling)}
    (member : Tree.call name arguments ∈ tree.subtrees) : arity? name = some arguments.length := by
  induction printable with
  | leaf value => cases List.mem_singleton.mp member
  | group inside ih | unary inside ih =>
      rcases List.mem_cons.mp member with isRoot | isInside
      · cases isRoot
      · exact ih isInside
  | binary before after beforeIH afterIH =>
      rcases List.mem_cons.mp member with isRoot | isInside
      · cases isRoot
      · exact (List.mem_append.mp isInside).elim beforeIH afterIH
  | regexMatch before isRegex ih =>
      rcases List.mem_cons.mp member with isRoot | isInside
      · cases isRoot
      · rcases List.mem_append.mp isInside with inLeft | isPattern
        · exact ih inLeft
        · cases List.mem_singleton.mp isPattern
  | index before inside beforeIH insideIH =>
      rcases List.mem_cons.mp member with isRoot | isInside
      · cases isRoot
      · exact (List.mem_append.mp isInside).elim beforeIH insideIH
  | call identifier free complete inside ih =>
      rcases List.mem_cons.mp member with isRoot | isInside
      · cases isRoot
        exact complete
      · obtain ⟨argument, isArgument, isBelow⟩ := mem_subtreesAll.mp isInside
        exact ih argument isArgument isBelow

end Tree

namespace Lexeme

variable {arity? : String → Option Nat} {mode : LexMode}

/-- Words are read as lexemes one after another. -/
inductive ReadsAll (arity? : String → Option Nat) :
    LexMode → List (List Char) → List Lexeme → Prop
  | nil {mode : LexMode} : ReadsAll arity? mode [] []
  | cons {mode : LexMode} {word : List Char} {lexeme : Lexeme} {words : List (List Char)}
      {lexemes : List Lexeme} (first : ReadsAs arity? mode word lexeme)
      (later : ReadsAll arity? (mode.after lexeme) words lexemes) :
      ReadsAll arity? mode (word :: words) (lexeme :: lexemes)

theorem next_blank (chars : List Char) : next arity? mode (' ' :: chars) = next arity? mode chars :=
  rfl

theorem locate_blank (chars : List Char) :
    locate arity? mode (' ' :: chars) = locate arity? mode chars := by
  cases read : next arity? mode chars with
  | error error =>
      rw [locate_of_next_error read, locate_of_next_error (next_blank chars ▸ read)]
  | ok found =>
      cases found with
      | none => rw [locate_of_next_none read, locate_of_next_none (next_blank chars ▸ read)]
      | some found =>
          obtain ⟨lexeme, source, rest⟩ := found
          rw [locate_of_next_some read, locate_of_next_some (next_blank chars ▸ read)]

/-- Words with blanks between them are cut into their lexemes. -/
theorem locate_words {words : List (List Char)} {lexemes : List Lexeme}
    (reads : ReadsAll arity? mode words lexemes) :
    (locate arity? mode ([' '].intercalate words)).map (List.map Located.lexeme) =
      .ok lexemes := by
  induction reads with
  | nil =>
      rw [locate_of_next_none rfl]
      rfl
  | @cons mode word lexeme words lexemes first later ih =>
      cases words with
      | nil =>
          cases later
          have read := first [] nofun
          rw [List.append_nil] at read
          have ended : locate arity? (mode.after lexeme) [] = .ok [] := locate_of_next_none rfl
          rw [List.intercalate_singleton, locate_of_next_some read, ended]
          rfl
      | cons next others =>
          have ends : EndsLexeme (' ' :: [' '].intercalate (next :: others)) := by
            intro c isHead
            cases isHead
            rfl
          obtain ⟨located, cut, areLexemes⟩ := map_eq_ok_iff.mp ih
          rw [List.intercalate_cons_cons, List.append_assoc, List.singleton_append,
            locate_of_next_some (first _ ends), locate_blank, cut, ← areLexemes]
          rfl

theorem sequence_of_readsAll {words : List (List Char)} {lexemes : List Lexeme}
    (reads : ReadsAll arity? LexMode.initial words lexemes) :
    sequence arity? (String.ofList ([' '].intercalate words)) = .ok lexemes := by
  rw [sequence, String.toList_ofList]
  exact locate_words reads

end Lexeme

namespace Tree

open Lexeme (ReadsAll ReadsAs)

variable {arity? : String → Option Nat}

/-- What decides the reading of a lexeme after an operand. -/
def afterOperandMode : LexMode :=
  { afterOperand := true, inPattern := false }

/-- Words that stand for one operand are read as given lexemes, wherever an operand may start and
whatever words follow. -/
def ReadsOperand (arity? : String → Option Nat) (words : List (List Char))
    (lexemes : List Lexeme) : Prop :=
  ∀ (mode : LexMode) (laterWords : List (List Char)) (laterLexemes : List Lexeme),
    mode.afterOperand = false → ReadsAll arity? afterOperandMode laterWords laterLexemes →
      ReadsAll arity? mode (words ++ laterWords) (lexemes ++ laterLexemes)

/-- The words of a tree are read as its lexemes. -/
def Reads (arity? : String → Option Nat) (tree : Tree Spelling) : Prop :=
  ReadsOperand arity? tree.words tree.wordLexemes

theorem Reads.leaf {spelling : Spelling} (value : spelling.leaf.isRegex = false) :
    Reads arity? (leaf spelling) := by
  intro mode laterWords laterLexemes before later
  have read : ReadsAs arity? mode spelling.chars (.operand spelling.token) := by
    refine Lexeme.readsAs_of_spells spelling.spells before fun isRegex => ?_
    rw [value] at isRegex
    cases isRegex
  exact .cons read later

theorem Reads.group {body : Tree Spelling} (reads : Reads arity? body) :
    Reads arity? (group body) := by
  intro mode laterWords laterLexemes before later
  have closed : ReadsAll arity? afterOperandMode ([')'] :: laterWords)
      (.closeGroup :: laterLexemes) := .cons Lexeme.readsAs_closeGroup later
  have inside := reads (mode.after .openGroup) _ _ rfl closed
  have opened : ReadsAll arity? mode _ _ := .cons Lexeme.readsAs_openGroup inside
  simpa [words, wordLexemes, inOrder, Lexeme.chars] using opened

theorem Reads.groupIf {tree : Tree Spelling} (reads : Reads arity? tree) (needed : Op → Bool) :
    Reads arity? (tree.groupIf needed) := by
  unfold Tree.groupIf
  split
  · exact reads.group
  · exact reads

theorem Reads.unary {op : UnaryOp} {operand : Tree Spelling} (reads : Reads arity? operand) :
    Reads arity? (unary op operand) := by
  intro mode laterWords laterLexemes before later
  have signRead : ReadsAs arity? mode op.sign.symbol.toList (.operator op.sign) := by
    refine Lexeme.readsAs_operator fun binary isBinary notSubtract => ?_
    cases op with
    | negate =>
        cases isBinary
        exact absurd rfl notSubtract
    | not => cases isBinary
  have stillBefore : (mode.after (.operator op.sign)).afterOperand = false := by
    rw [LexMode.after_afterOperand]
    rfl
  exact .cons signRead (reads _ _ _ stillBefore later)

theorem Reads.binary {op : BinaryOp} {left right : Tree Spelling} (before : Reads arity? left)
    (after : ∀ laterWords laterLexemes, ReadsAll arity? afterOperandMode laterWords laterLexemes →
      ReadsAll arity? { afterOperand := false, inPattern := op == .regexMatch }
        (right.words ++ laterWords) (right.wordLexemes ++ laterLexemes)) :
    Reads arity? (binary op left right) := by
  intro mode laterWords laterLexemes modeBefore later
  have signRead : ReadsAs arity? afterOperandMode (OperatorSign.binary op).symbol.toList
      (.operator (.binary op)) := Lexeme.readsAs_operator fun _ _ _ => rfl
  have fromSign := ReadsAll.cons signRead (after laterWords laterLexemes later)
  have whole := before mode _ _ modeBefore fromSign
  simpa [words, wordLexemes, inOrder, Lexeme.chars, OperatorSign.symbol] using whole

theorem Reads.index {container selector : Tree Spelling} (before : Reads arity? container)
    (inside : Reads arity? selector) : Reads arity? (index container selector) := by
  intro mode laterWords laterLexemes modeBefore later
  have closed : ReadsAll arity? afterOperandMode ([']'] :: laterWords)
      (.closeIndex ']' :: laterLexemes) := .cons Lexeme.readsAs_closeIndex later
  have fromSelector := inside (afterOperandMode.after .openIndex) _ _ rfl closed
  have fromBracket : ReadsAll arity? afterOperandMode _ _ :=
    .cons (Lexeme.readsAs_openIndex rfl) fromSelector
  have whole := before mode _ _ modeBefore fromBracket
  simpa [words, wordLexemes, inOrder, Lexeme.chars] using whole

theorem readsOperand_arguments {first : Tree Spelling} {rest : List (Tree Spelling)}
    (each : ∀ argument ∈ first :: rest, Reads arity? argument) :
    ReadsOperand arity? (inOrderArguments Spelling.chars Lexeme.chars (first :: rest))
      (inOrderArguments (fun spelling => .operand spelling.token) id (first :: rest)) := by
  induction rest generalizing first with
  | nil => exact each first List.mem_cons_self
  | cons next others ih =>
      intro mode laterWords laterLexemes modeBefore later
      have others := ih fun argument isArgument => each argument (List.mem_cons_of_mem _ isArgument)
      have fromNext := others (afterOperandMode.after .comma) _ _ rfl later
      have fromComma : ReadsAll arity? afterOperandMode _ _ :=
        .cons Lexeme.readsAs_comma fromNext
      have whole := each first List.mem_cons_self mode _ _ modeBefore fromComma
      simpa [words, wordLexemes, inOrderArguments, Lexeme.chars] using whole

theorem Reads.call {name : String} {arguments : List (Tree Spelling)}
    (identifier : isIdentifier name = true) (free : Lexeme.keyword? name = none)
    (known : (arity? name).isSome = true) (each : ∀ argument ∈ arguments, Reads arity? argument) :
    Reads arity? (call name arguments) := by
  intro mode laterWords laterLexemes modeBefore later
  have opens : ReadsAs arity? mode (name.toList ++ ['(']) (.openCall name) :=
    Lexeme.readsAs_openCall identifier free known
  cases arguments with
  | nil => exact .cons opens (.cons Lexeme.readsAs_closeGroup later)
  | cons first rest =>
      have closed : ReadsAll arity? afterOperandMode ([')'] :: laterWords)
          (.closeGroup :: laterLexemes) := .cons Lexeme.readsAs_closeGroup later
      have inside := readsOperand_arguments each (mode.after (.openCall name)) _ _ rfl closed
      have whole : ReadsAll arity? mode _ _ := .cons opens inside
      simpa [words, wordLexemes, inOrder, Lexeme.chars] using whole

/-- The words of a printable tree, with the parentheses that are required, are read as its
lexemes. -/
theorem Printable.reads {tree : Tree Spelling} (printable : tree.Printable arity?) :
    Reads arity? tree.bracketed := by
  induction printable with
  | leaf value => exact .leaf value
  | group inside ih => exact ih.group
  | unary inside ih => exact (ih.groupIf _).unary
  | binary before after beforeIH afterIH =>
      exact .binary (beforeIH.groupIf _) fun laterWords laterLexemes later =>
        afterIH.groupIf _ _ laterWords laterLexemes rfl later
  | @regexMatch left pattern before isRegex ih =>
      -- Behind this operator alone does a slash open a regular expression.
      refine .binary (ih.groupIf _) fun laterWords laterLexemes later => ?_
      have patternRead : ReadsAs arity? { afterOperand := false, inPattern := true }
          pattern.chars (.operand pattern.token) :=
        Lexeme.readsAs_of_spells pattern.spells rfl fun _ => rfl
      exact .cons patternRead later
  | index before inside beforeIH insideIH => exact .index (beforeIH.groupIf _) insideIH
  | call identifier free complete inside ih =>
      rw [bracketed, bracketedAll_eq_map]
      refine .call identifier free (by rw [complete]; rfl) fun argument isArgument => ?_
      obtain ⟨plain, isPlain, rfl⟩ := List.mem_map.mp isArgument
      exact ih plain isPlain

end Tree

/-- A printed tree converts to its postorder. -/
theorem convert_print {arity? : String → Option Nat} {tree : Tree Spelling}
    (printable : tree.Printable arity?) :
    convert arity? tree.print = .ok (tree.postorder Spelling.token) := by
  let plain := tree.bracketed.map Spelling.leaf
  have grammatical : plain.Grammatical arity? :=
    (Tree.bracketed_grammatical fun _ _ isCall => printable.calls isCall).map Spelling.leaf
  have reads := printable.reads LexMode.initial [] [] rfl .nil
  rw [List.append_nil, List.append_nil] at reads
  have written : Lexeme.sequence arity? tree.print = .ok plain.lexemes := by
    rw [Tree.lexemes, Tree.inOrder_map]
    exact Lexeme.sequence_of_readsAll reads
  have isProgram : plain.program = tree.postorder Spelling.token := by
    rw [Tree.program, Tree.postorder_map, Tree.postorder_bracketed]
    rfl
  rw [Conversion.convert_of_grammatical grammatical written, isProgram]

/-- A variable, written as its name. -/
def Spelling.ofName (name : String) (identifier : isIdentifier name = true)
    (free : Lexeme.keyword? name = none) : Spelling :=
  { chars := name.toList, leaf := .var name, spells := .var identifier free }

/-- The product of a sum and a call, whose first argument is a negative. -/
def productTree : Tree Spelling :=
  let first : Tree Spelling := .leaf (.ofName "a" (by decide) (by decide))
  let second : Tree Spelling := .leaf (.ofName "b" (by decide) (by decide))
  .binary .multiply (.binary .add first second) (.call "max" [.unary .negate first, second])

example : productTree.print = "( a + b ) * max( - a , b )" := by
  decide

theorem convert_productTree :
    convert (fun name => if name = "max" then some 2 else none) productTree.print =
      .ok (productTree.postorder Spelling.token) := by
  refine convert_print ?_
  refine .binary (.binary (.leaf rfl) (.leaf rfl)) (.call (by decide) (by decide) rfl ?_)
  rintro argument isArgument
  rcases List.mem_cons.mp isArgument with rfl | isSecond
  · exact .unary (.leaf rfl)
  · cases List.mem_singleton.mp isSecond
    exact .leaf rfl

end Calculator
