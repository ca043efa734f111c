import Calculator.Lexeme

/-!
# Expression trees

An expression tree has operands at its leaves and operators, index accesses and calls at its inner
nodes.  Parentheses are nodes of their own, so that a tree also records how an expression was
written.  Read in order, a tree gives the lexemes of an expression; read in postorder, where
parentheses leave no trace, it gives a program.
-/

namespace Calculator

/-- An operand of an expression. -/
inductive Leaf
  | number (x : Float)
  | string (text : String)
  | literal (raw : String)
  | value (value : Value)
  | var (name : String)
  | capture (name : String)
  | regex (source flags : String)

/-- The token of an operand. -/
def Leaf.token : Leaf → Token
  | number x => .number x
  | string text => .string text
  | literal raw => .literal raw
  | value held => .value held
  | var name => .var name
  | capture name => .capture name
  | regex source flags => .regex source flags

/-- An expression tree over operands of some type. -/
inductive Tree (α : Type)
  | leaf (operand : α)
  | group (body : Tree α)
  | unary (op : UnaryOp) (operand : Tree α)
  | binary (op : BinaryOp) (left right : Tree α)
  | index (container selector : Tree α)
  | call (name : String) (arguments : List (Tree α))

namespace Tree

variable {α β : Type}

/-- Induction over trees, where the arguments of a call share one hypothesis. -/
@[elab_as_elim, induction_eliminator]
theorem induction {motive : Tree α → Prop}
    (leaf : ∀ operand, motive (leaf operand))
    (group : ∀ body, motive body → motive (group body))
    (unary : ∀ op operand, motive operand → motive (unary op operand))
    (binary : ∀ op left right, motive left → motive right → motive (binary op left right))
    (index : ∀ container selector, motive container → motive selector →
      motive (index container selector))
    (call : ∀ name arguments, (∀ argument ∈ arguments, motive argument) →
      motive (call name arguments))
    (tree : Tree α) : motive tree :=
  @Tree.rec α motive (fun arguments => ∀ argument ∈ arguments, motive argument)
    leaf group unary binary index call
    (fun _ member => nomatch member)
    (fun _ _ head rest => List.forall_mem_cons.mpr ⟨head, rest⟩)
    tree

/-- The operator at the root of a tree. -/
def rootOp? : Tree α → Option Op
  | unary op _ => some (.unary op)
  | binary op _ _ => some (.binary op)
  | _ => none

section Postorder

variable (token : α → Token)

mutual

/-- The program of a tree: every operator follows its operands. -/
def postorder : Tree α → Program
  | leaf operand => [token operand]
  | group body => body.postorder
  | unary op operand => operand.postorder ++ [.op (.unary op)]
  | binary op left right => left.postorder ++ right.postorder ++ [.op (.binary op)]
  | index container selector => container.postorder ++ selector.postorder ++ [.index]
  | call name arguments => postorderAll arguments ++ [.call name arguments.length]

/-- The programs of several trees, one after another. -/
def postorderAll : List (Tree α) → Program
  | [] => []
  | argument :: rest => argument.postorder ++ postorderAll rest

end

@[simp]
theorem postorderAll_append (first second : List (Tree α)) :
    postorderAll token (first ++ second) =
      postorderAll token first ++ postorderAll token second := by
  induction first with
  | nil => rfl
  | cons argument rest ih =>
      simp only [List.cons_append, postorderAll, ih, List.append_assoc]

theorem mem_postorderAll {wanted : Token} {arguments : List (Tree α)} :
    wanted ∈ postorderAll token arguments ↔
      ∃ argument ∈ arguments, wanted ∈ argument.postorder token := by
  induction arguments with
  | nil => simp [postorderAll]
  | cons argument rest ih => simp [postorderAll, ih]

theorem postorderAll_map {other : β → Token} {change : Tree α → Tree β}
    {arguments : List (Tree α)}
    (each : ∀ argument ∈ arguments, (change argument).postorder other = argument.postorder token) :
    postorderAll other (arguments.map change) = postorderAll token arguments := by
  induction arguments with
  | nil => rfl
  | cons argument rest ih =>
      have first := each argument List.mem_cons_self
      have later := ih fun next isNext => each next (List.mem_cons_of_mem _ isNext)
      rw [List.map_cons, postorderAll, postorderAll, first, later]

theorem postorder_subset_postorderAll {argument : Tree α} {arguments : List (Tree α)}
    (member : argument ∈ arguments) :
    argument.postorder token ⊆ postorderAll token arguments :=
  fun _ isInside => (mem_postorderAll token).mpr ⟨argument, member, isInside⟩

end Postorder

end Tree

/-- The sign with which a unary operator is written. -/
def UnaryOp.sign : UnaryOp → OperatorSign
  | negate => .binary .subtract
  | not => .bang

namespace Tree

variable {α β : Type} (operand : α → β) (mark : Lexeme → β)

mutual

/-- The traversal of a tree from left to right.  Parentheses, signs, commas and brackets appear
where they stand in the written expression. -/
def inOrder : Tree α → List β
  | leaf value => [operand value]
  | group body => mark .openGroup :: body.inOrder ++ [mark .closeGroup]
  | unary op value => mark (.operator op.sign) :: value.inOrder
  | binary op left right => left.inOrder ++ mark (.operator (.binary op)) :: right.inOrder
  | index container selector =>
    container.inOrder ++ mark .openIndex :: selector.inOrder ++ [mark (.closeIndex ']')]
  | call name arguments =>
    mark (.openCall name) :: inOrderArguments arguments ++ [mark .closeGroup]

/-- The traversal of an argument list, with commas between the arguments. -/
def inOrderArguments : List (Tree α) → List β
  | [] => []
  | [argument] => argument.inOrder
  | argument :: next :: rest =>
    argument.inOrder ++ mark .comma :: inOrderArguments (next :: rest)

end

/-- The last argument has a comma before it for every argument that precedes it. -/
theorem inOrderArguments_concat (arguments : List (Tree α)) (last : Tree α) :
    inOrderArguments operand mark (arguments ++ [last]) =
      arguments.flatMap (fun argument => argument.inOrder operand mark ++ [mark .comma]) ++
        last.inOrder operand mark := by
  induction arguments with
  | nil => rfl
  | cons argument rest ih =>
      have notLast : ∃ next later, rest ++ [last] = next :: later := by
        cases rest with
        | nil => exact ⟨last, [], rfl⟩
        | cons next later => exact ⟨next, later ++ [last], rfl⟩
      obtain ⟨next, later, equal⟩ := notLast
      rw [List.cons_append, equal, inOrderArguments, ← equal, ih]
      simp only [List.flatMap_cons, List.append_assoc, List.cons_append, List.nil_append]

/-- The lexemes of the expression that a tree stands for. -/
def lexemes (tree : Tree Leaf) : List Lexeme :=
  tree.inOrder (fun leaf => .operand leaf.token) id

section Lexemes

@[simp]
theorem lexemes_leaf (leaf : Leaf) : (Tree.leaf leaf).lexemes = [.operand leaf.token] :=
  rfl

@[simp]
theorem lexemes_group (body : Tree Leaf) :
    (group body).lexemes = .openGroup :: (body.lexemes ++ [.closeGroup]) :=
  rfl

@[simp]
theorem lexemes_unary (op : UnaryOp) (value : Tree Leaf) :
    (unary op value).lexemes = .operator op.sign :: value.lexemes :=
  rfl

@[simp]
theorem lexemes_binary (op : BinaryOp) (left right : Tree Leaf) :
    (binary op left right).lexemes =
      left.lexemes ++ .operator (.binary op) :: right.lexemes :=
  rfl

@[simp]
theorem lexemes_index (container selector : Tree Leaf) :
    (index container selector).lexemes =
      container.lexemes ++ .openIndex :: (selector.lexemes ++ [.closeIndex ']']) := by
  simp [lexemes, inOrder]

@[simp]
theorem lexemes_call_nil (name : String) :
    (call name []).lexemes = [.openCall name, .closeGroup] :=
  rfl

theorem lexemes_call_concat (name : String) (arguments : List (Tree Leaf)) (last : Tree Leaf) :
    (call name (arguments ++ [last])).lexemes =
      .openCall name ::
        (arguments.flatMap (fun argument => argument.lexemes ++ [.comma]) ++
          (last.lexemes ++ [.closeGroup])) := by
  simp [lexemes, inOrder, inOrderArguments_concat]

end Lexemes

/-- The program of a tree over operands. -/
def program (tree : Tree Leaf) : Program :=
  tree.postorder Leaf.token

theorem program_unary (op : UnaryOp) (value : Tree Leaf) :
    (unary op value).program = value.program ++ [.op (.unary op)] :=
  rfl

theorem program_binary (op : BinaryOp) (left right : Tree Leaf) :
    (binary op left right).program =
      left.program ++ (right.program ++ [.op (.binary op)]) :=
  List.append_assoc _ _ _

theorem program_index (container selector : Tree Leaf) :
    (index container selector).program =
      container.program ++ (selector.program ++ [.index]) :=
  List.append_assoc _ _ _

mutual

/-- All subtrees of a tree, the tree itself among them. -/
def subtrees : Tree α → List (Tree α)
  | leaf value => [leaf value]
  | group body => group body :: body.subtrees
  | unary op value => unary op value :: value.subtrees
  | binary op left right => binary op left right :: (left.subtrees ++ right.subtrees)
  | index container selector =>
    index container selector :: (container.subtrees ++ selector.subtrees)
  | call name arguments => call name arguments :: subtreesAll arguments

/-- All subtrees of several trees. -/
def subtreesAll : List (Tree α) → List (Tree α)
  | [] => []
  | argument :: rest => argument.subtrees ++ subtreesAll rest

end

theorem mem_subtreesAll {subtree : Tree α} {arguments : List (Tree α)} :
    subtree ∈ subtreesAll arguments ↔
      ∃ argument ∈ arguments, subtree ∈ argument.subtrees := by
  induction arguments with
  | nil => simp [subtreesAll]
  | cons argument rest ih => simp [subtreesAll, ih]

end Tree

end Calculator
