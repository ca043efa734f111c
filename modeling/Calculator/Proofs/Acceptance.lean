import Calculator.Proofs.Grammar
import Calculator.Proofs.LexemeSequence

/-!
# Grammatical trees are accepted

When the lexemes of a grammatical tree are accepted one after another, the operators on the right
edge of the tree wait on the stack, and all else was put out.  What comes next decides when they
are applied.  The main statement follows a pass over the lexemes of a tree, whatever stands below
it on the stack.
-/

namespace Calculator.Conversion

/-- An operator on top of the stack waits for all operators with which a tree starts. -/
def Admits (frames : List Frame) (leading : List BinaryOp) : Prop :=
  match frames with
  | .op pending :: _ => ∀ later ∈ leading, pending.yieldsTo (.binary later) = false
  | _ => True

theorem Admits.subset {frames : List Frame} {smaller larger : List BinaryOp}
    (admits : Admits frames larger) (included : smaller ⊆ larger) : Admits frames smaller := by
  unfold Admits at *
  split
  · exact fun later isLater => admits later (included isLater)
  · trivial

/-- The state after the lexemes of a tree. -/
def afterTree (tree : Tree Leaf) (state : Conversion) : Conversion :=
  { scan := Scan.settled
    output := (tree.emitted Leaf.token).reverse ++ state.output
    frames := tree.pending.map Frame.op ++ state.frames }

section Stack

variable {output : List Token} {pending : List Op} {frames : List Frame}

/-- Waiting operators that yield are put out, and the first that waits for the incoming operator
ends this. -/
theorem applyPending_append {incoming : BinaryOp}
    (yields : ∀ earlier ∈ pending, earlier.yieldsTo (.binary incoming) = true)
    (admits : Admits frames [incoming]) :
    applyPending (.binary incoming) output (pending.map Frame.op ++ frames) =
      ((pending.map Token.op).reverse ++ output, frames) := by
  induction pending generalizing output with
  | nil =>
      cases frames with
      | nil => rfl
      | cons frame rest =>
          cases frame with
          | enclosure enclosure => rfl
          | op waiting =>
              have waits := admits incoming (List.mem_singleton.mpr rfl)
              simp [applyPending, waits]
  | cons first later ih =>
      have firstYields := yields first List.mem_cons_self
      simp only [List.map_cons, List.cons_append, applyPending, firstYields, if_true]
      rw [ih fun earlier isEarlier => yields earlier (List.mem_cons_of_mem _ isEarlier)]
      simp

theorem unwind_append (enclosure : Enclosure) :
    unwind output (pending.map Frame.op ++ .enclosure enclosure :: frames) =
      ((pending.map Token.op).reverse ++ output, some (enclosure, frames)) := by
  induction pending generalizing output with
  | nil => rfl
  | cons first later ih => simp [unwind, ih]

theorem unwind_pending :
    unwind output (pending.map Frame.op) = ((pending.map Token.op).reverse ++ output, none) := by
  induction pending generalizing output with
  | nil => rfl
  | cons first later ih => simp [unwind, ih]

/-- What was put out for a tree, with the operators that wait, is the program of the tree. -/
theorem reverse_pending_append_emitted (tree : Tree Leaf) :
    (tree.pending.map Token.op).reverse ++ ((tree.emitted Leaf.token).reverse ++ output) =
      tree.program.reverse ++ output := by
  rw [← List.append_assoc, ← List.reverse_append, tree.emitted_append_pending Leaf.token]
  rfl

theorem unwind_afterTree {tree : Tree Leaf} {state : Conversion} {enclosure : Enclosure}
    (opened : state.frames = .enclosure enclosure :: frames) :
    unwind (state.afterTree tree).output (state.afterTree tree).frames =
      (tree.program.reverse ++ state.output, some (enclosure, frames)) := by
  simp only [afterTree, opened]
  rw [unwind_append, reverse_pending_append_emitted]

end Stack

section Steps

variable {arity? : String → Option Nat} {state : Conversion} {frames : List Frame}

theorem acceptAll_cons_of_ok {located : Lexeme.Located} {later : List Lexeme.Located}
    {next : Conversion}
    (accepted : state.accept arity? located.lexeme located.source located.rest = .ok next) :
    acceptAll arity? (located :: later) state = acceptAll arity? later next := by
  rw [acceptAll, accepted]

theorem acceptOperand_of_before {token : Token} (before : state.afterOperand = false) :
    state.acceptOperand token = .ok (complete token state.output state.frames) := by
  simp [acceptOperand, before, juxtapose_of_beforeOperand before]

theorem acceptOperator_sign {op : UnaryOp} (before : state.afterOperand = false) :
    state.acceptOperator op.sign = .ok (state.pushUnary op) := by
  cases op <;> simp [acceptOperator, UnaryOp.sign, before]

theorem pushBinary_afterTree {op : BinaryOp} {tree : Tree Leaf}
    (yields : ∀ earlier ∈ tree.pending, earlier.yieldsTo (.binary op) = true)
    (admits : Admits state.frames [op]) :
    (state.afterTree tree).pushBinary op =
      { scan :=
          { expects := .operand, inPattern := op == .regexMatch, lastOp := some (.binary op) }
        output := tree.program.reverse ++ state.output
        frames := .op (.binary op) :: state.frames } := by
  simp only [pushBinary, afterTree, applyPending_append yields admits,
    reverse_pending_append_emitted]

theorem closeGroup_afterTree {tree : Tree Leaf} (rest : List Char)
    (opened : state.frames = .enclosure .group :: frames) :
    (state.afterTree tree).closeGroup arity? rest =
      .ok { scan := Scan.settled, output := tree.program.reverse ++ state.output, frames } := by
  simp only [closeGroup, unwind_afterTree opened]
  rfl

theorem finishCall_of_known {name : String} {given : Nat} {output : List Token}
    (known : arity? name = some given) :
    finishCall arity? name given output frames =
      .ok (complete (.call name given) output frames) := by
  simp [finishCall, known]

theorem closeCall_of_empty {name : String} (rest : List Char)
    (expects : state.scan.expects = .firstArgument) (known : arity? name = some 0)
    (opened : state.frames = .enclosure (.call name 0) :: frames) :
    state.closeGroup arity? rest = .ok (complete (.call name 0) state.output frames) := by
  simp only [closeGroup, expects, opened]
  exact finishCall_of_known known

theorem closeCall_afterTree {tree : Tree Leaf} {name : String} {commas : Nat} (rest : List Char)
    (known : arity? name = some (commas + 1))
    (opened : state.frames = .enclosure (.call name commas) :: frames) :
    (state.afterTree tree).closeGroup arity? rest =
      .ok (complete (.call name (commas + 1)) (tree.program.reverse ++ state.output) frames) := by
  simp only [closeGroup, unwind_afterTree opened]
  exact finishCall_of_known known

theorem closeIndex_afterTree {tree : Tree Leaf} {source : List Char} (rest : List Char)
    (opened : state.frames = .enclosure (.index source) :: frames) :
    (state.afterTree tree).closeIndex ']' rest =
      .ok (complete .index (tree.program.reverse ++ state.output) frames) := by
  simp only [closeIndex, unwind_afterTree opened]
  rfl

theorem comma_afterTree {tree : Tree Leaf} {name : String} {commas : Nat}
    (opened : state.frames = .enclosure (.call name commas) :: frames) :
    (state.afterTree tree).comma =
      .ok
        { scan := Scan.fresh
          output := tree.program.reverse ++ state.output
          frames := .enclosure (.call name (commas + 1)) :: frames } := by
  simp only [comma, unwind_afterTree opened]
  rfl

end Steps

/-- A pass over the lexemes of a tree leads to the state after the tree, from every state in which
an operand may start and whose pending operator waits for the first operators of the tree. -/
def Follows (arity? : String → Option Nat) (tree : Tree Leaf) : Prop :=
  ∀ (located : List Lexeme.Located) (state : Conversion),
    located.map Lexeme.Located.lexeme = tree.lexemes → state.afterOperand = false →
      Admits state.frames tree.leading →
        acceptAll arity? located state = .ok (state.afterTree tree)

/-- A pass over leading arguments, each with its comma, puts out their programs. -/
theorem acceptAll_arguments {arity? : String → Option Nat} {name : String}
    {arguments : List (Tree Leaf)} (follows : ∀ argument ∈ arguments, Follows arity? argument)
    {located : List Lexeme.Located} {state : Conversion} {commas : Nat} {frames : List Frame}
    (written : located.map Lexeme.Located.lexeme =
      arguments.flatMap fun argument => argument.lexemes ++ [.comma])
    (before : state.afterOperand = false)
    (opened : state.frames = .enclosure (.call name commas) :: frames) :
    ∃ next, acceptAll arity? located state = .ok next ∧ next.afterOperand = false ∧
      next.output = (Tree.postorderAll Leaf.token arguments).reverse ++ state.output ∧
      next.frames = .enclosure (.call name (commas + arguments.length)) :: frames := by
  induction arguments generalizing located state commas with
  | nil =>
      cases List.map_eq_nil_iff.mp written
      exact ⟨state, rfl, before, rfl, opened⟩
  | cons argument rest ih =>
      rw [List.flatMap_cons, List.append_assoc] at written
      obtain ⟨first, afterFirst, rfl, firstWritten, written⟩ := List.map_eq_append_iff.mp written
      obtain ⟨⟨_, source, remaining⟩, later, rfl, rfl, laterWritten⟩ :=
        List.map_eq_cons_iff.mp written
      have firstAccepted := follows argument List.mem_cons_self first state firstWritten before
        (by rw [opened]; trivial)
      let middle : Conversion :=
        { scan := Scan.fresh
          output := argument.program.reverse ++ state.output
          frames := .enclosure (.call name (commas + 1)) :: frames }
      have commaAccepted :
          (state.afterTree argument).accept arity? .comma source remaining = .ok middle :=
        comma_afterTree opened
      have middleOpened : middle.frames = .enclosure (.call name (commas + 1)) :: frames := rfl
      obtain ⟨next, laterAccepted, nextBefore, nextOutput, nextFrames⟩ :=
        ih (fun other isOther => follows other (List.mem_cons_of_mem _ isOther)) laterWritten rfl
          middleOpened
      refine ⟨next, ?_, nextBefore, ?_, ?_⟩
      · rw [acceptAll_append firstAccepted, acceptAll_cons_of_ok commaAccepted]
        exact laterAccepted
      · rw [nextOutput, Tree.postorderAll, List.reverse_append, List.append_assoc]
        rfl
      · rw [nextFrames, List.length_cons, Nat.add_right_comm, Nat.add_assoc]

/-- A pass over a tree within an open construct ends with the lexeme that closes it. -/
theorem acceptAll_enclosed {arity? : String → Option Nat} {body : Tree Leaf}
    (follows : Follows arity? body) {located : List Lexeme.Located} {closing : Lexeme}
    (written : located.map Lexeme.Located.lexeme = body.lexemes ++ [closing])
    {state next : Conversion} {enclosure : Enclosure} {frames : List Frame}
    (before : state.afterOperand = false)
    (opened : state.frames = .enclosure enclosure :: frames)
    (closes : ∀ source rest,
      (state.afterTree body).accept arity? closing source rest = .ok next) :
    acceptAll arity? located state = .ok next := by
  obtain ⟨inner, last, rfl, innerWritten, lastWritten⟩ := List.map_eq_append_iff.mp written
  obtain ⟨⟨_, source, rest⟩, later, rfl, rfl, nothing⟩ := List.map_eq_cons_iff.mp lastWritten
  cases List.map_eq_nil_iff.mp nothing
  rw [acceptAll_append (follows inner state innerWritten before (by rw [opened]; trivial)),
    acceptAll_cons_of_ok (closes source rest)]
  rfl

section Passes

variable {arity? : String → Option Nat}

theorem follows_leaf (operand : Leaf) : Follows arity? (.leaf operand) := by
  intro located state written before admits
  rw [Tree.lexemes_leaf] at written
  obtain ⟨⟨_, source, rest⟩, later, rfl, rfl, nothing⟩ := List.map_eq_cons_iff.mp written
  cases List.map_eq_nil_iff.mp nothing
  have completes : state.accept arity? (.operand operand.token) source rest = _ :=
    acceptOperand_of_before before
  rw [acceptAll_cons_of_ok completes]
  rfl

theorem Follows.group {body : Tree Leaf} (follows : Follows arity? body) :
    Follows arity? (.group body) := by
  intro located state written before admits
  rw [Tree.lexemes_group] at written
  obtain ⟨⟨_, source, rest⟩, later, rfl, rfl, laterWritten⟩ := List.map_eq_cons_iff.mp written
  have opens : state.accept arity? .openGroup source rest = .ok state.openGroup := rfl
  have opened : state.openGroup.frames = .enclosure .group :: state.frames := by
    rw [openGroup, juxtapose_of_beforeOperand before]
  rw [acceptAll_cons_of_ok opens,
    acceptAll_enclosed follows laterWritten rfl opened
      fun _ remaining => closeGroup_afterTree remaining opened]
  simp only [openGroup, juxtapose_of_beforeOperand before]
  rfl

theorem Follows.unary {op : UnaryOp} {operand : Tree Leaf} (follows : Follows arity? operand)
    (waits : ∀ later ∈ operand.leading, (Op.unary op).yieldsTo (.binary later) = false) :
    Follows arity? (.unary op operand) := by
  intro located state written before admits
  rw [Tree.lexemes_unary] at written
  obtain ⟨⟨_, source, rest⟩, later, rfl, rfl, laterWritten⟩ := List.map_eq_cons_iff.mp written
  have pushes : state.accept arity? (.operator op.sign) source rest = _ :=
    acceptOperator_sign before
  rw [acceptAll_cons_of_ok pushes, follows later (state.pushUnary op) laterWritten rfl waits]
  simp [afterTree, pushUnary, Tree.pending, Tree.emitted]

/-- The operator applies all that waits in its left operand, and then waits for all with which its
right operand starts. -/
theorem Follows.binary {op : BinaryOp} {left right : Tree Leaf} (before : Follows arity? left)
    (after : Follows arity? right)
    (yields : ∀ earlier ∈ left.pending, earlier.yieldsTo (.binary op) = true)
    (waits : ∀ later ∈ right.leading, (Op.binary op).yieldsTo (.binary later) = false) :
    Follows arity? (.binary op left right) := by
  intro located state written stateBefore admits
  rw [Tree.lexemes_binary] at written
  obtain ⟨first, second, rfl, firstWritten, secondWritten⟩ := List.map_eq_append_iff.mp written
  obtain ⟨⟨_, source, rest⟩, later, rfl, rfl, laterWritten⟩ :=
    List.map_eq_cons_iff.mp secondWritten
  have leftAdmits := admits.subset (List.subset_append_left left.leading [op])
  have opAdmits := admits.subset (List.subset_append_right left.leading [op])
  let middle := (state.afterTree left).pushBinary op
  have pushes : (state.afterTree left).accept arity? (.operator (.binary op)) source rest =
      .ok middle := rfl
  have pushed : middle = _ := pushBinary_afterTree yields opAdmits
  have middleAdmits : Admits middle.frames right.leading := by
    rw [pushed]
    exact waits
  rw [acceptAll_append (before first state firstWritten stateBefore leftAdmits),
    acceptAll_cons_of_ok pushes, after later middle laterWritten rfl middleAdmits, pushed]
  simp [afterTree, Tree.pending, Tree.emitted, Tree.program]

theorem Follows.index {container selector : Tree Leaf} (before : Follows arity? container)
    (inside : Follows arity? selector) (primary : container.rootOp? = none) :
    Follows arity? (.index container selector) := by
  intro located state written stateBefore admits
  rw [Tree.lexemes_index] at written
  obtain ⟨first, second, rfl, firstWritten, secondWritten⟩ := List.map_eq_append_iff.mp written
  obtain ⟨⟨_, source, rest⟩, later, rfl, rfl, laterWritten⟩ :=
    List.map_eq_cons_iff.mp secondWritten
  -- No operator of a primary container waits, so its whole program was put out.
  have nothingPending := Tree.pending_eq_nil_iff.mpr primary
  have containerAdmits : Admits state.frames container.leading :=
    admits.subset (by rw [Tree.leading_of_primary primary]; exact List.nil_subset _)
  let middle := (state.afterTree container).openIndex source
  have opens : (state.afterTree container).accept arity? .openIndex source rest = .ok middle := rfl
  have opened : middle.frames = .enclosure (.index source) :: state.frames := by
    simp [middle, openIndex, afterTree, nothingPending]
  have containerEmitted := Tree.emitted_append_pending Leaf.token container
  rw [nothingPending, List.map_nil, List.append_nil] at containerEmitted
  rw [acceptAll_append (before first state firstWritten stateBefore containerAdmits),
    acceptAll_cons_of_ok opens,
    acceptAll_enclosed inside laterWritten rfl opened
      fun _ remaining => closeIndex_afterTree remaining opened]
  simp [middle, afterTree, openIndex, complete, Tree.pending, Tree.emitted, Tree.program,
    Tree.postorder, containerEmitted]

theorem openCall_of_before {state : Conversion} (name : String)
    (before : state.afterOperand = false) :
    state.openCall name =
      { scan := { Scan.fresh with expects := .firstArgument }
        output := state.output
        frames := .enclosure (.call name 0) :: state.frames } := by
  rw [openCall, juxtapose_of_beforeOperand before]

theorem follows_call_nil {name : String} (known : arity? name = some 0) :
    Follows arity? (.call name []) := by
  intro located state written before admits
  rw [Tree.lexemes_call_nil] at written
  obtain ⟨⟨_, source, rest⟩, _, rfl, rfl, laterWritten⟩ := List.map_eq_cons_iff.mp written
  obtain ⟨⟨_, closeSource, remaining⟩, _, rfl, rfl, nothing⟩ :=
    List.map_eq_cons_iff.mp laterWritten
  cases List.map_eq_nil_iff.mp nothing
  have opens : state.accept arity? (.openCall name) source rest = .ok (state.openCall name) := rfl
  have openedCall := openCall_of_before name before
  have opened : (state.openCall name).frames = .enclosure (.call name 0) :: state.frames := by
    rw [openedCall]
  have closes : (state.openCall name).accept arity? .closeGroup closeSource remaining = _ :=
    closeCall_of_empty remaining rfl known opened
  rw [acceptAll_cons_of_ok opens, acceptAll_cons_of_ok closes, openedCall]
  rfl

/-- The last argument has no comma after it but the end of the argument list. -/
theorem follows_call_concat {name : String} {initial : List (Tree Leaf)} {last : Tree Leaf}
    (follows : ∀ argument ∈ initial, Follows arity? argument) (lastFollows : Follows arity? last)
    (known : arity? name = some (initial ++ [last]).length) :
    Follows arity? (.call name (initial ++ [last])) := by
  intro located state written before admits
  rw [Tree.lexemes_call_concat] at written
  obtain ⟨⟨_, source, rest⟩, later, rfl, rfl, laterWritten⟩ := List.map_eq_cons_iff.mp written
  obtain ⟨first, second, rfl, firstWritten, secondWritten⟩ :=
    List.map_eq_append_iff.mp laterWritten
  have opens : state.accept arity? (.openCall name) source rest = .ok (state.openCall name) := rfl
  have openedCall := openCall_of_before name before
  have opened : (state.openCall name).frames = .enclosure (.call name 0) :: state.frames := by
    rw [openedCall]
  obtain ⟨next, firstAccepted, nextBefore, nextOutput, nextFrames⟩ :=
    acceptAll_arguments follows firstWritten rfl opened
  have lastKnown : arity? name = some (0 + initial.length + 1) := by
    rw [known, List.length_append, List.length_singleton, Nat.zero_add]
  rw [acceptAll_cons_of_ok opens, acceptAll_append firstAccepted,
    acceptAll_enclosed lastFollows secondWritten nextBefore nextFrames
      fun _ remaining => closeCall_afterTree remaining lastKnown nextFrames]
  simp [afterTree, complete, Tree.pending, Tree.emitted, Tree.program, Tree.postorder,
    Tree.postorderAll, nextOutput, openedCall]

/-- A pass over the lexemes of a grammatical tree leads to the state after the tree. -/
theorem follows_of_grammatical {tree : Tree Leaf} (grammatical : tree.Grammatical arity?) :
    Follows arity? tree := by
  induction grammatical with
  | leaf operand => exact follows_leaf operand
  | group inside ih => exact ih.group
  | unary inside waits ih => exact ih.unary waits
  | binary before after yields waits beforeIH afterIH => exact .binary beforeIH afterIH yields waits
  | index before inside primary beforeIH insideIH => exact .index beforeIH insideIH primary
  | @call name arguments inside known ih =>
      rcases List.eq_nil_or_concat arguments with rfl | ⟨initial, last, rfl⟩
      · exact follows_call_nil known
      · rw [List.concat_eq_append] at *
        obtain ⟨follows, lastFollows⟩ := List.forall_mem_append.mp ih
        exact follows_call_concat follows (List.forall_mem_singleton.mp lastFollows) known

end Passes

/-- After a whole tree the program is that of the tree. -/
theorem finish_afterTree (tree : Tree Leaf) : (start.afterTree tree).finish = .ok tree.program := by
  have finished : unwind (start.afterTree tree).output (start.afterTree tree).frames =
      (tree.program.reverse, none) := by
    simp only [afterTree, start, List.append_nil]
    rw [unwind_pending, ← List.reverse_append, tree.emitted_append_pending Leaf.token]
    rfl
  simp only [finish, finished]
  simp [afterTree, afterOperand, Scan.settled]

/-- An expression whose lexemes are those of a grammatical tree converts to the program of the
tree. -/
theorem convert_of_grammatical {arity? : String → Option Nat} {source : String}
    {tree : Tree Leaf} (grammatical : tree.Grammatical arity?)
    (written : Lexeme.sequence arity? source = .ok tree.lexemes) :
    convert arity? source = .ok tree.program := by
  obtain ⟨located, cut, lexemes⟩ := map_eq_ok_iff.mp written
  refine convert_eq_ok_iff.mpr ⟨located, start.afterTree tree, cut, ?_, finish_afterTree tree⟩
  exact follows_of_grammatical grammatical located start lexemes rfl trivial

end Calculator.Conversion
