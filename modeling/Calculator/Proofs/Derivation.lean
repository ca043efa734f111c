import Calculator.Proofs.Acceptance

/-!
# Accepted lexemes have a tree

What a pass has read so far is a tree that is not finished: every entry of its stack stands for an
operator or an open construct together with the complete trees before it, and the tokens that
were put out are the programs of these trees.  Every lexeme that is accepted keeps this outline.
The main statement is that a conversion which succeeds puts out the program of a grammatical tree,
and that the lexemes of this tree are those of the text, with a multiplication sign wherever two
operands meet.
-/

namespace Calculator

/-- An entry of the stack with the complete trees that were read at the same place before it. -/
inductive Slot
  | unary (op : UnaryOp)
  | binary (left : Tree Leaf) (op : BinaryOp)
  | group
  | call (name : String) (arguments : List (Tree Leaf))
  | index (container : Tree Leaf) (source : List Char)

namespace Slot

/-- The entry of the stack. -/
@[simp]
def frame : Slot → Frame
  | unary op => .op (.unary op)
  | binary _ op => .op (.binary op)
  | group => .enclosure .group
  | call name arguments => .enclosure (.call name arguments.length)
  | index _ source => .enclosure (.index source)

/-- The tokens that were put out for a slot. -/
@[simp]
def program : Slot → Program
  | unary _ | group => []
  | binary left _ => left.program
  | call _ arguments => Tree.postorderAll Leaf.token arguments
  | index container _ => container.program

/-- The lexemes of a slot. -/
@[simp]
def lexemes : Slot → List Lexeme
  | unary op => [.operator op.sign]
  | binary left op => left.lexemes ++ [.operator (.binary op)]
  | group => [.openGroup]
  | call name arguments =>
    .openCall name :: arguments.flatMap fun argument => argument.lexemes ++ [.comma]
  | index container _ => container.lexemes ++ [.openIndex]

/-- The stack of several slots. -/
def frames (slots : List Slot) : List Frame :=
  slots.map frame

/-- The tokens that were put out for several slots, the latest first. -/
def output : List Slot → List Token
  | [] => []
  | slot :: rest => slot.program.reverse ++ output rest

/-- The lexemes of several slots, from the lowest to the highest. -/
def read : List Slot → List Lexeme
  | [] => []
  | slot :: rest => read rest ++ slot.lexemes

@[simp]
theorem frames_cons (slot : Slot) (rest : List Slot) :
    frames (slot :: rest) = slot.frame :: frames rest :=
  rfl

@[simp]
theorem output_cons (slot : Slot) (rest : List Slot) :
    output (slot :: rest) = slot.program.reverse ++ output rest :=
  rfl

@[simp]
theorem read_cons (slot : Slot) (rest : List Slot) :
    read (slot :: rest) = read rest ++ slot.lexemes :=
  rfl

/-- Slots that a pass can build on its stack. -/
inductive Stacked (arity? : String → Option Nat) : List Slot → Prop
  | nil : Stacked arity? []
  | unary {op : UnaryOp} {rest : List Slot} (below : Stacked arity? rest) :
      Stacked arity? (unary op :: rest)
  | binary {left : Tree Leaf} {op : BinaryOp} {rest : List Slot} (below : Stacked arity? rest)
      (before : left.Grammatical arity?)
      (yields : ∀ earlier ∈ left.pending, earlier.yieldsTo (.binary op) = true)
      (admits : Conversion.Admits (frames rest) (left.leading ++ [op])) :
      Stacked arity? (binary left op :: rest)
  | group {rest : List Slot} (below : Stacked arity? rest) : Stacked arity? (group :: rest)
  | call {name : String} {arguments : List (Tree Leaf)} {rest : List Slot}
      (below : Stacked arity? rest)
      (inside : ∀ argument ∈ arguments, argument.Grammatical arity?)
      (known : (arity? name).isSome = true) : Stacked arity? (call name arguments :: rest)
  | index {container : Tree Leaf} {source : List Char} {rest : List Slot}
      (below : Stacked arity? rest) (before : container.Grammatical arity?)
      (primary : container.rootOp? = none) : Stacked arity? (index container source :: rest)

end Slot

namespace Conversion

theorem admits_nil (frames : List Frame) : Admits frames [] := by
  unfold Admits
  split
  · exact fun _ member => nomatch member
  · trivial

theorem admits_concat {pending : Op} {frames : List Frame} {leading : List BinaryOp}
    {incoming : BinaryOp} (admits : Admits (.op pending :: frames) leading)
    (waits : pending.yieldsTo (.binary incoming) = false) :
    Admits (.op pending :: frames) (leading ++ [incoming]) := by
  intro later isLater
  rcases List.mem_append.mp isLater with isLeading | isIncoming
  · exact admits later isLeading
  · rw [List.mem_singleton.mp isIncoming]
    exact waits

theorem applyPending_of_waits {pending incoming : Op} {output : List Token}
    {frames : List Frame} (waits : pending.yieldsTo incoming = false) :
    applyPending incoming output (.op pending :: frames) = (output, .op pending :: frames) := by
  simp [applyPending, waits]

theorem yields_concat {pending : Op} {earlier : List Op} {incoming : BinaryOp}
    (yields : ∀ op ∈ earlier, op.yieldsTo (.binary incoming) = true)
    (pops : pending.yieldsTo (.binary incoming) = true) :
    ∀ op ∈ earlier ++ [pending], op.yieldsTo (.binary incoming) = true := by
  intro op isOp
  rcases List.mem_append.mp isOp with isEarlier | isPending
  · exact yields op isEarlier
  · rw [List.mem_singleton.mp isPending]
    exact pops

/-- The output and the stack hold the left operand of an operator that was just read. -/
def HoldsLeft (arity? : String → Option Nat) (incoming : BinaryOp) (read : List Lexeme)
    (applied : List Token × List Frame) : Prop :=
  ∃ left rest,
    applied = (left.program.reverse ++ Slot.output rest, Slot.frames rest) ∧
      Slot.Stacked arity? (.binary left incoming :: rest) ∧
      Slot.read rest ++ left.lexemes = read

/-- The output and the stack hold a complete tree and the innermost open construct before it, if
there is one. -/
def HoldsBody (arity? : String → Option Nat) (read : List Lexeme)
    (unwound : List Token × Option (Enclosure × List Frame)) : Prop :=
  ∃ body : Tree Leaf, body.Grammatical arity? ∧
    ((unwound = (body.program.reverse, none) ∧ body.lexemes = read) ∨
      ∃ slot rest enclosure, Slot.frame slot = .enclosure enclosure ∧
        Slot.Stacked arity? (slot :: rest) ∧
        unwound =
          (body.program.reverse ++ Slot.output (slot :: rest),
            some (enclosure, Slot.frames rest)) ∧
        Slot.read (slot :: rest) ++ body.lexemes = read)

section Pending

variable {arity? : String → Option Nat} {slots : List Slot} {operand : Tree Leaf}

/-- Applying the pending operators builds the left operand of the incoming operator. -/
theorem applyPending_holdsLeft {incoming : BinaryOp} (stacked : Slot.Stacked arity? slots)
    (grammatical : operand.Grammatical arity?)
    (yields : ∀ earlier ∈ operand.pending, earlier.yieldsTo (.binary incoming) = true)
    (admits : Admits (Slot.frames slots) operand.leading) :
    HoldsLeft arity? incoming (Slot.read slots ++ operand.lexemes)
      (applyPending (.binary incoming) (operand.program.reverse ++ Slot.output slots)
        (Slot.frames slots)) := by
  -- The operand grows down the stack: an operator that is put out becomes its root.
  induction stacked generalizing operand with
  | nil => exact ⟨operand, [], rfl, .binary .nil grammatical yields trivial, rfl⟩
  | @unary op rest below ih =>
      cases pops : (Op.unary op).yieldsTo (.binary incoming) with
      | false =>
          exact ⟨operand, .unary op :: rest, applyPending_of_waits pops,
            .binary (.unary below) grammatical yields (admits_concat admits pops), rfl⟩
      | true =>
          have applied := ih (.unary grammatical admits) (yields_concat yields pops)
            (admits_nil _)
          simpa [applyPending, pops, Tree.program, Tree.postorder] using applied
  | @binary left op rest below before leftYields leftAdmits ih =>
      cases pops : (Op.binary op).yieldsTo (.binary incoming) with
      | false =>
          exact ⟨operand, .binary left op :: rest, applyPending_of_waits pops,
            .binary (.binary below before leftYields leftAdmits) grammatical yields
              (admits_concat admits pops), rfl⟩
      | true =>
          have applied := ih (.binary before grammatical leftYields admits)
            (yields_concat yields pops) leftAdmits
          simpa [applyPending, pops, Tree.program, Tree.postorder] using applied
  | @group rest below =>
      exact ⟨operand, _, rfl, .binary (.group below) grammatical yields trivial, rfl⟩
  | @call name arguments rest below inside known =>
      exact ⟨operand, _, rfl, .binary (.call below inside known) grammatical yields trivial, rfl⟩
  | @index container source rest below before primary =>
      exact ⟨operand, _, rfl, .binary (.index below before primary) grammatical yields trivial,
        rfl⟩

/-- Applying all operators down to the innermost open construct completes the tree in it. -/
theorem unwind_holdsBody (stacked : Slot.Stacked arity? slots)
    (grammatical : operand.Grammatical arity?)
    (admits : Admits (Slot.frames slots) operand.leading) :
    HoldsBody arity? (Slot.read slots ++ operand.lexemes)
      (unwind (operand.program.reverse ++ Slot.output slots) (Slot.frames slots)) := by
  induction stacked generalizing operand with
  | nil => exact ⟨operand, grammatical, Or.inl ⟨by simp [Slot.output, Slot.frames, unwind], rfl⟩⟩
  | @unary op rest below ih =>
      have unwound := ih (.unary grammatical admits) (admits_nil _)
      simpa [unwind, Tree.program, Tree.postorder] using unwound
  | @binary left op rest below before leftYields leftAdmits ih =>
      have unwound := ih (.binary before grammatical leftYields admits) leftAdmits
      simpa [unwind, Tree.program, Tree.postorder] using unwound
  | @group rest below =>
      exact ⟨operand, grammatical, Or.inr ⟨.group, rest, _, rfl, .group below, rfl, rfl⟩⟩
  | @call name arguments rest below inside known =>
      exact ⟨operand, grammatical,
        Or.inr ⟨.call name arguments, rest, _, rfl, .call below inside known, rfl, rfl⟩⟩
  | @index container source rest below before primary =>
      exact ⟨operand, grammatical,
        Or.inr ⟨.index container source, rest, _, rfl, .index below before primary, rfl, rfl⟩⟩

end Pending

section Bodies

variable {arity? : String → Option Nat} {read : List Lexeme} {output : List Token}
  {frames : List Frame}

theorem HoldsBody.of_none (holds : HoldsBody arity? read (output, none)) :
    ∃ body : Tree Leaf, body.Grammatical arity? ∧ output = body.program.reverse ∧
      body.lexemes = read := by
  obtain ⟨body, grammatical, ⟨equal, bodyRead⟩ | ⟨_, _, _, _, _, equal, _⟩⟩ := holds
  · cases equal
    exact ⟨body, grammatical, rfl, bodyRead⟩
  · cases equal

theorem HoldsBody.of_some {enclosure : Enclosure}
    (holds : HoldsBody arity? read (output, some (enclosure, frames))) :
    ∃ (body : Tree Leaf) (slot : Slot) (rest : List Slot), body.Grammatical arity? ∧
      slot.frame = .enclosure enclosure ∧ Slot.Stacked arity? (slot :: rest) ∧
      output = body.program.reverse ++ Slot.output (slot :: rest) ∧
      frames = Slot.frames rest ∧ Slot.read (slot :: rest) ++ body.lexemes = read := by
  obtain ⟨body, grammatical,
    ⟨equal, _⟩ | ⟨slot, rest, _, frame, stacked, equal, bodyRead⟩⟩ := holds
  · cases equal
  · cases equal
    exact ⟨body, slot, rest, grammatical, frame, stacked, rfl, rfl, bodyRead⟩

theorem HoldsBody.group (holds : HoldsBody arity? read (output, some (.group, frames))) :
    ∃ (body : Tree Leaf) (rest : List Slot), (Tree.group body).Grammatical arity? ∧
      Slot.Stacked arity? rest ∧ output = (Tree.group body).program.reverse ++ Slot.output rest ∧
      frames = Slot.frames rest ∧
      Slot.read rest ++ (Tree.group body).lexemes = read ++ [.closeGroup] := by
  obtain ⟨body, slot, rest, grammatical, frame, stacked, rfl, rfl, rfl⟩ := holds.of_some
  cases slot with
  | group =>
      cases stacked with
      | group below =>
          exact ⟨body, rest, .group grammatical, below, rfl, rfl, by simp⟩
  | _ => cases frame

/-- The end of an argument completes the last argument of a call. -/
theorem HoldsBody.call {name : String} {commas : Nat}
    (holds : HoldsBody arity? read (output, some (.call name commas, frames))) :
    ∃ (arguments : List (Tree Leaf)) (rest : List Slot),
      arguments.length = commas + 1 ∧ Slot.Stacked arity? (.call name arguments :: rest) ∧
      output = Slot.output (.call name arguments :: rest) ∧ frames = Slot.frames rest ∧
      Slot.read (.call name arguments :: rest) = read ++ [.comma] ∧
      Slot.read rest ++ (Tree.call name arguments).lexemes = read ++ [.closeGroup] := by
  obtain ⟨body, slot, rest, grammatical, frame, stacked, rfl, rfl, rfl⟩ := holds.of_some
  cases slot with
  | call slotName arguments =>
      cases frame
      cases stacked with
      | call below inside known =>
          have allInside : ∀ argument ∈ arguments ++ [body], argument.Grammatical arity? :=
            List.forall_mem_append.mpr ⟨inside, List.forall_mem_singleton.mpr grammatical⟩
          refine ⟨arguments ++ [body], rest, by simp, .call below allInside known, ?_, rfl, ?_, ?_⟩
          · simp [Tree.postorderAll, Tree.program]
          · simp
          · rw [Tree.lexemes_call_concat]
            simp
  | _ => cases frame

theorem HoldsBody.index {source : List Char}
    (holds : HoldsBody arity? read (output, some (.index source, frames))) :
    ∃ (container selector : Tree Leaf) (rest : List Slot),
      (Tree.index container selector).Grammatical arity? ∧ Slot.Stacked arity? rest ∧
      .index :: output = (Tree.index container selector).program.reverse ++ Slot.output rest ∧
      frames = Slot.frames rest ∧
      Slot.read rest ++ (Tree.index container selector).lexemes = read ++ [.closeIndex ']'] := by
  obtain ⟨body, slot, rest, grammatical, frame, stacked, rfl, rfl, rfl⟩ := holds.of_some
  cases slot with
  | index container slotSource =>
      cases stacked with
      | index below before primary =>
          refine ⟨container, body, rest, .index before grammatical primary, below, ?_, rfl, ?_⟩
          · simp [Tree.program, Tree.postorder]
          · simp
  | _ => cases frame

end Bodies

/-- What a state has read so far.  After an operand this is a complete primary tree on top of the
stack; before one it is the stack alone, with a call that has no arguments yet on top if its
first argument may follow. -/
inductive Outlines (arity? : String → Option Nat) : Conversion → List Lexeme → Prop
  | afterOperand {slots : List Slot} {operand : Tree Leaf}
      (stacked : Slot.Stacked arity? slots) (grammatical : operand.Grammatical arity?)
      (primary : operand.rootOp? = none) :
      Outlines arity?
        { scan := Scan.settled
          output := operand.program.reverse ++ Slot.output slots
          frames := Slot.frames slots }
        (Slot.read slots ++ operand.lexemes)
  | beforeOperand {slots : List Slot} {scan : Scan} (stacked : Slot.Stacked arity? slots)
      (expects : scan.expects ≠ .operator)
      (first : scan.expects = .firstArgument → ∃ name rest, slots = .call name [] :: rest) :
      Outlines arity?
        { scan, output := Slot.output slots, frames := Slot.frames slots } (Slot.read slots)

section Steps

variable {arity? : String → Option Nat} {state next : Conversion} {read : List Lexeme}

theorem start_outlines : Outlines arity? start [] :=
  .beforeOperand .nil nofun nofun

theorem Outlines.tidy (outlines : Outlines arity? state read) : state.Tidy := by
  cases outlines with
  | afterOperand stacked grammatical primary => exact fun _ => rfl
  | beforeOperand stacked expects first =>
      exact fun after => absurd (eq_of_beq after) expects

theorem Outlines.holdsBody (outlines : Outlines arity? state read)
    (after : state.afterOperand = true) :
    HoldsBody arity? read (unwind state.output state.frames) := by
  cases outlines with
  | beforeOperand stacked expects first => exact absurd (eq_of_beq after) expects
  | afterOperand stacked grammatical primary =>
      exact unwind_holdsBody stacked grammatical
        (by rw [Tree.leading_of_primary primary]; exact admits_nil _)

theorem outlines_of_primary {slots : List Slot} {operand : Tree Leaf} {written : List Lexeme}
    (stacked : Slot.Stacked arity? slots) (grammatical : operand.Grammatical arity?)
    (primary : operand.rootOp? = none) (settled : next.scan = Scan.settled)
    (nextOutput : next.output = operand.program.reverse ++ Slot.output slots)
    (nextFrames : next.frames = Slot.frames slots)
    (nextRead : Slot.read slots ++ operand.lexemes = written) : Outlines arity? next written := by
  obtain ⟨scan, output, frames⟩ := next
  cases settled
  cases nextOutput
  cases nextFrames
  rw [← nextRead]
  exact .afterOperand stacked grammatical primary

theorem outlines_of_slot {slot : Slot} {slots : List Slot} {written : List Lexeme}
    (stacked : Slot.Stacked arity? (slot :: slots)) (expects : next.scan.expects ≠ .operator)
    (first : next.scan.expects = .firstArgument → ∃ name, slot = .call name [])
    (nextOutput : next.output = Slot.output (slot :: slots))
    (nextFrames : next.frames = Slot.frames (slot :: slots))
    (nextRead : Slot.read (slot :: slots) = written) : Outlines arity? next written := by
  obtain ⟨scan, output, frames⟩ := next
  cases nextOutput
  cases nextFrames
  rw [← nextRead]
  refine .beforeOperand stacked expects fun expectsFirst => ?_
  obtain ⟨name, isCall⟩ := first expectsFirst
  exact ⟨name, slots, by rw [isCall]⟩

theorem Outlines.pushBinary (outlines : Outlines arity? state read)
    (after : state.afterOperand = true) (op : BinaryOp) :
    Outlines arity? (state.pushBinary op) (read ++ [.operator (.binary op)]) := by
  cases outlines with
  | beforeOperand stacked expects first => exact absurd (eq_of_beq after) expects
  | @afterOperand slots operand stacked grammatical primary =>
      have holds : HoldsLeft arity? op _ _ := applyPending_holdsLeft stacked grammatical
        (by simp [Tree.pending_eq_nil_iff.mpr primary])
        (by rw [Tree.leading_of_primary primary]; exact admits_nil _)
      obtain ⟨left, rest, applied, leftStacked, leftRead⟩ := holds
      refine outlines_of_slot leftStacked nofun nofun ?_ ?_ ?_
      · simp only [Conversion.pushBinary, applied]
        rfl
      · simp only [Conversion.pushBinary, applied]
        rfl
      · rw [← leftRead]
        simp

theorem Outlines.slots (outlines : Outlines arity? state read)
    (before : state.afterOperand = false) :
    ∃ slots, Slot.Stacked arity? slots ∧ state.output = Slot.output slots ∧
      state.frames = Slot.frames slots ∧ Slot.read slots = read := by
  cases outlines with
  | afterOperand stacked grammatical primary => cases before
  | beforeOperand stacked expects first => exact ⟨_, stacked, rfl, rfl, rfl⟩

/-- Before the start of an operand, an operand that is complete is multiplied with it. -/
theorem Outlines.juxtapose (outlines : Outlines arity? state read) {lexeme : Lexeme}
    (starts : lexeme.startsOperand = true) :
    Outlines arity? state.juxtapose (read ++ lexeme.understood state.afterOperand) ∧
      state.juxtapose.afterOperand = false := by
  cases after : state.afterOperand with
  | true =>
      rw [juxtapose_of_afterOperand after, Lexeme.understood, starts]
      exact ⟨outlines.pushBinary after .multiply, rfl⟩
  | false =>
      rw [juxtapose_of_beforeOperand after, Lexeme.understood, Bool.false_and]
      exact ⟨by simpa using outlines, after⟩

theorem Outlines.acceptOperand (outlines : Outlines arity? state read) {leaf : Leaf}
    (accepted : state.acceptOperand leaf.token = .ok next) :
    Outlines arity? next
      (read ++ (Lexeme.understood state.afterOperand (.operand leaf.token) ++
        [.operand leaf.token])) := by
  have starts : (Lexeme.operand leaf.token).startsOperand = true := rfl
  obtain ⟨ready, before⟩ := outlines.juxtapose starts
  obtain ⟨slots, stacked, readyOutput, readyFrames, readyRead⟩ := ready.slots before
  have grammatical : (Tree.leaf leaf).Grammatical arity? := .leaf leaf
  unfold Conversion.acceptOperand at accepted
  split at accepted
  · cases accepted
  · cases accepted
    refine outlines_of_primary stacked grammatical rfl rfl ?_ readyFrames ?_
    · rw [← readyOutput]
      rfl
    · rw [readyRead, ← List.append_assoc]
      rfl

theorem Outlines.acceptOperator (outlines : Outlines arity? state read) {sign : OperatorSign}
    (accepted : state.acceptOperator sign = .ok next) :
    Outlines arity? next (read ++ [.operator sign]) := by
  rcases acceptOperator_cases accepted with ⟨after, op, rfl, rfl⟩ | ⟨before, op, rfl, rfl⟩
  · exact outlines.pushBinary after op
  · obtain ⟨slots, stacked, output, frames, slotsRead⟩ := outlines.slots before
    have unaryStacked : Slot.Stacked arity? (.unary op :: slots) := .unary stacked
    refine outlines_of_slot unaryStacked nofun nofun output ?_ ?_
    · simp only [pushUnary, frames]
      rfl
    · rw [← slotsRead]
      rfl

theorem Outlines.openGroup (outlines : Outlines arity? state read) :
    Outlines arity? state.openGroup
      (read ++ (Lexeme.understood state.afterOperand .openGroup ++ [.openGroup])) := by
  have starts : Lexeme.openGroup.startsOperand = true := rfl
  obtain ⟨ready, before⟩ := outlines.juxtapose starts
  obtain ⟨slots, stacked, output, frames, slotsRead⟩ := ready.slots before
  have groupStacked : Slot.Stacked arity? (.group :: slots) := .group stacked
  refine outlines_of_slot groupStacked nofun nofun output ?_ ?_
  · simp only [Conversion.openGroup, frames]
    rfl
  · rw [← List.append_assoc, ← slotsRead]
    rfl

theorem Outlines.openCall (outlines : Outlines arity? state read) {name : String}
    (known : (arity? name).isSome = true) :
    Outlines arity? (state.openCall name)
      (read ++ (Lexeme.understood state.afterOperand (.openCall name) ++ [.openCall name])) := by
  have starts : (Lexeme.openCall name).startsOperand = true := rfl
  obtain ⟨ready, before⟩ := outlines.juxtapose starts
  obtain ⟨slots, stacked, output, frames, slotsRead⟩ := ready.slots before
  have callStacked : Slot.Stacked arity? (.call name [] :: slots) :=
    .call stacked (fun _ member => nomatch member) known
  refine outlines_of_slot callStacked nofun (fun _ => ⟨name, rfl⟩) output ?_ ?_
  · simp only [Conversion.openCall, frames]
    rfl
  · rw [← List.append_assoc, ← slotsRead]
    rfl

theorem Outlines.openIndex (outlines : Outlines arity? state read)
    (after : state.afterOperand = true) (source : List Char) :
    Outlines arity? (state.openIndex source) (read ++ [.openIndex]) := by
  cases outlines with
  | beforeOperand stacked expects first => exact absurd (eq_of_beq after) expects
  | @afterOperand slots operand stacked grammatical primary =>
      have indexStacked : Slot.Stacked arity? (.index operand source :: slots) :=
        .index stacked grammatical primary
      refine outlines_of_slot indexStacked nofun nofun rfl rfl ?_
      simp

theorem outlines_of_finishCall {name : String} {arguments : List (Tree Leaf)}
    {slots : List Slot} {output : List Token} {frames : List Frame} {written : List Lexeme}
    (stacked : Slot.Stacked arity? (.call name arguments :: slots))
    (argumentsOutput : output = Slot.output (.call name arguments :: slots))
    (argumentsFrames : frames = Slot.frames slots)
    (callRead : Slot.read slots ++ (Tree.call name arguments).lexemes = written)
    (finished : finishCall arity? name arguments.length output frames = .ok next) :
    Outlines arity? next written := by
  obtain ⟨below, inside⟩ : Slot.Stacked arity? slots ∧
      ∀ argument ∈ arguments, argument.Grammatical arity? := by
    cases stacked with
    | call below inside known => exact ⟨below, inside⟩
  unfold finishCall at finished
  split at finished
  · cases finished
  · next arity found =>
    split at finished
    · next complete =>
      cases finished
      have grammatical : (Tree.call name arguments).Grammatical arity? :=
        .call inside (by rw [found, complete])
      refine outlines_of_primary below grammatical rfl rfl ?_ argumentsFrames callRead
      rw [argumentsOutput]
      simp [Conversion.complete, Tree.program, Tree.postorder]
    · cases finished

theorem Outlines.closeGroup (outlines : Outlines arity? state read) {rest : List Char}
    (closed : state.closeGroup arity? rest = .ok next) :
    Outlines arity? next (read ++ [.closeGroup]) := by
  unfold Conversion.closeGroup at closed
  split at closed
  · next expectsFirst =>
    cases outlines with
    | afterOperand stacked grammatical primary => cases expectsFirst
    | beforeOperand stacked expects first =>
        obtain ⟨name, slots, rfl⟩ := first expectsFirst
        cases stacked with
        | call below inside known =>
            exact outlines_of_finishCall (.call below inside known) rfl rfl (by simp) closed
  · cases closed
  · next expectsOperator =>
    have holds := outlines.holdsBody (beq_iff_eq.mpr expectsOperator)
    split at closed
    · next unwound =>
      rw [unwound] at holds
      obtain ⟨body, slots, grammatical, stacked, rfl, rfl, bodyRead⟩ := holds.group
      cases closed
      exact outlines_of_primary stacked grammatical rfl rfl rfl rfl bodyRead
    · next unwound =>
      rw [unwound] at holds
      obtain ⟨arguments, slots, count, stacked, output, frames, -, callRead⟩ := holds.call
      rw [← count] at closed
      exact outlines_of_finishCall stacked output frames callRead closed
    · cases closed
    · cases closed

theorem Outlines.closeIndex (outlines : Outlines arity? state read) {bracket : Char}
    {rest : List Char} (closed : state.closeIndex bracket rest = .ok next) :
    Outlines arity? next (read ++ [.closeIndex bracket]) := by
  unfold Conversion.closeIndex at closed
  split at closed
  · next after =>
    have holds := outlines.holdsBody after
    split at closed
    · next unwound =>
      rw [unwound] at holds
      obtain ⟨container, selector, slots, grammatical, stacked, output, rfl, indexRead⟩ :=
        holds.index
      split at closed
      · next isBracket =>
        cases closed
        rw [isBracket]
        exact outlines_of_primary stacked grammatical rfl rfl output rfl indexRead
      · cases closed
    · cases closed
    · cases closed
  · split at closed <;> cases closed

theorem Outlines.comma (outlines : Outlines arity? state read)
    (accepted : state.comma = .ok next) : Outlines arity? next (read ++ [.comma]) := by
  unfold Conversion.comma at accepted
  split at accepted
  · next after =>
    have holds := outlines.holdsBody after
    split at accepted
    · next unwound =>
      rw [unwound] at holds
      obtain ⟨arguments, slots, count, stacked, rfl, rfl, commaRead, -⟩ := holds.call
      cases accepted
      refine outlines_of_slot stacked nofun nofun rfl ?_ commaRead
      rw [← count]
      rfl
    · cases accepted
  · cases accepted

/-- Every lexeme that is accepted is added to what was read, after the multiplication sign that is
understood before it. -/
theorem Outlines.accept (outlines : Outlines arity? state read) {lexeme : Lexeme}
    {source rest : List Char} (proper : lexeme.Proper arity? state.mode)
    (accepted : state.accept arity? lexeme source rest = .ok next) :
    Outlines arity? next (read ++ (lexeme.understood state.afterOperand ++ [lexeme])) := by
  have nothing (marks : lexeme.startsOperand = false) :
      lexeme.understood state.afterOperand = [] := by
    simp [Lexeme.understood, marks]
  cases lexeme with
  | operand token =>
      obtain ⟨leaf, rfl⟩ := proper
      exact outlines.acceptOperand accepted
  | openGroup =>
      cases accepted
      exact outlines.openGroup
  | openCall name =>
      cases accepted
      exact outlines.openCall proper
  | openIndex =>
      cases accepted
      rw [nothing rfl]
      exact outlines.openIndex proper source
  | operator sign =>
      rw [nothing rfl]
      exact outlines.acceptOperator accepted
  | closeGroup =>
      rw [nothing rfl]
      exact outlines.closeGroup accepted
  | closeIndex bracket =>
      rw [nothing rfl]
      exact outlines.closeIndex accepted
  | comma =>
      rw [nothing rfl]
      exact outlines.comma accepted

/-- Accepting the lexemes of a text adds them to what was read, with multiplication signs between
operands. -/
theorem Outlines.acceptAll (outlines : Outlines arity? state read)
    {located : List Lexeme.Located} {chars : List Char} {final : Conversion}
    (cut : Lexeme.locate arity? state.mode chars = .ok located)
    (accepted : acceptAll arity? located state = .ok final) :
    Outlines arity? final
      (read ++ Lexeme.withProducts state.afterOperand (located.map Lexeme.Located.lexeme)) := by
  induction located generalizing state read chars with
  | nil =>
      cases accepted
      simpa [Lexeme.withProducts] using outlines
  | cons first later ih =>
      obtain ⟨found, laterCut⟩ := Lexeme.locate_cons cut
      rw [Conversion.acceptAll] at accepted
      split at accepted
      · cases accepted
      · next middle firstAccepted =>
        have middleOutlines := outlines.accept (Lexeme.next_proper found) firstAccepted
        -- The text was cut in the modes of the lexemes, which are those of the states.
        have middleMode := (accept_mode outlines.tidy firstAccepted).2
        have middleAfter := afterOperand_of_accept outlines.tidy firstAccepted
        have finished := ih middleOutlines (middleMode ▸ laterCut) accepted
        rw [middleAfter] at finished
        simpa [Lexeme.withProducts] using finished

/-- At the end of a text, what was read is a grammatical tree. -/
theorem Outlines.finish (outlines : Outlines arity? state read) {program : Program}
    (finished : state.finish = .ok program) :
    ∃ tree : Tree Leaf, tree.Grammatical arity? ∧ tree.lexemes = read ∧
      program = tree.program := by
  unfold Conversion.finish at finished
  split at finished
  · next after =>
    have holds := outlines.holdsBody after
    split at finished
    · next unwound =>
      rw [unwound] at holds
      obtain ⟨tree, grammatical, rfl, treeRead⟩ := holds.of_none
      cases finished
      exact ⟨tree, grammatical, treeRead, List.reverse_reverse _⟩
    · cases finished
  · split at finished
    · cases finished
    · split at finished <;> cases finished

/-- The program of an expression that converts is that of a grammatical tree, whose lexemes are
those of the expression with multiplication signs between operands. -/
theorem exists_tree_of_convert {source : String} {program : Program}
    (converted : convert arity? source = .ok program) :
    ∃ (lexemes : List Lexeme) (tree : Tree Leaf),
      Lexeme.sequence arity? source = .ok lexemes ∧ tree.Grammatical arity? ∧
        tree.lexemes = Lexeme.withProducts false lexemes ∧ program = tree.program := by
  obtain ⟨located, final, cut, accepted, finished⟩ := convert_eq_ok_iff.mp converted
  have outlines := start_outlines.acceptAll cut accepted
  obtain ⟨tree, grammatical, treeRead, isProgram⟩ := outlines.finish finished
  refine ⟨located.map Lexeme.Located.lexeme, tree, ?_, grammatical, treeRead, isProgram⟩
  rw [Lexeme.sequence, cut]
  rfl

end Steps

end Conversion

end Calculator
