import Calculator.Conversion
import Calculator.Proofs.Cursor

/-!
# Converting with a cursor

A conversion that reads with a cursor keeps, for an index that is still open, the byte offset of its
bracket instead of the text from there on.  Looking up these offsets turns its state into a state of
the conversion that reads from a list, and commutes with what every lexeme does.  A pass of the main
loop therefore ends as it does there, or else it moves the cursor forward: no slice between offsets
ever fails, and every conversion ends.  The cut of a line at its equals sign is looked for in the
bytes of the line, and there, too, both slices exist.
-/

namespace Calculator

namespace Cursor

open Text (IsBoundary StandsBefore byteAt? byteLength)

/-- A construct that has been opened and not closed yet. -/
inductive Opened
  | group
  /-- A call of a function, after so many commas. -/
  | call (name : String) (commas : Nat)
  /-- An index, with the offset of its bracket. -/
  | index (offset : Nat)

/-- An entry of the stack: a pending operator or an open construct. -/
inductive Entry
  | op (op : Op)
  | opened (opened : Opened)

/-- The state of a conversion that reads with a cursor. -/
structure State where
  cursor : Nat
  scan : Scan
  output : List Token
  frames : List Entry

/-- The error for an index that begins at an offset and went wrong before the cursor. -/
def malformedIndex (text : String) (offset cursor : Nat) : Except Halt Error :=
  (slice text offset cursor).map .malformedIndex

/-- Stop with an error, once it is known. -/
def fail {α : Type} (error : Except Halt Error) : Except Halt α := do
  .error (.failed (← error))

/-- Put out the pending operators that are applied before `incoming` is read. -/
def applyPending (incoming : Op) : List Token → List Entry → List Token × List Entry
  | output, .op pending :: frames =>
    if pending.yieldsTo incoming then applyPending incoming (.op pending :: output) frames
    else (output, .op pending :: frames)
  | output, frames => (output, frames)

/-- Put out all pending operators down to the innermost open construct. -/
def unwind : List Token → List Entry → List Token × Option (Opened × List Entry)
  | output, [] => (output, none)
  | output, .op pending :: frames => unwind (.op pending :: output) frames
  | output, .opened opened :: frames => (output, some (opened, frames))

def innermost? : List Entry → Option Opened
  | [] => none
  | .op _ :: frames => innermost? frames
  | .opened opened :: _ => some opened

namespace State

def start : State :=
  { cursor := 0, scan := Scan.fresh, output := [], frames := [] }

/-- Decide whether an operand was completed. -/
def afterOperand (state : State) : Bool :=
  state.scan.expects == .operator

def mode (state : State) : LexMode :=
  { afterOperand := state.afterOperand, inPattern := state.scan.inPattern }

/-- The error for a missing operand: it names the operator that lacks it, if there is one. -/
def missingOperandOr (state : State) (fallback : Error) : Error :=
  match state.scan.lastOp with
  | some op => .missingOperand op
  | none => fallback

/-- Read a binary operator after an operand. -/
def pushBinary (op : BinaryOp) (state : State) : State :=
  let pending := applyPending (.binary op) state.output state.frames
  { state with
    scan := { expects := .operand, inPattern := op == .regexMatch, lastOp := some (.binary op) }
    output := pending.1
    frames := .op (.binary op) :: pending.2 }

/-- Read a unary operator before an operand. -/
def pushUnary (op : UnaryOp) (state : State) : State :=
  { state with
    scan := { state.scan with expects := .operand, lastOp := some (.unary op) }
    frames := .op (.unary op) :: state.frames }

/-- Multiply a completed operand with what follows, if there is one. -/
def juxtapose (state : State) : State :=
  if state.afterOperand then state.pushBinary .multiply else state

/-- Put out the token that completes an operand. -/
def complete (token : Token) (output : List Token) (frames : List Entry) (state : State) : State :=
  { state with scan := Scan.settled, output := token :: output, frames }

def acceptOperand (token : Token) (state : State) : Except Halt State :=
  if state.afterOperand && !Conversion.isJuxtaposable token then
    .error (.failed (.unexpected (.token token)))
  else
    let ready := state.juxtapose
    .ok (ready.complete token ready.output ready.frames)

def acceptOperator (sign : OperatorSign) (state : State) : Except Halt State :=
  match state.afterOperand, sign with
  | true, .binary op => .ok (state.pushBinary op)
  | true, .bang => .error (.failed (.unexpected (.operator sign.symbol)))
  | false, .bang => .ok (state.pushUnary .not)
  | false, .binary .subtract => .ok (state.pushUnary .negate)
  | false, .binary _ => .error (.failed (.unexpected (.operator sign.symbol)))

def openGroup (state : State) : State :=
  let ready := state.juxtapose
  { ready with
    scan := { ready.scan with expects := .operand, lastOp := none }
    frames := .opened .group :: ready.frames }

def openCall (name : String) (state : State) : State :=
  let ready := state.juxtapose
  { ready with
    scan := { Scan.fresh with expects := .firstArgument }
    frames := .opened (.call name 0) :: ready.frames }

def openIndex (offset : Nat) (state : State) : State :=
  { state with scan := Scan.fresh, frames := .opened (.index offset) :: state.frames }

/-- Close an argument list with so many arguments, as many as the function takes. -/
def finishCall (arity? : String → Option Nat) (name : String) (given : Nat)
    (output : List Token) (frames : List Entry) (state : State) : Except Halt State :=
  match arity? name with
  | none => .error (.failed (.undefinedFunction name))
  | some arity =>
    if given = arity then .ok (state.complete (.call name given) output frames)
    else .error (.failed (.argumentCount name given arity))

/-- Close a parenthesis or an argument list before the cursor. -/
def closeGroup (text : String) (arity? : String → Option Nat) (state : State) :
    Except Halt State :=
  match state.scan.expects with
  | .firstArgument =>
    match state.frames with
    | .opened (.call name _) :: frames => state.finishCall arity? name 0 state.output frames
    | _ => .error (.failed (.internal .strayArgumentList))
  | .operand => .error (.failed (state.missingOperandOr (.unexpected (.mark ')'))))
  | .operator =>
    match unwind state.output state.frames with
    | (output, some (.group, frames)) => .ok { state with scan := Scan.settled, output, frames }
    | (output, some (.call name commas, frames)) =>
      state.finishCall arity? name (commas + 1) output frames
    | (_, some (.index offset, _)) => fail (malformedIndex text offset state.cursor)
    | (_, none) => .error (.failed .unbalancedParenthesis)

/-- Close an index before the cursor. -/
def closeIndex (text : String) (bracket : Char) (state : State) : Except Halt State :=
  if state.afterOperand then
    match unwind state.output state.frames with
    | (output, some (.index offset, frames)) =>
      if bracket = ']' then .ok (state.complete .index output frames)
      else fail (malformedIndex text offset state.cursor)
    | (_, some (_, _)) => .error (.failed .unbalancedParenthesis)
    | (_, none) => .error (.failed (.unexpected (.mark bracket)))
  else
    match state.frames with
    | .opened (.index offset) :: _ =>
      fail ((malformedIndex text offset state.cursor).map state.missingOperandOr)
    | _ => .error (.failed (state.missingOperandOr (.unexpected (.mark bracket))))

def comma (state : State) : Except Halt State :=
  if state.afterOperand then
    match unwind state.output state.frames with
    | (output, some (.call name commas, frames)) =>
      .ok
        { state with
          scan := { state.scan with expects := .operand, lastOp := none }
          output
          frames := .opened (.call name (commas + 1)) :: frames }
    | _ => .error (.failed (.unexpected (.mark ',')))
  else .error (.failed (state.missingOperandOr (.unexpected (.mark ','))))

/-- Read a lexeme that starts at an offset and ends at the cursor. -/
def accept (text : String) (arity? : String → Option Nat) (lexeme : Lexeme) (offset : Nat)
    (state : State) : Except Halt State :=
  match lexeme with
  | .operand token => state.acceptOperand token
  | .operator sign => state.acceptOperator sign
  | .openGroup => .ok state.openGroup
  | .openCall name => .ok (state.openCall name)
  | .openIndex => .ok (state.openIndex offset)
  | .closeGroup => state.closeGroup text arity?
  | .closeIndex bracket => state.closeIndex text bracket
  | .comma => state.comma

/-- The error for a construct that is still open at the end of the text. -/
def unclosed (text : String) (state : State) : Opened → Except Halt Error
  | .index offset => malformedIndex text offset state.cursor
  | _ => .ok .unbalancedParenthesis

/-- The program at the end of the text. -/
def finish (text : String) (state : State) : Except Halt Program :=
  if state.afterOperand then
    match unwind state.output state.frames with
    | (output, none) => .ok output.reverse
    | (_, some (opened, _)) => fail (state.unclosed text opened)
  else if state.output.isEmpty && state.frames.isEmpty then .error (.failed .emptyExpression)
  else
    match innermost? state.frames with
    | some opened => fail ((state.unclosed text opened).map state.missingOperandOr)
    | none => .error (.failed (state.missingOperandOr .unbalancedParenthesis))

end State

/-- One pass of the main loop: it reads a lexeme and goes on, or it comes to the end of the text. -/
def pass (text : String) (arity? : String → Option Nat) (state : State) :
    Except Halt (Program ⊕ State) := do
  let start ← skipWhile text Text.isBlank state.cursor
  match ← advance text start with
  | none => ({ state with cursor := start }.finish text).map .inl
  | some (c, next) =>
    let (lexeme, stop) ← readAt text arity? state.mode c start next
    ({ state with cursor := stop }.accept text arity? lexeme start).map .inr

/-- A conversion comes to a state. -/
inductive Reached (text : String) (arity? : String → Option Nat) : State → Prop
  | start : Reached text arity? State.start
  | step {state next : State} (reached : Reached text arity? state)
      (passed : pass text arity? state = .ok (.inr next)) : Reached text arity? next

/-- From a state the main loop ends with an outcome. -/
inductive Returns (text : String) (arity? : String → Option Nat) :
    State → Except Halt Program → Prop
  | stopped {state : State} {halt : Halt} (passed : pass text arity? state = .error halt) :
      Returns text arity? state (.error halt)
  | finished {state : State} {program : Program}
      (passed : pass text arity? state = .ok (.inl program)) :
      Returns text arity? state (.ok program)
  | again {state next : State} {outcome : Except Halt Program}
      (passed : pass text arity? state = .ok (.inr next))
      (returns : Returns text arity? next outcome) : Returns text arity? state outcome

/-! ## Offsets looked up -/

/-- The characters from an offset on. -/
def charsFrom (text : String) (offset : Nat) : List Char :=
  ((Text.slice? text offset text.utf8ByteSize).map String.toList).getD []

def Opened.resolve (text : String) : Opened → Enclosure
  | .group => .group
  | .call name commas => .call name commas
  | .index offset => .index (charsFrom text offset)

def Entry.resolve (text : String) : Entry → Frame
  | .op pending => .op pending
  | .opened construct => .enclosure (construct.resolve text)

/-- The state of the conversion that reads from a list. -/
def State.resolve (text : String) (state : State) : Conversion :=
  { scan := state.scan
    output := state.output
    frames := state.frames.map (Entry.resolve text) }

variable {text : String} {arity? : String → Option Nat} {state : State}

@[simp]
theorem resolve_scan : (state.resolve text).scan = state.scan :=
  rfl

@[simp]
theorem resolve_output : (state.resolve text).output = state.output :=
  rfl

@[simp]
theorem resolve_frames : (state.resolve text).frames = state.frames.map (Entry.resolve text) :=
  rfl

@[simp]
theorem resolve_afterOperand : (state.resolve text).afterOperand = state.afterOperand :=
  rfl

@[simp]
theorem resolve_mode : (state.resolve text).mode = state.mode :=
  rfl

theorem applyPending_resolve (incoming : Op) (output : List Token) (frames : List Entry) :
    Conversion.applyPending incoming output (frames.map (Entry.resolve text)) =
      ((applyPending incoming output frames).1,
        (applyPending incoming output frames).2.map (Entry.resolve text)) := by
  induction frames generalizing output with
  | nil => rfl
  | cons entry frames ih =>
      cases entry with
      | opened opened => rfl
      | op pending =>
          simp only [List.map_cons, Entry.resolve, Conversion.applyPending, applyPending]
          by_cases yields : pending.yieldsTo incoming = true
          · rw [if_pos yields, if_pos yields, ih]
          · rw [if_neg yields, if_neg yields]
            rfl

theorem unwind_resolve (output : List Token) (frames : List Entry) :
    Conversion.unwind output (frames.map (Entry.resolve text)) =
      ((unwind output frames).1, (unwind output frames).2.map fun (opened, frames) =>
        (opened.resolve text, frames.map (Entry.resolve text))) := by
  induction frames generalizing output with
  | nil => rfl
  | cons entry frames ih =>
      cases entry with
      | opened opened => rfl
      | op pending => exact ih _

theorem innermost?_resolve (frames : List Entry) :
    Conversion.innermost? (frames.map (Entry.resolve text)) =
      (innermost? frames).map (Opened.resolve text) := by
  induction frames with
  | nil => rfl
  | cons entry frames ih =>
      cases entry with
      | opened opened => rfl
      | op pending => exact ih

theorem pushBinary_resolve (op : BinaryOp) :
    (state.resolve text).pushBinary op = (state.pushBinary op).resolve text := by
  simp [Conversion.pushBinary, State.pushBinary, State.resolve, applyPending_resolve, Entry.resolve]

theorem juxtapose_resolve : (state.resolve text).juxtapose = state.juxtapose.resolve text := by
  unfold Conversion.juxtapose State.juxtapose
  rw [resolve_afterOperand, pushBinary_resolve]
  split <;> rfl

/-- An outcome with the offsets looked up is that of the conversion that reads from a list. -/
def Follows (text : String) (outcome : Except Halt State) (expected : Except Error Conversion) :
    Prop :=
  outcome.map (State.resolve text) = expected.mapError .failed

theorem Follows.cases {outcome : Except Halt State} {expected : Except Error Conversion}
    (follows : Follows text outcome expected) :
    (∃ next, outcome = .ok next ∧ expected = .ok (next.resolve text)) ∨
      ∃ error, outcome = .error (.failed error) ∧ expected = .error error := by
  unfold Follows at follows
  cases outcome with
  | ok next =>
      cases expected with
      | ok conversion =>
          cases follows
          exact Or.inl ⟨next, rfl, rfl⟩
      | error error => cases follows
  | error halt =>
      cases expected with
      | ok conversion => cases follows
      | error error =>
          cases follows
          exact Or.inr ⟨error, rfl, rfl⟩

theorem follows_acceptOperand (token : Token) :
    Follows text (state.acceptOperand token) ((state.resolve text).acceptOperand token) := by
  unfold Conversion.acceptOperand State.acceptOperand
  rw [resolve_afterOperand, juxtapose_resolve]
  split <;> rfl

theorem follows_acceptOperator (sign : OperatorSign) :
    Follows text (state.acceptOperator sign) ((state.resolve text).acceptOperator sign) := by
  unfold Conversion.acceptOperator State.acceptOperator
  rw [resolve_afterOperand]
  cases state.afterOperand with
  | true =>
      cases sign with
      | bang => rfl
      | binary op => exact congrArg Except.ok (pushBinary_resolve op).symm
  | false =>
      cases sign with
      | bang => rfl
      | binary op => cases op <;> rfl

theorem follows_openGroup :
    Follows text (.ok state.openGroup) (.ok (state.resolve text).openGroup) := by
  unfold Conversion.openGroup
  rw [juxtapose_resolve]
  rfl

theorem follows_openCall (name : String) :
    Follows text (.ok (state.openCall name)) (.ok ((state.resolve text).openCall name)) := by
  unfold Conversion.openCall
  rw [juxtapose_resolve]
  rfl

theorem follows_finishCall (name : String) (given : Nat) (output : List Token)
    (frames : List Entry) :
    Follows text (state.finishCall arity? name given output frames)
      (Conversion.finishCall arity? name given output (frames.map (Entry.resolve text))) := by
  unfold Conversion.finishCall State.finishCall
  cases arity? name with
  | none => rfl
  | some arity => by_cases enough : given = arity <;> simp [enough] <;> rfl

/-- The cursor is between two characters, and so is every open index, which is not after it. -/
structure State.Sound (text : String) (state : State) : Prop where
  boundary : IsBoundary text state.cursor
  opened : ∀ offset, .opened (.index offset) ∈ state.frames →
    IsBoundary text offset ∧ offset ≤ state.cursor

/-- Unwinding only takes entries off the stack. -/
theorem suffix_of_unwind {output : List Token} {frames rest : List Entry} {opened : Opened}
    (found : (unwind output frames).2 = some (opened, rest)) :
    .opened opened :: rest <:+ frames := by
  induction frames generalizing output with
  | nil => cases found
  | cons entry frames ih =>
      cases entry with
      | opened inner =>
          cases found
          exact List.suffix_rfl
      | op pending => exact (ih found).trans (List.suffix_cons _ _)

theorem suffix_applyPending (incoming : Op) (output : List Token) (frames : List Entry) :
    (applyPending incoming output frames).2 <:+ frames := by
  induction frames generalizing output with
  | nil => exact List.suffix_rfl
  | cons entry frames ih =>
      cases entry with
      | opened opened => exact List.suffix_rfl
      | op pending =>
          rw [applyPending]
          split
          · exact (ih _).trans (List.suffix_cons _ _)
          · exact List.suffix_rfl

theorem mem_of_innermost? {frames : List Entry} {opened : Opened}
    (found : innermost? frames = some opened) : .opened opened ∈ frames := by
  induction frames with
  | nil => cases found
  | cons entry frames ih =>
      cases entry with
      | opened inner =>
          cases found
          exact List.mem_cons_self
      | op pending => exact List.mem_cons_of_mem _ (ih found)

theorem malformedIndex_eq {offset : Nat} {rest : List Char} (sound : state.Sound text)
    (stands : StandsBefore text state.cursor rest)
    (isOpen : .opened (.index offset) ∈ state.frames) :
    malformedIndex text offset state.cursor =
      .ok (Conversion.malformedIndex (charsFrom text offset) rest) := by
  obtain ⟨isBoundary, ordered⟩ := sound.opened offset isOpen
  obtain ⟨source, opens⟩ := isBoundary.exists_standsBefore
  obtain ⟨middle, rfl, -⟩ := opens.exists_between stands ordered
  have isSource : charsFrom text offset = middle ++ rest := by
    rw [charsFrom, opens.slice?_end]
    exact String.toList_ofList
  rw [malformedIndex, slice_eq opens stands, isSource, Conversion.malformedIndex]
  simp [Except.map]

/-- The innermost open construct is the same in both conversions, with the offsets looked up. -/
theorem unwind_cases (text : String) (state : State) :
    (∃ output, unwind state.output state.frames = (output, none) ∧
      Conversion.unwind state.output (state.frames.map (Entry.resolve text)) = (output, none)) ∨
    ∃ output construct frames,
      unwind state.output state.frames = (output, some (construct, frames)) ∧
      Conversion.unwind state.output (state.frames.map (Entry.resolve text)) =
        (output, some (construct.resolve text, frames.map (Entry.resolve text))) ∧
      .opened construct ∈ state.frames := by
  rw [unwind_resolve]
  rcases found : unwind state.output state.frames with ⟨output, _ | ⟨construct, frames⟩⟩
  · exact Or.inl ⟨output, rfl, rfl⟩
  · have suffix := suffix_of_unwind (congrArg Prod.snd found)
    exact Or.inr ⟨output, construct, frames, rfl, rfl, suffix.mem List.mem_cons_self⟩

section Closing

variable {rest : List Char}

theorem follows_closeGroup (sound : state.Sound text)
    (stands : StandsBefore text state.cursor rest) :
    Follows text (state.closeGroup text arity?) ((state.resolve text).closeGroup arity? rest) := by
  unfold Conversion.closeGroup State.closeGroup
  rw [resolve_scan, resolve_output, resolve_frames]
  cases state.scan.expects with
  | operand => rfl
  | firstArgument =>
      rcases state.frames with _ | ⟨op | construct, frames⟩
      · rfl
      · rfl
      · cases construct with
        | call name commas => exact follows_finishCall name 0 state.output frames
        | group => rfl
        | index offset => rfl
  | operator =>
      rcases unwind_cases text state with
        ⟨output, found, resolved⟩ | ⟨output, construct, frames, found, resolved, isOpen⟩
      · simp only [found, resolved]
        rfl
      · simp only [found, resolved]
        cases construct with
        | group => rfl
        | call name commas => exact follows_finishCall name (commas + 1) output frames
        | index offset =>
            simp only [malformedIndex_eq sound stands isOpen]
            rfl

theorem follows_closeIndex (sound : state.Sound text)
    (stands : StandsBefore text state.cursor rest) (bracket : Char) :
    Follows text (state.closeIndex text bracket)
      ((state.resolve text).closeIndex bracket rest) := by
  unfold Conversion.closeIndex State.closeIndex
  rw [resolve_afterOperand, resolve_output, resolve_frames]
  cases state.afterOperand with
  | true =>
      rcases unwind_cases text state with
        ⟨output, found, resolved⟩ | ⟨output, construct, frames, found, resolved, isOpen⟩
      · simp only [found, resolved]
        rfl
      · simp only [found, resolved]
        cases construct with
        | group => rfl
        | call name commas => rfl
        | index offset =>
            simp only [malformedIndex_eq sound stands isOpen]
            by_cases isBracket : bracket = ']'
            · simp only [Opened.resolve, if_pos isBracket]
              rfl
            · simp only [Opened.resolve, if_neg isBracket]
              rfl
  | false =>
      rcases entries : state.frames with _ | ⟨op | construct, frames⟩
      · rfl
      · rfl
      · cases construct with
        | call name commas => rfl
        | group => rfl
        | index offset =>
            have isOpen : .opened (.index offset) ∈ state.frames := by
              rw [entries]
              exact List.mem_cons_self
            simp only [malformedIndex_eq sound stands isOpen]
            rfl

theorem follows_comma : Follows text state.comma (state.resolve text).comma := by
  unfold Conversion.comma State.comma
  rw [resolve_afterOperand, resolve_output, resolve_frames]
  cases state.afterOperand with
  | false => rfl
  | true =>
      rcases unwind_cases text state with
        ⟨output, found, resolved⟩ | ⟨output, construct, frames, found, resolved, -⟩
      · simp only [found, resolved]
        rfl
      · simp only [found, resolved]
        cases construct <;> rfl

theorem unclosed_eq (sound : state.Sound text) (ended : StandsBefore text state.cursor [])
    {construct : Opened} (isOpen : .opened construct ∈ state.frames) :
    state.unclosed text construct = .ok (Conversion.unclosed (construct.resolve text)) := by
  cases construct with
  | group => rfl
  | call name commas => rfl
  | index offset => exact malformedIndex_eq sound ended isOpen

theorem finish_eq (sound : state.Sound text) (ended : StandsBefore text state.cursor []) :
    state.finish text = (state.resolve text).finish.mapError .failed := by
  unfold Conversion.finish State.finish
  rw [resolve_afterOperand, resolve_output, resolve_frames]
  cases state.afterOperand with
  | true =>
      rcases unwind_cases text state with
        ⟨output, found, resolved⟩ | ⟨output, construct, frames, found, resolved, isOpen⟩
      · simp only [found, resolved]
        rfl
      · simp only [found, resolved, unclosed_eq sound ended isOpen]
        rfl
  | false =>
      rw [List.isEmpty_map, innermost?_resolve]
      by_cases noText : (state.output.isEmpty && state.frames.isEmpty) = true
      · simp only [noText, if_true]
        rfl
      · simp only [noText]
        cases found : innermost? state.frames with
        | none => rfl
        | some construct =>
            simp only [unclosed_eq sound ended (mem_of_innermost? found)]
            rfl

/-- What a lexeme does to the state does not depend on how the text is read. -/
theorem follows_accept {source : List Char} {offset : Nat} (sound : state.Sound text)
    (starts : StandsBefore text offset source) (stands : StandsBefore text state.cursor rest)
    (lexeme : Lexeme) :
    Follows text (state.accept text arity? lexeme offset)
      ((state.resolve text).accept arity? lexeme source rest) := by
  cases lexeme with
  | operand token => exact follows_acceptOperand token
  | operator sign => exact follows_acceptOperator sign
  | openGroup => exact follows_openGroup
  | openCall name => exact follows_openCall name
  | closeGroup => exact follows_closeGroup sound stands
  | closeIndex bracket => exact follows_closeIndex sound stands bracket
  | comma => exact follows_comma
  | openIndex =>
      have isSource : charsFrom text offset = source := by
        rw [charsFrom, starts.slice?_end]
        exact String.toList_ofList
      rw [← isSource]
      rfl

end Closing

/-- A step leaves the cursor where it is, and opens no index but at the given offset. -/
structure State.Extends (offset : Nat) (state next : State) : Prop where
  sameCursor : next.cursor = state.cursor
  opened : ∀ place, .opened (.index place) ∈ next.frames →
    .opened (.index place) ∈ state.frames ∨ place = offset

section Extensions

variable {offset : Nat} {next : State}

theorem extends_pushBinary (op : BinaryOp) : state.Extends offset (state.pushBinary op) := by
  refine ⟨rfl, fun place isOpen => Or.inl ?_⟩
  have later := (List.mem_cons.mp isOpen).resolve_left nofun
  exact (suffix_applyPending _ _ _).mem later

theorem extends_juxtapose : state.Extends offset state.juxtapose := by
  unfold State.juxtapose
  split
  · exact extends_pushBinary _
  · exact ⟨rfl, fun place => Or.inl⟩

theorem extends_of_suffix (sameCursor : next.cursor = state.cursor)
    (suffix : next.frames <:+ state.frames) : state.Extends offset next :=
  ⟨sameCursor, fun _ isOpen => Or.inl (suffix.mem isOpen)⟩

theorem State.Extends.push {scan : Scan} {output : List Token} {entry : Entry}
    (kept : state.Extends offset next)
    (notOther : ∀ place, entry = .opened (.index place) → place = offset) :
    state.Extends offset
      { next with scan, output, frames := entry :: next.frames } := by
  refine ⟨kept.sameCursor, fun place isOpen => ?_⟩
  rcases List.mem_cons.mp isOpen with isEntry | isLater
  · exact Or.inr (notOther place isEntry.symm)
  · exact kept.opened place isLater

theorem extends_finishCall {name : String} {given : Nat} {output : List Token}
    {frames : List Entry} (suffix : frames <:+ state.frames)
    (finished : state.finishCall arity? name given output frames = .ok next) :
    state.Extends offset next := by
  unfold State.finishCall at finished
  split at finished
  · cases finished
  · split at finished
    · cases finished
      exact extends_of_suffix rfl suffix
    · cases finished

theorem fail_ne_ok {α : Type} {value : α} (error : Except Halt Error) :
    fail error ≠ .ok value := by
  cases error <;> exact nofun

theorem extends_acceptOperand {token : Token} (accepted : state.acceptOperand token = .ok next) :
    state.Extends offset next := by
  unfold State.acceptOperand at accepted
  split at accepted
  · cases accepted
  · cases accepted
    have kept : state.Extends offset state.juxtapose := extends_juxtapose
    exact ⟨kept.sameCursor, kept.opened⟩

theorem extends_acceptOperator {sign : OperatorSign}
    (accepted : state.acceptOperator sign = .ok next) : state.Extends offset next := by
  unfold State.acceptOperator at accepted
  split at accepted
  · cases accepted
    exact extends_pushBinary _
  · cases accepted
  · cases accepted
    exact (extends_of_suffix rfl List.suffix_rfl).push nofun
  · cases accepted
    exact (extends_of_suffix rfl List.suffix_rfl).push nofun
  · cases accepted

theorem suffix_of_unwind_eq {output unwound : List Token} {frames rest : List Entry}
    {construct : Opened} (found : unwind output frames = (unwound, some (construct, rest))) :
    rest <:+ frames :=
  (List.suffix_cons _ _).trans (suffix_of_unwind (congrArg Prod.snd found))

theorem extends_closeGroup (accepted : state.closeGroup text arity? = .ok next) :
    state.Extends offset next := by
  unfold State.closeGroup at accepted
  split at accepted
  · split at accepted
    · next name commas frames isFrames =>
      exact extends_finishCall (by rw [isFrames]; exact List.suffix_cons _ _) accepted
    · cases accepted
  · cases accepted
  · split at accepted
    · next found =>
      cases accepted
      exact extends_of_suffix rfl (suffix_of_unwind_eq found)
    · next found => exact extends_finishCall (suffix_of_unwind_eq found) accepted
    · exact absurd accepted (fail_ne_ok _)
    · cases accepted

theorem extends_closeIndex {bracket : Char}
    (accepted : state.closeIndex text bracket = .ok next) : state.Extends offset next := by
  unfold State.closeIndex at accepted
  split at accepted
  · split at accepted
    · next found =>
      split at accepted
      · cases accepted
        exact extends_of_suffix rfl (suffix_of_unwind_eq found)
      · exact absurd accepted (fail_ne_ok _)
    · cases accepted
    · cases accepted
  · split at accepted
    · exact absurd accepted (fail_ne_ok _)
    · cases accepted

theorem extends_comma (accepted : state.comma = .ok next) : state.Extends offset next := by
  unfold State.comma at accepted
  split at accepted
  · split at accepted
    · next output name commas frames found =>
      cases accepted
      have kept : state.Extends offset { state with frames } :=
        extends_of_suffix rfl (suffix_of_unwind_eq found)
      exact kept.push nofun
    · cases accepted
  · cases accepted

/-- Every lexeme keeps the indexes that stay open, and opens one at most where it starts. -/
theorem extends_accept {lexeme : Lexeme}
    (accepted : state.accept text arity? lexeme offset = .ok next) : state.Extends offset next := by
  cases lexeme with
  | operand token => exact extends_acceptOperand accepted
  | operator sign => exact extends_acceptOperator accepted
  | openGroup =>
      cases accepted
      exact extends_juxtapose.push nofun
  | openCall name =>
      cases accepted
      exact extends_juxtapose.push nofun
  | openIndex =>
      cases accepted
      have kept : state.Extends offset state := extends_of_suffix rfl List.suffix_rfl
      refine kept.push ?_
      rintro place ⟨⟩
      rfl
  | closeGroup => exact extends_closeGroup accepted
  | closeIndex bracket => exact extends_closeIndex accepted
  | comma => exact extends_comma accepted

end Extensions

/-! ## The main loop -/

theorem sound_start : State.start.Sound text :=
  ⟨(Text.standsBefore_zero text).isBoundary, fun _ => nofun⟩

/-- The state stays sound when the cursor moves on. -/
theorem State.Sound.moveTo {stop : Nat} (sound : state.Sound text)
    (isBoundary : IsBoundary text stop) (ordered : state.cursor ≤ stop) :
    { state with cursor := stop }.Sound text := by
  refine ⟨isBoundary, fun offset isOpen => ?_⟩
  obtain ⟨opens, behind⟩ := sound.opened offset isOpen
  exact ⟨opens, Nat.le_trans behind ordered⟩

theorem State.Sound.of_extends {offset : Nat} {next : State} (sound : state.Sound text)
    (isBoundary : IsBoundary text offset) (ordered : offset ≤ state.cursor)
    (kept : state.Extends offset next) : next.Sound text := by
  have sameCursor := kept.sameCursor
  constructor
  · rw [sameCursor]
    exact sound.boundary
  · intro place isOpen
    rw [sameCursor]
    rcases kept.opened place isOpen with isOld | rfl
    · exact sound.opened place isOld
    · exact ⟨isBoundary, ordered⟩

/-- What a pass of the main loop comes to: it ends as the other conversion does, or it goes on to a
sound state with the cursor moved forward, from where the other conversion goes on, too. -/
inductive PassesAs (text : String) (arity? : String → Option Nat) (state : State) :
    Except Error Program → Except Halt (Program ⊕ State) → Prop
  | failed (error : Error) : PassesAs text arity? state (.error error) (.error (.failed error))
  | finished (program : Program) : PassesAs text arity? state (.ok program) (.ok (.inl program))
  | continued {next : State} {rest : List Char} (sound : next.Sound text)
      (forward : state.cursor < next.cursor) (stands : StandsBefore text next.cursor rest) :
      PassesAs text arity? state ((next.resolve text).run arity? rest) (.ok (.inr next))

theorem run_eq (state : Conversion) (chars : List Char) :
    state.run arity? chars =
      match Lexeme.next arity? state.mode chars with
      | .error error => .error error
      | .ok none => state.finish
      | .ok (some (lexeme, source, rest)) =>
        (state.accept arity? lexeme source rest).bind fun next => next.run arity? rest := by
  rw [Conversion.run]
  split
  · next found => rw [found]
  · next found => rw [found]
  · next found =>
    rw [found]
    dsimp only
    split
    · next refused => rw [refused]; rfl
    · next accepted => rw [accepted]; rfl

theorem passesAs_pass (arity? : String → Option Nat) {chars : List Char} (sound : state.Sound text)
    (stands : StandsBefore text state.cursor chars) :
    PassesAs text arity? state ((state.resolve text).run arity? chars)
      (pass text arity? state) := by
  obtain ⟨start, skipped, starts⟩ := skipWhile_moves stands Text.isBlank
  have behind : state.cursor ≤ start := by
    rw [← List.takeWhile_append_dropWhile (p := Text.isBlank) (l := chars)] at stands
    have isStart := stands.eq_add starts
    omega
  rw [run_eq, Lexeme.next, Text.skipBlanks, pass, skipped, ok_bind]
  cases left : chars.dropWhile Text.isBlank with
  | nil =>
      rw [left] at starts
      have ended : { state with cursor := start }.Sound text :=
        sound.moveTo starts.isBoundary behind
      rw [advance_nil starts, ok_bind]
      dsimp only
      rw [finish_eq ended starts]
      have sameState : { state with cursor := start }.resolve text = state.resolve text := rfl
      rw [sameState]
      cases (state.resolve text).finish with
      | error error => exact .failed error
      | ok program => exact .finished program
  | cons c rest =>
      rw [left] at starts
      rw [advance_cons starts, ok_bind, resolve_mode]
      rcases (readAt_agrees arity? state.mode starts).cases with
        ⟨error, stopped, read⟩ | ⟨lexeme, stop, after, found, read, stops⟩
      · simp only [stopped, read]
        exact .failed error
      · have shorter := Lexeme.readAt_shorter read
        have forward : start < stop :=
          starts.lt_of_length_lt stops (Nat.lt_succ_of_le shorter)
        have moved : { state with cursor := stop }.Sound text :=
          sound.moveTo stops.isBoundary (by omega)
        have follows : Follows text
            ({ state with cursor := stop }.accept text arity? lexeme start)
            ((state.resolve text).accept arity? lexeme (c :: rest) after) :=
          follows_accept moved starts stops lexeme
        simp only [found, read, ok_bind]
        rcases follows.cases with ⟨next, accepted, expected⟩ | ⟨error, refused, expected⟩
        · have kept := extends_accept accepted
          have sameCursor : next.cursor = stop := kept.sameCursor
          rw [accepted, expected]
          exact .continued (moved.of_extends starts.isBoundary (Nat.le_of_lt forward) kept)
            (by omega) (sameCursor ▸ stops)
        · rw [refused, expected]
          exact .failed error

theorem sound_of_reached (reached : Reached text arity? state) : state.Sound text := by
  induction reached with
  | start => exact sound_start
  | step reached passed sound =>
      obtain ⟨chars, stands⟩ := sound.boundary.exists_standsBefore
      have passes := passesAs_pass arity? sound stands
      rw [passed] at passes
      generalize (State.resolve text _).run arity? chars = expected at passes
      cases passes with
      | continued nextSound => exact nextSound

/-- From a sound state on the main loop ends, with the outcome of the other conversion. -/
theorem returns_run {chars : List Char} (sound : state.Sound text)
    (stands : StandsBefore text state.cursor chars) :
    Returns text arity? state (((state.resolve text).run arity? chars).mapError .failed) := by
  -- Every pass leaves fewer bytes after the cursor.
  induction left : text.utf8ByteSize - state.cursor using Nat.strong_induction_on
    generalizing state chars with
  | h left ih =>
      have passes := passesAs_pass arity? sound stands
      generalize (state.resolve text).run arity? chars = expected at passes
      generalize passed : pass text arity? state = outcome at passes
      cases passes with
      | failed error => exact .stopped passed
      | finished program => exact .finished passed
      | @continued next rest nextSound forward nextStands =>
          have bounded := nextSound.boundary.le
          exact .again passed (ih _ (by omega) nextSound nextStands rfl)

theorem Returns.unique {one other : Except Halt Program} (returns : Returns text arity? state one)
    (again : Returns text arity? state other) : one = other := by
  induction returns with
  | stopped passed =>
      cases again with
      | stopped samePassed =>
          cases passed.symm.trans samePassed
          rfl
      | finished otherPassed => cases passed.symm.trans otherPassed
      | again otherPassed => cases passed.symm.trans otherPassed
  | finished passed =>
      cases again with
      | stopped otherPassed => cases passed.symm.trans otherPassed
      | finished samePassed =>
          cases passed.symm.trans samePassed
          rfl
      | again otherPassed => cases passed.symm.trans otherPassed
  | again passed _ ih =>
      cases again with
      | stopped otherPassed => cases passed.symm.trans otherPassed
      | finished otherPassed => cases passed.symm.trans otherPassed
      | again samePassed returns =>
          cases passed.symm.trans samePassed
          exact ih returns

theorem returns_start_iff {outcome : Except Halt Program} :
    Returns text arity? State.start outcome ↔
      outcome = (convert arity? text).mapError .failed := by
  have returns : Returns text arity? State.start ((convert arity? text).mapError .failed) :=
    returns_run sound_start (Text.standsBefore_zero text)
  constructor
  · exact fun other => other.unique returns
  · rintro rfl
    exact returns

/-- Where a digit comes next, or a point and a digit, a number is read from the longest numeral that
the text goes on with, and the numeral can always be read as a number.  So no conversion ends with
a number that is none. -/
theorem readNumber_takes_longest (text : String) :
    (∀ start chars, StandsBefore text start chars → StartsNumeral chars →
      ∃ number rest, LongestNumeral chars number rest ∧
        readNumber text start =
          .ok (number.numeral.value, start + byteLength number.chars) ∧
        Decimal.number? number.chars = some number.numeral.value ∧
        ∀ arity? mode, Lexeme.next arity? mode chars =
          .ok (some (.operand (.number number.numeral.value), chars, rest))) ∧
    ∀ arity? spelling, ¬Returns text arity? State.start (.error (.unexpectedNumber spelling)) := by
  constructor
  · intro start chars stands starts
    obtain ⟨number, rest, longest, scanned⟩ := Decimal.exists_longestNumeral starts
    obtain ⟨stop, read, stops⟩ := readNumber_moves stands scanned
    obtain rfl := longest.isText
    refine ⟨number, rest, longest, ?_, Decimal.number?_numberText number,
      fun arity? mode => Lexeme.next_of_scan? number scanned⟩
    rw [read, stands.eq_add stops]
  · intro arity? spelling returns
    have outcome := returns_start_iff.mp returns
    cases converted : convert arity? text <;> rw [converted] at outcome <;> cases outcome

/-- A letter with a sign but no digits after it is left. -/
theorem readNumber_takes_longest_signWithoutDigits :
    StandsBefore "é2e+" 2 ['2', 'e', '+'] ∧ StartsNumeral ['2', 'e', '+'] ∧
      ∃ number rest, LongestNumeral ['2', 'e', '+'] number rest ∧
        readNumber "é2e+" 2 = .ok (number.numeral.value, 2 + byteLength number.chars) := by
  have stands : StandsBefore "é2e+" 2 ['2', 'e', '+'] := ⟨['é'], by decide, by decide⟩
  have starts : StartsNumeral ['2', 'e', '+'] := by decide
  obtain ⟨number, rest, longest, isRead, -⟩ :=
    (readNumber_takes_longest "é2e+").1 2 _ stands starts
  exact ⟨stands, starts, number, rest, longest, isRead⟩

end Cursor

end Calculator
