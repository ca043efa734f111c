import Calculator.Lexeme

/-!
# Converting expressions to programs

A single pass over the lexemes of an expression puts operators after their operands.  Pending
operators and open constructs wait on a stack of frames.  Between lexemes the pass remembers
whether an operand or an operator must follow, whether a regular expression may follow, and which
operator was read last, so that an operator without an operand can be named.
-/

namespace Calculator

/-- A construct that has been opened and not closed yet. -/
inductive Enclosure
  | group
  /-- A call of a function, after so many commas. -/
  | call (name : String) (commas : Nat)
  /-- An index, with the text from its bracket on. -/
  | index (source : List Char)

/-- An entry of the stack: a pending operator or an open construct. -/
inductive Frame
  | op (op : Op)
  | enclosure (enclosure : Enclosure)

/-- What may follow. -/
inductive Expectation
  | operand
  /-- The start of an operand, or the end of an empty argument list. -/
  | firstArgument
  /-- An operator, or the end of a construct; an operand was completed. -/
  | operator
  deriving Repr, DecidableEq

/-- What a pass remembers between lexemes. -/
structure Scan where
  expects : Expectation
  /-- The right operand of a match operator has not begun yet. -/
  inPattern : Bool
  /-- The operator after which an operand is missing. -/
  lastOp : Option Op
  deriving Repr, DecidableEq

def Scan.settled : Scan :=
  { expects := .operator, inPattern := false, lastOp := none }

/-- A construct was opened that starts with an operand. -/
def Scan.fresh : Scan :=
  { expects := .operand, inPattern := false, lastOp := none }

/-- The state of a pass: its scan state, the tokens put out so far with the latest first, and the
stack with its top first. -/
structure Conversion where
  scan : Scan
  output : List Token
  frames : List Frame

namespace Conversion

def start : Conversion :=
  { scan := Scan.fresh, output := [], frames := [] }

/-- Decide whether an operand was completed. -/
def afterOperand (state : Conversion) : Bool :=
  state.scan.expects == .operator

def mode (state : Conversion) : LexMode :=
  { afterOperand := state.afterOperand, inPattern := state.scan.inPattern }

/-- The error for a missing operand: it names the operator that lacks it, if there is one. -/
def missingOperandOr (state : Conversion) (fallback : Error) : Error :=
  match state.scan.lastOp with
  | some op => .missingOperand op
  | none => fallback

/-- The error for an index that begins with `source` and went wrong before `rest`. -/
def malformedIndex (source rest : List Char) : Error :=
  .malformedIndex (String.ofList (source.take (source.length - rest.length)))

/-- Put out the pending operators that are applied before `incoming` is read. -/
def applyPending (incoming : Op) : List Token → List Frame → List Token × List Frame
  | output, .op pending :: frames =>
    if pending.yieldsTo incoming then applyPending incoming (.op pending :: output) frames
    else (output, .op pending :: frames)
  | output, frames => (output, frames)

/-- Put out all pending operators down to the innermost open construct. -/
def unwind : List Token → List Frame → List Token × Option (Enclosure × List Frame)
  | output, [] => (output, none)
  | output, .op pending :: frames => unwind (.op pending :: output) frames
  | output, .enclosure enclosure :: frames => (output, some (enclosure, frames))

def innermost? : List Frame → Option Enclosure
  | [] => none
  | .op _ :: frames => innermost? frames
  | .enclosure enclosure :: _ => some enclosure

/-- Read a binary operator after an operand. -/
def pushBinary (op : BinaryOp) (state : Conversion) : Conversion :=
  let pending := applyPending (.binary op) state.output state.frames
  { scan :=
      { expects := .operand, inPattern := op == .regexMatch, lastOp := some (.binary op) }
    output := pending.1
    frames := .op (.binary op) :: pending.2 }

/-- Read a unary operator before an operand. -/
def pushUnary (op : UnaryOp) (state : Conversion) : Conversion :=
  { scan := { state.scan with expects := .operand, lastOp := some (.unary op) }
    output := state.output
    frames := .op (.unary op) :: state.frames }

/-- Multiply a completed operand with what follows, if there is one. -/
def juxtapose (state : Conversion) : Conversion :=
  if state.afterOperand then state.pushBinary .multiply else state

/-- Decide whether a token may follow an operand without an operator between them. -/
def isJuxtaposable : Token → Bool
  | .number _ | .var _ | .capture _ | .value _ => true
  | _ => false

/-- Put out the token that completes an operand. -/
def complete (token : Token) (output : List Token) (frames : List Frame) : Conversion :=
  { scan := Scan.settled, output := token :: output, frames }

def acceptOperand (token : Token) (state : Conversion) : Except Error Conversion :=
  if state.afterOperand && !isJuxtaposable token then .error (.unexpected (.token token))
  else
    let ready := state.juxtapose
    .ok (complete token ready.output ready.frames)

/-- Read an operator.  Where an operand must follow, only a minus sign and an exclamation mark may
stand, and both are unary there. -/
def acceptOperator (sign : OperatorSign) (state : Conversion) : Except Error Conversion :=
  match state.afterOperand, sign with
  | true, .binary op => .ok (state.pushBinary op)
  | true, .bang => .error (.unexpected (.operator sign.symbol))
  | false, .bang => .ok (state.pushUnary .not)
  | false, .binary .subtract => .ok (state.pushUnary .negate)
  | false, .binary _ => .error (.unexpected (.operator sign.symbol))

/-- Open a parenthesis.  It does not end the search for a regular expression. -/
def openGroup (state : Conversion) : Conversion :=
  let ready := state.juxtapose
  { scan := { ready.scan with expects := .operand, lastOp := none }
    output := ready.output
    frames := .enclosure .group :: ready.frames }

def openCall (name : String) (state : Conversion) : Conversion :=
  let ready := state.juxtapose
  { scan := { Scan.fresh with expects := .firstArgument }
    output := ready.output
    frames := .enclosure (.call name 0) :: ready.frames }

def openIndex (source : List Char) (state : Conversion) : Conversion :=
  { scan := Scan.fresh
    output := state.output
    frames := .enclosure (.index source) :: state.frames }

/-- Close an argument list with so many arguments, as many as the function takes. -/
def finishCall (arity? : String → Option Nat) (name : String) (given : Nat)
    (output : List Token) (frames : List Frame) : Except Error Conversion :=
  match arity? name with
  | none => .error (.undefinedFunction name)
  | some arity =>
    if given = arity then .ok (complete (.call name given) output frames)
    else .error (.argumentCount name given arity)

/-- Close a parenthesis or an argument list before `rest`. -/
def closeGroup (arity? : String → Option Nat) (rest : List Char) (state : Conversion) :
    Except Error Conversion :=
  match state.scan.expects with
  | .firstArgument =>
    match state.frames with
    | .enclosure (.call name _) :: frames => finishCall arity? name 0 state.output frames
    | _ => .error (.internal .strayArgumentList)
  | .operand => .error (state.missingOperandOr (.unexpected (.mark ')')))
  | .operator =>
    match unwind state.output state.frames with
    | (output, some (.group, frames)) => .ok { scan := Scan.settled, output, frames }
    | (output, some (.call name commas, frames)) =>
      finishCall arity? name (commas + 1) output frames
    | (_, some (.index source, _)) => .error (malformedIndex source rest)
    | (_, none) => .error .unbalancedParenthesis

/-- Close an index before `rest`.  A brace never closes one. -/
def closeIndex (bracket : Char) (rest : List Char) (state : Conversion) :
    Except Error Conversion :=
  if state.afterOperand then
    match unwind state.output state.frames with
    | (output, some (.index source, frames)) =>
      if bracket = ']' then .ok (complete .index output frames)
      else .error (malformedIndex source rest)
    | (_, some (_, _)) => .error .unbalancedParenthesis
    | (_, none) => .error (.unexpected (.mark bracket))
  else
    match state.frames with
    | .enclosure (.index source) :: _ =>
      .error (state.missingOperandOr (malformedIndex source rest))
    | _ => .error (state.missingOperandOr (.unexpected (.mark bracket)))

/-- Read a comma, which must stand between the arguments of a call. -/
def comma (state : Conversion) : Except Error Conversion :=
  if state.afterOperand then
    match unwind state.output state.frames with
    | (output, some (.call name commas, frames)) =>
      .ok
        { scan := { state.scan with expects := .operand, lastOp := none }
          output
          frames := .enclosure (.call name (commas + 1)) :: frames }
    | _ => .error (.unexpected (.mark ','))
  else .error (state.missingOperandOr (.unexpected (.mark ',')))

/-- Read a lexeme that starts at `source` and ends before `rest`. -/
def accept (arity? : String → Option Nat) (lexeme : Lexeme) (source rest : List Char)
    (state : Conversion) : Except Error Conversion :=
  match lexeme with
  | .operand token => state.acceptOperand token
  | .operator sign => state.acceptOperator sign
  | .openGroup => .ok state.openGroup
  | .openCall name => .ok (state.openCall name)
  | .openIndex => .ok (state.openIndex source)
  | .closeGroup => state.closeGroup arity? rest
  | .closeIndex bracket => state.closeIndex bracket rest
  | .comma => state.comma

/-- The error for a construct that is still open at the end of the text. -/
def unclosed : Enclosure → Error
  | .index source => malformedIndex source []
  | _ => .unbalancedParenthesis

/-- The program at the end of the text. -/
def finish (state : Conversion) : Except Error Program :=
  if state.afterOperand then
    match unwind state.output state.frames with
    | (output, none) => .ok output.reverse
    | (_, some (enclosure, _)) => .error (unclosed enclosure)
  else if state.output.isEmpty && state.frames.isEmpty then .error .emptyExpression
  else
    match innermost? state.frames with
    | some enclosure => .error (state.missingOperandOr (unclosed enclosure))
    | none => .error (state.missingOperandOr .unbalancedParenthesis)

/-- Read all lexemes of a text from a state on. -/
def run (arity? : String → Option Nat) (state : Conversion) (chars : List Char) :
    Except Error Program :=
  match _read : Lexeme.next arity? state.mode chars with
  | .error error => .error error
  | .ok none => state.finish
  | .ok (some (lexeme, source, rest)) =>
    match state.accept arity? lexeme source rest with
    | .error error => .error error
    | .ok next => run arity? next rest
termination_by chars.length
decreasing_by exact Lexeme.next_shorter _read

end Conversion

/-- Convert an expression to a program.  The context says which names are functions, and with how
many arguments. -/
def convert (arity? : String → Option Nat) (source : String) : Except Error Program :=
  Conversion.start.run arity? source.toList

end Calculator
