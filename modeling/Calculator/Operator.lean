/-!
# Operators

The binary operators, the two unary ones, and the table of their precedences.  A larger
precedence binds tighter.  Exponentiation and logical negation associate to the right, all others
to the left.
-/

namespace Calculator

/-- Operators between two operands. -/
inductive BinaryOp
  | and
  | or
  | greater
  | less
  | greaterEqual
  | lessEqual
  | equal
  | notEqual
  | regexMatch
  | add
  | subtract
  | multiply
  | divide
  | remainder
  | power
  deriving Repr, DecidableEq

/-- Operators before one operand. -/
inductive UnaryOp
  | negate
  | not
  deriving Repr, DecidableEq

/-- An operator of either kind. -/
inductive Op
  | unary (op : UnaryOp)
  | binary (op : BinaryOp)
  deriving Repr, DecidableEq

/-- The spelling of a binary operator, in source text and in programs. -/
def BinaryOp.symbol : BinaryOp → String
  | and => "&&"
  | or => "||"
  | greater => ">"
  | less => "<"
  | greaterEqual => ">="
  | lessEqual => "<="
  | equal => "=="
  | notEqual => "!="
  | regexMatch => "=~"
  | add => "+"
  | subtract => "-"
  | multiply => "*"
  | divide => "/"
  | remainder => "%"
  | power => "^"

/-- The spelling of a unary operator in programs, where negation must differ from subtraction. -/
def UnaryOp.symbol : UnaryOp → String
  | negate => "_"
  | not => "!"

/-- The spelling of a unary operator in source text. -/
def UnaryOp.sourceSymbol : UnaryOp → String
  | negate => "-"
  | not => "!"

namespace Op

/-- The spelling of an operator in programs. -/
def symbol : Op → String
  | unary op => op.symbol
  | binary op => op.symbol

/-- The spelling of an operator in source text. -/
def sourceSymbol : Op → String
  | unary op => op.sourceSymbol
  | binary op => op.symbol

def precedence : Op → Nat
  | binary .and | binary .or => 1
  | binary .greater | binary .less | binary .greaterEqual | binary .lessEqual
  | binary .equal | binary .notEqual | binary .regexMatch => 2
  | binary .add | binary .subtract => 3
  | binary .multiply | binary .divide | binary .remainder | unary .negate => 4
  | binary .power | unary .not => 5

/-- Decide whether equal operators in a row group to the right. -/
def isRightAssociative : Op → Bool
  | binary .power | unary .not => true
  | _ => false

/-- Decide whether an operator has one operand. -/
def isUnary : Op → Bool
  | unary _ => true
  | binary _ => false

/-- Decide whether a pending operator is applied before `incoming` is read: it is if it binds
tighter, and also if both bind equally and `incoming` groups to the left. -/
def yieldsTo (pending incoming : Op) : Bool :=
  if incoming.isRightAssociative then incoming.precedence < pending.precedence
  else incoming.precedence ≤ pending.precedence

/-- All operators, from those that bind loosest to those that bind tightest. -/
def all : List Op :=
  [binary .and, binary .or, binary .greater, binary .less, binary .greaterEqual,
    binary .lessEqual, binary .equal, binary .notEqual, binary .regexMatch, binary .add,
    binary .subtract, binary .multiply, binary .divide, binary .remainder, unary .negate,
    binary .power, unary .not]

theorem mem_all (op : Op) : op ∈ all := by
  rcases op with op | op <;> cases op <;> decide

/-- What is said of all operators can be checked one by one. -/
instance (property : Op → Prop) [DecidablePred property] : Decidable (∀ op, property op) :=
  decidable_of_iff (∀ op ∈ all, property op)
    ⟨fun holds op => holds op (mem_all op), fun holds op _ => holds op⟩

end Op

end Calculator
