import Calculator.Decimal.Digits

/-!
# Why a literal cannot be read

A fault is a complaint together with the place it refers to.  Places are found from the number of
bytes that follow them, because a reader holds only the text that is left.  Lines are counted by
line feeds, and columns in bytes since the last one.
-/

namespace Calculator.Literal

/-- What is wrong with a literal. -/
inductive Complaint
  | endInValue
  | endInArray
  | endInObject
  | endInString
  | valueExpected
  | keywordExpected
  | itemSeparatorExpected
  | entrySeparatorExpected
  | colonExpected
  | trailingComma
  | keyExpected
  | trailingCharacters
  | invalidNumber
  | numberOutOfRange
  | controlCharacter
  | invalidEscape
  | loneSurrogate
  | unfinishedSurrogatePair
  | nestedTooDeep
  deriving Repr, DecidableEq

def Complaint.message : Complaint → String
  | endInValue => "EOF while parsing a value"
  | endInArray => "EOF while parsing a list"
  | endInObject => "EOF while parsing an object"
  | endInString => "EOF while parsing a string"
  | valueExpected => "expected value"
  | keywordExpected => "expected ident"
  | itemSeparatorExpected => "expected `,` or `]`"
  | entrySeparatorExpected => "expected `,` or `\x7d`"
  | colonExpected => "expected `:`"
  | trailingComma => "trailing comma"
  | keyExpected => "key must be a string"
  | trailingCharacters => "trailing characters"
  | invalidNumber => "invalid number"
  | numberOutOfRange => "number out of range"
  | controlCharacter => "control character (\\u0000-\\u001F) found while parsing a string"
  | invalidEscape => "invalid escape"
  | loneSurrogate => "lone leading surrogate in hex escape"
  | unfinishedSurrogatePair => "unexpected end of hex escape"
  | nestedTooDeep => "recursion limit exceeded"

/-- A complaint and its place in the text of the literal. -/
structure Fault where
  complaint : Complaint
  line : Nat
  column : Nat
  deriving Repr, DecidableEq

def Fault.message (fault : Fault) : String :=
  fault.complaint.message ++ " at line " ++ Decimal.naturalText fault.line ++ " column " ++
    Decimal.naturalText fault.column

/-- A complaint with the number of bytes that follow its place. -/
structure Stop where
  complaint : Complaint
  bytesAfter : Nat
  deriving Repr, DecidableEq

/-- The number of bytes that a text takes. -/
def byteLength (chars : List Char) : Nat :=
  chars.foldl (fun length c => length + c.utf8Size) 0

/-- Line and column of the place that `offset` bytes precede, counted on from a given line and
column. -/
def locate : List Char → Nat → Nat → Nat → Nat × Nat
  | [], _, line, column => (line, column)
  | c :: rest, offset, line, column =>
    if offset < c.utf8Size then (line, column + offset)
    else if c = '\n' then locate rest (offset - 1) (line + 1) 0
    else locate rest (offset - c.utf8Size) line (column + c.utf8Size)

/-- The fault that a stop means in a whole text. -/
def Stop.fault (stop : Stop) (chars : List Char) : Fault :=
  let place := locate chars (byteLength chars - stop.bytesAfter) 1 0
  { complaint := stop.complaint, line := place.1, column := place.2 }

def stopBefore (complaint : Complaint) (rest : List Char) : Stop :=
  { complaint, bytesAfter := byteLength rest }

/-- Stop after so many bytes of the text that is left, or at its end if it is shorter. -/
def stopAfter (bytes : Nat) (complaint : Complaint) (rest : List Char) : Stop :=
  { complaint, bytesAfter := byteLength rest - bytes }

/-- Stop after the first byte of the text that is left: the offending byte counts. -/
def stopAt (complaint : Complaint) (rest : List Char) : Stop :=
  stopAfter 1 complaint rest

end Calculator.Literal
