import Calculator.Decimal.Digits
import Calculator.Pattern.Basic
import Calculator.Pattern.ClassReader
import Calculator.Pattern.Joining

/-!
# Reading regular expressions

An expression is read from left to right.  Open groups wait on a stack, each with what was read
before it.  Flags that are set in parentheses hold up to the end of the group that they stand in.
-/

namespace Calculator.Pattern

/-- An expression with the nesting depth of its written form. -/
structure Piece where
  expression : Expression
  depth : Nat

/-- The written form may not nest deeper. -/
def deepestExpression : Nat := 250

/-- Counts of repetitions are smaller than this. -/
def countBound : Nat := 1 <<< 32

/-- What has been read of a group: the parts of its last alternative and the alternatives before
it, the latest first.  A part that only sets flags has no expression. -/
structure OpenGroup where
  parts : List (Option Piece)
  alternatives : List Piece

/-- A group in which another one was opened, with the flags to return to and the number of the
inner group, if it remembers its text. -/
structure Enclosing where
  group : OpenGroup
  flags : Flags
  index : Option Nat

/-- The state of reading an expression. -/
structure Reading where
  flags : Flags
  group : OpenGroup
  enclosing : List Enclosing
  /-- How many groups remember their text, the whole match included. -/
  groupCount : Nat
  names : List (List Char)

def OpenGroup.empty : OpenGroup :=
  { parts := [], alternatives := [] }

def OpenGroup.add (group : OpenGroup) (part : Option Piece) : OpenGroup :=
  { group with parts := part :: group.parts }

/-- The nesting depth of several pieces.  More than one of them nest one level deeper; parts without
an expression add to their number. -/
def nestingDepth (count : Nat) (pieces : List Piece) : Nat :=
  let depth := pieces.foldl (fun depth piece => max depth piece.depth) 0
  if 1 < count then depth + 1 else depth

def OpenGroup.lastAlternative (group : OpenGroup) : Piece :=
  let pieces := group.parts.reverse.filterMap id
  { expression := Expression.inSequence (pieces.map (·.expression))
    depth := nestingDepth group.parts.length pieces }

def OpenGroup.whole (group : OpenGroup) : Piece :=
  let pieces := (group.lastAlternative :: group.alternatives).reverse
  { expression := Expression.oneOf (pieces.map (·.expression))
    depth := nestingDepth pieces.length pieces }

def OpenGroup.alternate (group : OpenGroup) : OpenGroup :=
  { parts := [], alternatives := group.lastAlternative :: group.alternatives }

namespace Reading

/-- Add an expression without inner nesting. -/
def addExpression (reading : Reading) (expression : Expression) (depth : Nat) : Reading :=
  { reading with group := reading.group.add (some { expression, depth }) }

def dot (flags : Flags) : Except ExpressionFault Expression :=
  if !flags.unicode then .error .brokenCharacter
  else if flags.dotAll then .ok (.one .all)
  else if flags.anyLineEnd then .ok (.one (CharSet.ofList ['\r', '\n']).complement)
  else .ok (.one (CharSet.single '\n').complement)

def lineStart (flags : Flags) : Assertion :=
  if !flags.multiLine then .textStart
  else if flags.anyLineEnd then .anyLineStart else .lineStart

def lineEnd (flags : Flags) : Assertion :=
  if !flags.multiLine then .textEnd
  else if flags.anyLineEnd then .anyLineEnd else .lineEnd

def unit (flags : Flags) : Primitive → Except ExpressionFault Expression
  | .literal c highByte =>
    if highByte && !flags.unicode then .error .brokenCharacter
    else .ok (.ofSet (flags.closeCase (.single c)))
  | .assertion assertion => .ok (.assertion assertion)
  | .named name negated => (flags.checkBytes (flags.namedSet name negated)).map .ofSet

/-- The flags after a flag letter was switched. -/
def setFlag? (flags : Flags) (letter : Char) (value : Bool) : Option Flags :=
  if letter = 'i' then some { flags with ignoreCase := value }
  else if letter = 'm' then some { flags with multiLine := value }
  else if letter = 's' then some { flags with dotAll := value }
  else if letter = 'U' then some { flags with swapGreed := value }
  else if letter = 'u' then some { flags with unicode := value }
  else if letter = 'R' then some { flags with anyLineEnd := value }
  else if letter = 'x' then some { flags with extended := value }
  else none

/-- Read flag letters up to a colon or a closing parenthesis.  Letters after a hyphen switch flags
off, and no letter may occur twice.  The answer holds the new flags, whether there were any
letters, and the text from the final character on. -/
def readFlags (seen : List Char) (negated dangling : Bool) (flags : Flags) :
    List Char → Except ExpressionFault (Flags × Bool × List Char)
  | [] => .error .unfinishedFlags
  | c :: rest =>
    if c = ':' ∨ c = ')' then
      if dangling then .error .danglingNegation else .ok (flags, !seen.isEmpty, c :: rest)
    else if seen.contains c then .error .repeatedFlag
    else if c = '-' then readFlags (c :: seen) true true flags rest
    else
      match setFlag? flags c (!negated) with
      | some changed => readFlags (c :: seen) negated false changed rest
      | none => .error .unknownFlag

/-- Decide whether a character may stand in the name of a group. -/
def isGroupNameChar (isFirst : Bool) (c : Char) : Bool :=
  if isFirst then c == '_' || Text.isAlphabetic c
  else c == '_' || c == '.' || c == '[' || c == ']' || Text.isAlphanumeric c

/-- Read the name of a group up to its closing angle bracket. -/
def readGroupName (isFirst : Bool) : List Char → Except ExpressionFault (List Char × List Char)
  | [] => .error .invalidGroupName
  | c :: rest =>
    if c = '>' then if isFirst then .error .invalidGroupName else .ok ([], rest)
    else if isGroupNameChar isFirst c then
      (readGroupName false rest).map fun (name, after) => (c :: name, after)
    else .error .invalidGroupName

/-- Enter a group with given flags inside. -/
def enter (reading : Reading) (inside : Flags) (index : Option Nat) : Reading :=
  { reading with
    flags := inside
    group := .empty
    enclosing := { group := reading.group, flags := reading.flags, index } :: reading.enclosing }

/-- Enter a group that remembers its text. -/
def enterNumbered (reading : Reading) : Reading :=
  { reading.enter reading.flags (some reading.groupCount) with
    groupCount := reading.groupCount + 1 }

def openNamed (reading : Reading) (chars : List Char) :
    Except ExpressionFault (Reading × List Char) := do
  let (name, after) ← readGroupName true chars
  if reading.names.contains name then .error .duplicateGroupName
  else .ok ({ reading.enterNumbered with names := name :: reading.names }, after)

/-- Read what follows an opening parenthesis and a question mark: a name, or flags, which hold for
the rest of this group or inside a group of their own. -/
def openSpecial (reading : Reading) (chars : List Char) :
    Except ExpressionFault (Reading × List Char) :=
  match chars with
  | '=' :: _ | '!' :: _ | '<' :: '=' :: _ | '<' :: '!' :: _ => .error .lookAround
  | 'P' :: '<' :: rest => reading.openNamed rest
  | '<' :: rest => reading.openNamed rest
  | _ => do
    let (flags, any, after) ← readFlags [] false false reading.flags chars
    match after with
    | ':' :: rest => .ok (reading.enter flags none, rest)
    | _ =>
      if any then .ok ({ reading with flags, group := reading.group.add none }, after.tail)
      else .error .emptyFlags

/-- Read what follows an opening parenthesis. -/
def openParenthesis (reading : Reading) (chars : List Char) :
    Except ExpressionFault (Reading × List Char) :=
  match skipIgnored reading.flags.extended chars with
  | '?' :: rest => reading.openSpecial rest
  | rest => .ok (reading.enterNumbered, rest)

def closeParenthesis (reading : Reading) : Except ExpressionFault Reading :=
  match reading.enclosing with
  | [] => .error .unopenedGroup
  | { group, flags, index } :: enclosing =>
    let inner := reading.group.whole
    let expression :=
      match index with
      | some index => .group index inner.expression
      | none => inner.expression
    .ok
      { reading with
        flags
        enclosing
        group := group.add (some { expression, depth := inner.depth + 1 }) }

/-- Repeat the last part.  A question mark after the repetition turns its greed. -/
def repeatLast (reading : Reading) (least : Nat) (most : Option Nat) (chars : List Char) :
    Except ExpressionFault (Reading × List Char) :=
  match reading.group.parts with
  | some piece :: parts =>
    let isLazy := chars.head? == some '?'
    let greedy := isLazy == reading.flags.swapGreed
    let expression := piece.expression.repeated least most greedy
    .ok
      ({ reading with
          group :=
            { reading.group with
              parts := some { expression, depth := piece.depth + 1 } :: parts } },
        if isLazy then chars.tail else chars)
  | _ => .error .missingRepetitionOperand

/-- Read the digits of a count, among which extended mode may ignore characters. -/
def readCountDigits (extended : Bool) : Nat → List Char → List Char × List Char
  | 0, chars => ([], chars)
  | fuel + 1, chars =>
    match chars with
    | [] => ([], [])
    | c :: rest =>
      if c.isDigit then
        let (digits, after) := readCountDigits extended fuel (skipIgnored extended rest)
        (c :: digits, after)
      else ([], chars)

/-- Read a count with blanks around it, if there is one. -/
def readCount (extended : Bool) (chars : List Char) :
    Except ExpressionFault (Option Nat × List Char) :=
  let (digits, after) := readCountDigits extended (chars.length + 1) (Text.skipBlanks chars)
  let rest := skipIgnored extended (Text.skipBlanks after)
  let value := Decimal.digitsValue digits
  if digits.isEmpty then .ok (none, rest)
  else if countBound ≤ value then .error .invalidRepetitionCount
  else .ok (some value, rest)

/-- Read the bounds of a counted repetition after its opening brace. -/
def readBounds (extended : Bool) (chars : List Char) :
    Except ExpressionFault (Nat × Option Nat × List Char) := do
  let (least, afterLeast) ← readCount extended (skipIgnored extended chars)
  match least, afterLeast with
  | some least, '\x7d' :: rest => .ok (least, some least, rest)
  | some least, ',' :: rest =>
    match skipIgnored extended rest with
    | '\x7d' :: after => .ok (least, none, after)
    | upper => do
      let (most, afterMost) ← readCount extended upper
      match most, afterMost with
      | some most, '\x7d' :: after =>
        if least ≤ most then .ok (least, some most, after) else .error .invalidRepetitionCount
      | _, _ => .error .invalidRepetitionCount
  | _, _ => .error .invalidRepetitionCount

/-- Read a counted repetition after its opening brace. -/
def repeatCounted (reading : Reading) (chars : List Char) :
    Except ExpressionFault (Reading × List Char) := do
  let (least, most, rest) ← readBounds reading.flags.extended chars
  reading.repeatLast least most (skipIgnored reading.flags.extended rest)

/-- Read the part of an expression that starts with a character. -/
def readPart (reading : Reading) (c : Char) (rest : List Char) :
    Except ExpressionFault (Reading × List Char) :=
  let flags := reading.flags
  if c = '(' then reading.openParenthesis rest
  else if c = ')' then reading.closeParenthesis.map fun closed => (closed, rest)
  else if c = '|' then .ok ({ reading with group := reading.group.alternate }, rest)
  else if c = '[' then
    (readClass flags rest).map fun (set, depth, after) =>
      (reading.addExpression (.ofSet set) depth, after)
  else if c = '?' then reading.repeatLast 0 (some 1) rest
  else if c = '*' then reading.repeatLast 0 none rest
  else if c = '+' then reading.repeatLast 1 none rest
  else if c = '\x7b' then
    match reading.group.parts with
    | some _ :: _ => reading.repeatCounted rest
    | _ => .error .missingRepetitionOperand
  else if c = '\\' then do
    let (primitive, after) ← readEscape flags rest
    let expression ← unit flags primitive
    .ok (reading.addExpression expression 0, after)
  else if c = '.' then
    (dot flags).map fun expression => (reading.addExpression expression 0, rest)
  else if c = '^' then .ok (reading.addExpression (.assertion (lineStart flags)) 0, rest)
  else if c = '$' then .ok (reading.addExpression (.assertion (lineEnd flags)) 0, rest)
  else .ok (reading.addExpression (.ofSet (flags.closeCase (.single c))) 0, rest)

/-- Read all parts of an expression; each takes a character at least, which bounds their number. -/
def readParts : Nat → Reading → List Char → Except ExpressionFault Reading
  | 0, reading, _ => .ok reading
  | fuel + 1, reading, chars =>
    match skipIgnored reading.flags.extended chars with
    | [] => .ok reading
    | c :: rest =>
      match reading.readPart c rest with
      | .error fault => .error fault
      | .ok (next, after) => readParts fuel next after

def start (options : Options) : Reading :=
  { flags :=
      { ignoreCase := options.ignoreCase, multiLine := options.multiLine,
        dotAll := options.dotAll, extended := options.extended, swapGreed := options.swapGreed,
        unicode := true, anyLineEnd := false }
    group := .empty
    enclosing := []
    groupCount := 1
    names := [] }

end Reading

def Expression.read (options : Options) (source : String) : Except ExpressionFault Expression := do
  let chars := source.toList
  let reading ← (Reading.start options).readParts (chars.length + 1) chars
  if !reading.enclosing.isEmpty then .error .unclosedGroup
  else
    let piece := reading.group.whole
    if deepestExpression < piece.depth then .error .nestedTooDeep else .ok piece.expression

end Calculator.Pattern
