import Calculator.Pattern.Expression
import Calculator.Pattern.Fault

/-!
# Escapes of regular expressions

What a backslash and the characters after it stand for: a character, an anchor or a named class.
In extended mode blanks and comments may stand between the parts of an escape.
-/

namespace Calculator.Pattern

/-- How the rest of an expression is read. -/
structure Flags where
  ignoreCase : Bool
  multiLine : Bool
  dotAll : Bool
  extended : Bool
  swapGreed : Bool
  /-- Classes have their Unicode reading. -/
  unicode : Bool
  /-- Line ends may include a carriage return. -/
  anyLineEnd : Bool
  deriving Repr, DecidableEq

/-- Drop a comment up to and including its line feed. -/
def dropComment (chars : List Char) : List Char :=
  (chars.dropWhile (· != '\n')).drop 1

/-- To drop blanks and a comment leaves less. -/
theorem dropComment_shorter {chars rest : List Char}
    (visible : Text.skipBlanks chars = '#' :: rest) :
    (dropComment rest).length < chars.length := by
  have visibleLength := (List.dropWhile_sublist (l := chars) Text.isBlank).length_le
  have commentLength := (List.dropWhile_sublist (l := rest) (· != '\n')).length_le
  rw [← Text.skipBlanks, visible, List.length_cons] at visibleLength
  rw [dropComment, List.length_drop]
  omega

/-- Drop blanks, and comments after them. -/
def dropIgnored (chars : List Char) : List Char :=
  match _visible : Text.skipBlanks chars with
  | '#' :: rest => dropIgnored (dropComment rest)
  | rest => rest
termination_by chars.length
decreasing_by exact dropComment_shorter _visible

def skipIgnored (extended : Bool) (chars : List Char) : List Char :=
  if extended then dropIgnored chars else chars

/-- The smallest unit of an expression. -/
inductive Primitive
  /-- A character; `highByte` holds of an escape for a byte that is no character of its own. -/
  | literal (c : Char) (highByte : Bool)
  | assertion (assertion : Assertion)
  | named (name : NamedClass) (negated : Bool)
  deriving Repr

/-- The set of word characters under the flags. -/
def Flags.wordSet (flags : Flags) : CharSet :=
  if flags.unicode then CharSet.ofClass .word else CharSet.ofAsciiClass .word

/-- Decide whether a character has a meaning of its own in expressions. -/
def isMeta (c : Char) : Bool :=
  ['\\', '.', '+', '*', '?', '(', ')', '|', '[', ']', '\x7b', '\x7d', '^', '$', '#', '&', '-',
    '~'].contains c

/-- Decide whether a backslash may stand before a character that it does not change. -/
def isEscapable (c : Char) : Bool :=
  isMeta c || (c.toNat < 128 && !c.isAlphanum && c != '<' && c != '>')

/-- The character that a letter after a backslash stands for. -/
def controlEscape? (c : Char) : Option Char :=
  if c = 'a' then some '\x07'
  else if c = 'f' then some '\x0c'
  else if c = 't' then some '\t'
  else if c = 'n' then some '\n'
  else if c = 'r' then some '\r'
  else if c = 'v' then some '\x0b'
  else none

def hexDigitValue? (c : Char) : Option Nat :=
  if c.isDigit then some (c.toNat - 48)
  else if 'a' ≤ c ∧ c ≤ 'f' then some (c.toNat - 87)
  else if 'A' ≤ c ∧ c ≤ 'F' then some (c.toNat - 55)
  else none

def charOf (code : Nat) : Except ExpressionFault Char :=
  if code.isValidChar then .ok (Char.ofNat code) else .error .invalidCodePoint

/-- Read a fixed number of hexadecimal digits. -/
def readHexDigits (extended : Bool) : Nat → Nat → List Char →
    Except ExpressionFault (Nat × List Char)
  | 0, value, chars => .ok (value, chars)
  | count + 1, value, chars =>
    match chars with
    | [] => .error .unfinishedEscape
    | c :: rest =>
      match hexDigitValue? c with
      | some digit => readHexDigits extended count (16 * value + digit) (skipIgnored extended rest)
      | none => .error .invalidCodePoint

/-- Read hexadecimal digits up to a closing brace, so many at most. -/
def readBracedHex (extended : Bool) : Nat → Option Nat → List Char →
    Except ExpressionFault (Nat × List Char)
  | 0, _, _ => .error .unfinishedEscape
  | fuel + 1, value, chars =>
    match chars with
    | [] => .error .unfinishedEscape
    | c :: rest =>
      if c = '\x7d' then
        match value with
        | some value => .ok (value, skipIgnored extended rest)
        | none => .error .invalidCodePoint
      else
        match hexDigitValue? c with
        | some digit =>
          readBracedHex extended fuel (some (16 * value.getD 0 + digit))
            (skipIgnored extended rest)
        | none => .error .invalidCodePoint

/-- Read the code point of an escape after its letter: digits in braces, or as many as the letter
asks for. -/
def readCodePoint (extended : Bool) (digits : Nat) (chars : List Char) :
    Except ExpressionFault (Primitive × List Char) :=
  match skipIgnored extended chars with
  | '\x7b' :: rest => do
    let (code, after) ←
      readBracedHex extended (rest.length + 1) none (skipIgnored extended rest)
    let c ← charOf code
    .ok (.literal c false, after)
  | rest => do
    let (code, after) ← readHexDigits extended digits 0 rest
    let c ← charOf code
    .ok (.literal c (digits == 2 && 128 ≤ code), after)

/-- Decide whether a character may stand in the name of a word boundary. -/
def isBoundaryNameChar (c : Char) : Bool :=
  c.isAlpha || c == '-'

/-- Read the name of a word boundary after its first brace. -/
def readBoundaryName (extended : Bool) : Nat → List Char → List Char × List Char
  | 0, chars => ([], chars)
  | fuel + 1, chars =>
    match chars with
    | [] => ([], [])
    | c :: rest =>
      if isBoundaryNameChar c then
        let (name, after) := readBoundaryName extended fuel (skipIgnored extended rest)
        (c :: name, after)
      else ([], chars)

/-- Read what follows the escape of a word boundary.  A brace that no name follows belongs to a
repetition. -/
def readBoundary (flags : Flags) (chars : List Char) :
    Except ExpressionFault (Primitive × List Char) :=
  let plain : Except ExpressionFault (Primitive × List Char) :=
    .ok (.assertion (.boundary flags.wordSet), chars)
  match chars with
  | '\x7b' :: rest =>
    match skipIgnored flags.extended rest with
    | [] => .error .invalidWordBoundary
    | c :: others =>
      if isBoundaryNameChar c then
        let (name, after) :=
          readBoundaryName flags.extended (others.length + 1) (c :: others)
        match after with
        | '\x7d' :: remaining =>
          let name := String.ofList name
          if name = "start" then .ok (.assertion (.wordStart flags.wordSet), remaining)
          else if name = "end" then .ok (.assertion (.wordEnd flags.wordSet), remaining)
          else if name = "start-half" then
            .ok (.assertion (.notAfterWord flags.wordSet), remaining)
          else if name = "end-half" then
            .ok (.assertion (.notBeforeWord flags.wordSet), remaining)
          else .error .invalidWordBoundary
        | _ => .error .invalidWordBoundary
      else plain
  | _ => plain

/-- The named class of a letter after a backslash, and whether it is negated. -/
def namedEscape? (c : Char) : Option (NamedClass × Bool) :=
  if c = 'd' then some (.digit, false)
  else if c = 'D' then some (.digit, true)
  else if c = 's' then some (.blank, false)
  else if c = 'S' then some (.blank, true)
  else if c = 'w' then some (.word, false)
  else if c = 'W' then some (.word, true)
  else none

/-- Read an escape after its backslash. -/
def readEscape (flags : Flags) (chars : List Char) :
    Except ExpressionFault (Primitive × List Char) :=
  match chars with
  | [] => .error .unfinishedEscape
  | c :: rest =>
    if c.isDigit then .error .backReference
    else if c = 'x' then readCodePoint flags.extended 2 rest
    else if c = 'u' then readCodePoint flags.extended 4 rest
    else if c = 'U' then readCodePoint flags.extended 8 rest
    else if c = 'p' ∨ c = 'P' then .error .propertyClass
    else if isEscapable c then .ok (.literal c false, rest)
    else if c = 'A' then .ok (.assertion .textStart, rest)
    else if c = 'z' then .ok (.assertion .textEnd, rest)
    else if c = 'b' then readBoundary flags rest
    else if c = 'B' then .ok (.assertion (.noBoundary flags.wordSet), rest)
    else if c = '<' then .ok (.assertion (.wordStart flags.wordSet), rest)
    else if c = '>' then .ok (.assertion (.wordEnd flags.wordSet), rest)
    else
      match namedEscape? c, controlEscape? c with
      | some (name, negated), _ => .ok (.named name negated, rest)
      | none, some control => .ok (.literal control false, rest)
      | none, none => .error .unknownEscape

end Calculator.Pattern
