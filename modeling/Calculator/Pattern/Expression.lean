import Calculator.Pattern.CharSet

/-!
# Regular expressions

The form of a regular expression after its flags have been resolved: every class is a set of
characters, every anchor says what it looks at, and every repetition says which count it prefers.
-/

namespace Calculator.Pattern

/-- Conditions on the characters before and after a position. -/
inductive Assertion
  | textStart
  | textEnd
  /-- At the start, or after a line feed. -/
  | lineStart
  /-- At the end, or before a line feed. -/
  | lineEnd
  /-- At the start, or after a line end that may include a carriage return. -/
  | anyLineStart
  /-- At the end, or before a line end that may include a carriage return. -/
  | anyLineEnd
  /-- Exactly one neighbour is in the set. -/
  | boundary (word : CharSet)
  /-- Both neighbours are in the set, or none. -/
  | noBoundary (word : CharSet)
  /-- The neighbour after the position is in the set, the one before it is not. -/
  | wordStart (word : CharSet)
  /-- The neighbour before the position is in the set, the one after it is not. -/
  | wordEnd (word : CharSet)
  /-- The neighbour before the position is not in the set. -/
  | notAfterWord (word : CharSet)
  /-- The neighbour after the position is not in the set. -/
  | notBeforeWord (word : CharSet)
  deriving Repr, DecidableEq

/-- Decide membership of a neighbour, which the ends of the text do not have. -/
def inSet (set : CharSet) (neighbour : Option Char) : Bool :=
  match neighbour with
  | some c => set.contains c
  | none => false

/-- Decide an assertion by the characters before and after a position. -/
def Assertion.holds (assertion : Assertion) (before after : Option Char) : Bool :=
  match assertion with
  | textStart => before.isNone
  | textEnd => after.isNone
  | lineStart => before.isNone || before == some '\n'
  | lineEnd => after.isNone || after == some '\n'
  | anyLineStart =>
    before.isNone || before == some '\n' || (before == some '\r' && after != some '\n')
  | anyLineEnd =>
    after.isNone || after == some '\r' || (after == some '\n' && before != some '\r')
  | boundary word => inSet word before != inSet word after
  | noBoundary word => inSet word before == inSet word after
  | wordStart word => !inSet word before && inSet word after
  | wordEnd word => inSet word before && !inSet word after
  | notAfterWord word => !inSet word before
  | notBeforeWord word => !inSet word after

/-- A regular expression. -/
inductive Expression
  | empty
  /-- Matches exactly these characters. -/
  | literal (text : List Char)
  /-- Matches one character of a set. -/
  | one (set : CharSet)
  /-- Matches the empty text where a condition holds. -/
  | assertion (assertion : Assertion)
  /-- Matches what its body matches, and remembers it under a number. -/
  | group (index : Nat) (body : Expression)
  /-- Matches one expression and then the other. -/
  | sequence (first second : Expression)
  /-- Matches one of two expressions, the first one preferred. -/
  | choice (first second : Expression)
  /-- Matches its body a number of times between bounds; a greedy repetition prefers more. -/
  | repetition (least : Nat) (most : Option Nat) (greedy : Bool) (body : Expression)
  deriving Repr, DecidableEq

namespace Expression

/-- Matches one character of a set.  A set of one member is matched as a literal. -/
def ofSet (set : CharSet) : Expression :=
  match set.onlyMember? with
  | some c => literal [c]
  | none => one set

/-- Decide whether an expression matches only the empty text. -/
def matchesOnlyEmpty : Expression → Bool
  | empty => true
  | literal text => text.isEmpty
  | one _ => false
  | assertion _ => true
  | group _ body => body.matchesOnlyEmpty
  | sequence first second => first.matchesOnlyEmpty && second.matchesOnlyEmpty
  | choice first second => first.matchesOnlyEmpty && second.matchesOnlyEmpty
  | repetition _ most _ body => most == some 0 || body.matchesOnlyEmpty

/-- Decide whether an expression may match the empty text. -/
def mayMatchEmpty : Expression → Bool
  | empty => true
  | literal text => text.isEmpty
  | one _ => false
  | assertion _ => true
  | group _ body => body.mayMatchEmpty
  | sequence first second => first.mayMatchEmpty && second.mayMatchEmpty
  | choice first second => first.mayMatchEmpty || second.mayMatchEmpty
  | repetition least _ _ body => least == 0 || body.mayMatchEmpty

/-- Decide whether an expression has a part that matches nothing at all, so that the whole may have
no match either. -/
def mayHaveNoMatch : Expression → Bool
  | one set => set.ranges.isEmpty
  | group _ body => body.mayHaveNoMatch
  | sequence first second => first.mayHaveNoMatch || second.mayHaveNoMatch
  | choice first second => first.mayHaveNoMatch || second.mayHaveNoMatch
  | repetition _ _ _ body => body.mayHaveNoMatch
  | _ => false

/-- Decide whether an assertion holds wherever a match begins. -/
def beginsWith (required : Assertion) : Expression → Bool
  | assertion condition => condition == required
  | group _ body => body.beginsWith required
  | sequence first second =>
    first.beginsWith required || (first.matchesOnlyEmpty && second.beginsWith required)
  | choice first second => first.beginsWith required && second.beginsWith required
  | repetition least _ _ body => 0 < least && body.beginsWith required
  | _ => false

/-- Decide whether an assertion holds wherever a match ends. -/
def endsWith (required : Assertion) : Expression → Bool
  | assertion condition => condition == required
  | group _ body => body.endsWith required
  | sequence first second =>
    second.endsWith required || (second.matchesOnlyEmpty && first.endsWith required)
  | choice first second => first.endsWith required && second.endsWith required
  | repetition least _ _ body => 0 < least && body.endsWith required
  | _ => false

/-- Repeat an expression.  To repeat an expression that matches only the empty text more than once
adds nothing; to repeat one never, or exactly once, is no repetition. -/
def repeated (least : Nat) (most : Option Nat) (greedy : Bool) (body : Expression) :
    Expression :=
  let least := if body.matchesOnlyEmpty then min least 1 else least
  let most := if body.matchesOnlyEmpty then some (min (most.getD 1) 1) else most
  if most = some 0 then empty
  else if least = 1 ∧ most = some 1 then body
  else repetition least most greedy body

end Expression

end Calculator.Pattern
