/-!
# Why a regular expression is refused

Expressions are refused for mistakes in their form, for features that would need more than one pass
over the subject, for sets that would split a character, and for their size.
-/

namespace Calculator.Pattern

/-- What is wrong with a regular expression. -/
inductive ExpressionFault
  | unclosedGroup
  | unopenedGroup
  | emptyFlags
  | unknownFlag
  | repeatedFlag
  | danglingNegation
  | unfinishedFlags
  | invalidGroupName
  | duplicateGroupName
  | lookAround
  | missingRepetitionOperand
  | invalidRepetitionCount
  | unfinishedEscape
  | unknownEscape
  | backReference
  | invalidCodePoint
  | propertyClass
  | invalidWordBoundary
  | unclosedClass
  | invalidRange
  | invalidClassEscape
  | brokenCharacter
  | nestedTooDeep
  | tooLarge
  deriving Repr, DecidableEq

def ExpressionFault.message : ExpressionFault → String
  | unclosedGroup => "unclosed group"
  | unopenedGroup => "unopened group"
  | emptyFlags => "empty flag group"
  | unknownFlag => "unrecognized flag"
  | repeatedFlag => "repeated flag"
  | danglingNegation => "dangling flag negation"
  | unfinishedFlags => "unfinished flag group"
  | invalidGroupName => "invalid group name"
  | duplicateGroupName => "duplicate group name"
  | lookAround => "look-around is not supported"
  | missingRepetitionOperand => "repetition operator missing expression"
  | invalidRepetitionCount => "invalid repetition count"
  | unfinishedEscape => "incomplete escape sequence"
  | unknownEscape => "unrecognized escape sequence"
  | backReference => "backreferences are not supported"
  | invalidCodePoint => "invalid code point"
  | propertyClass => "property classes are not supported"
  | invalidWordBoundary => "invalid word boundary"
  | unclosedClass => "unclosed character class"
  | invalidRange => "invalid character class range"
  | invalidClassEscape => "invalid escape in character class"
  | brokenCharacter => "the pattern can match part of a character"
  | nestedTooDeep => "the pattern is nested too deeply"
  | tooLarge => "the compiled pattern is too large"

end Calculator.Pattern
