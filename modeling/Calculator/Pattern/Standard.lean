import Calculator.Pattern.AutomatonSize
import Calculator.Pattern.Reader
import Calculator.Pattern.Search

/-!
# The standard engine

The engine of the application reads an expression, refuses it if an automaton for it would be too
large, and searches with a matching program.
-/

namespace Calculator.Pattern

/-- Read an expression and make a matcher of it. -/
def matcher (options : Options) (source : String) : Except ExpressionFault Matcher := do
  let expression ← Expression.read options source
  if expression.isTooLarge then .error .tooLarge
  else .ok (matcherOf expression.program)

def standardEngine : Engine := fun options source =>
  (matcher options source).mapError ExpressionFault.message

end Calculator.Pattern
