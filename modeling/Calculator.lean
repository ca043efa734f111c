import Calculator.FileTree
import Calculator.Main
import Calculator.Proofs.Tree
import Calculator.Proofs.Grammar
import Calculator.Proofs.LexemeSequence
import Calculator.Proofs.Acceptance
import Calculator.Proofs.Derivation
import Calculator.Proofs.Brackets
import Calculator.Proofs.TreeEvaluation
import Calculator.Proofs.Failures
import Calculator.Proofs.NestedCalls
import Calculator.Proofs.Refusal
import Calculator.Proofs.Definitions
import Calculator.Proofs.Requests
import Calculator.Proofs.Bracketing
import Calculator.Proofs.Spelling
import Calculator.Proofs.Printing
import Calculator.Proofs.Captures
import Calculator.Proofs.Lines
import Calculator.Proofs.Names
import Calculator.Proofs.Bindings
import Calculator.Proofs.Independence
import Calculator.Proofs.Substitution
import Calculator.Proofs.Execution
import Calculator.Proofs.Limits
import Calculator.Proofs.CaptureHistory
import Calculator.Proofs.Expansion
import Calculator.Proofs.EqualsSigns
import Calculator.Proofs.ExpressionLines
import Calculator.Proofs.FrontEnds
import Calculator.Proofs.Repetition
import Calculator.Proofs.Continuation
import Calculator.Proofs.DelimitedParts
import Calculator.Proofs.WholeNumbers
import Calculator.Proofs.LiteralRoundTrip
import Calculator.Proofs.RegexPlaces
import Calculator.Proofs.LexemeTexts
import Calculator.Proofs.StringLiterals
import Calculator.Proofs.OmittedProducts
import Calculator.Proofs.MatchOperands
import Calculator.Proofs.PatternSpellings
import Calculator.Proofs.Comparison
import Calculator.Proofs.Remainders
import Calculator.Proofs.CapturedLiterals
import Calculator.Proofs.Spacing
import Calculator.Proofs.ArgumentGrammar
import Calculator.Proofs.Settings
import Calculator.Proofs.InitFileLines
import Calculator.Proofs.BuiltinNames
import Calculator.Proofs.StackDepth
import Calculator.Proofs.QuotedWords
import Calculator.Proofs.StatementLines
import Calculator.Proofs.ByteOffsets
import Calculator.Proofs.Numerals
import Calculator.Proofs.Cursor
import Calculator.Proofs.CursorConversion
import Calculator.Proofs.CursorLines
