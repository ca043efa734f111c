import Calculator.Value.Basic

/-!
# Patterns and the engines that compile them

A pattern is a regular expression with flags, ready to be matched.  What a regular expression
means is left to an engine: a function from the expression and its options to a matcher.  Flags,
and the delimited form of a pattern in a string, are settled before an engine is asked.
-/

namespace Calculator

/-- Why an operand is not usable as a pattern. -/
inductive PatternFault
  /-- The engine does not accept the expression. -/
  | rejected (reason : String)
  /-- A flag letter has no meaning. -/
  | unknownFlag (flag : Char)
  /-- A string is not of the form `/source/flags`. -/
  | notDelimited (text : String)
  /-- An operand is neither a pattern nor a string. -/
  | notPattern (found : Kind)
  deriving Repr, DecidableEq

def PatternFault.message : PatternFault → String
  | rejected reason => reason
  | unknownFlag flag => "unknown flag '" ++ flag.toString ++ "'"
  | notDelimited text => "'" ++ text ++ "' is not a /pattern/flags literal"
  | notPattern found => "expected a regex, found " ++ found.name

namespace Pattern

/-- What the flag letters of a pattern switch on. -/
structure Options where
  /-- `i`: letters match in either case. -/
  ignoreCase : Bool
  /-- `m`: the anchors also match at line boundaries. -/
  multiLine : Bool
  /-- `s`: the dot also matches a line feed. -/
  dotAll : Bool
  /-- `x`: blanks and comments in the expression are ignored. -/
  extended : Bool
  /-- `U`: repetitions are lazy, and greedy with a question mark. -/
  swapGreed : Bool
  deriving Repr, DecidableEq

def Options.none : Options :=
  { ignoreCase := false, multiLine := false, dotAll := false, extended := false,
    swapGreed := false }

/-- Set the option of one flag letter.  The letter `u` asks for Unicode classes, which is how every
expression is read anyway. -/
def Options.set? (options : Options) (flag : Char) : Option Options :=
  match flag with
  | 'i' => some { options with ignoreCase := true }
  | 'm' => some { options with multiLine := true }
  | 's' => some { options with dotAll := true }
  | 'x' => some { options with extended := true }
  | 'u' => some options
  | 'U' => some { options with swapGreed := true }
  | _ => Option.none

/-- The options that a string of flag letters sets, or the first letter without a meaning. -/
def Options.ofFlags (options : Options) : List Char → Except PatternFault Options
  | [] => .ok options
  | flag :: rest =>
    match options.set? flag with
    | some changed => changed.ofFlags rest
    | .none => .error (.unknownFlag flag)

/-- The groups of a match, the whole match first.  A group that took no part has no text. -/
abbrev Groups := List (Option String)

/-- Find the first match in a subject. -/
abbrev Matcher := String → Option Groups

/-- A regular expression engine turns an expression into a matcher, or says why it does not. -/
abbrev Engine := Options → String → Except String Matcher

end Pattern

/-- A compiled pattern. -/
structure Pattern where
  source : String
  flags : String
  find : Pattern.Matcher

namespace Pattern

/-- Compile an expression with flag letters. -/
def compile (engine : Engine) (source flags : String) : Except PatternFault Pattern :=
  match Options.none.ofFlags flags.toList with
  | .error fault => .error fault
  | .ok options =>
    match engine options source with
    | .ok find => .ok { source, flags, find }
    | .error reason => .error (.rejected reason)

def splitLastSlash? (chars : List Char) : Option (List Char × List Char) :=
  match chars.reverse.span (· != '/') with
  | (_, []) => Option.none
  | (flags, _ :: source) => some (source.reverse, flags.reverse)

/-- The expression and the flags of a text of the form `/source/flags`.  The expression ends at the
last slash. -/
def splitDelimited? (text : String) : Option (String × String) :=
  match text.toList with
  | '/' :: rest =>
    (splitLastSlash? rest).map fun (source, flags) => (String.ofList source, String.ofList flags)
  | _ => Option.none

/-- Compile a text of the form `/source/flags`. -/
def compileDelimited (engine : Engine) (text : String) : Except PatternFault Pattern :=
  match splitDelimited? text with
  | some (source, flags) => compile engine source flags
  | Option.none => .error (.notDelimited text)

def text (pattern : Pattern) : String :=
  "/" ++ pattern.source ++ "/" ++ pattern.flags

/-- The texts of the groups of a match, empty for those that took no part. -/
def groupTexts (groups : Groups) : List String :=
  groups.map (·.getD "")

end Pattern

end Calculator
