import Calculator.Text.Blank

/-!
# Statements

A line is an assignment, the definition of a function, or an expression.  The first equals sign
that is no part of a longer operator decides: before it stands a name, or a name with a list of
parameters in parentheses.  A line without such a sign, or with something else before it, is an
expression.
-/

namespace Calculator

/-- What a line asks for. -/
inductive Statement
  | assign (name expression : String)
  | define (name : String) (params : List String) (body : String)
  | expression (source : String)
  deriving Repr, DecidableEq

namespace Statement

/-- Decide whether an equals sign stands alone between two characters. -/
def isAssignment (before after : Option Char) : Bool :=
  !(after == some '=' || after == some '~') &&
    !(before == some '=' || before == some '!' || before == some '<' || before == some '>')

/-- Cut a line at its first equals sign that stands alone, which is removed. -/
def splitAssignment? (before : Option Char) : List Char → Option (List Char × List Char)
  | [] => none
  | c :: rest =>
    if c = '=' ∧ isAssignment before rest.head? then some ([], rest)
    else (splitAssignment? (some c) rest).map fun (left, right) => (c :: left, right)

/-- Decide whether a text is a nonempty string of letters, digits and underscores. -/
def isWord (chars : List Char) : Bool :=
  !chars.isEmpty && chars.all Text.isNameChar

/-- The parameters in a list between parentheses. -/
def parametersOf (list : List Char) : List String :=
  if (Text.trimChars list).isEmpty then []
  else (Text.splitAt (· == ',') list).map fun param => String.ofList (Text.trimChars param)

/-- The name and the parameters of a text of the form `name(parameters)`. -/
def signature? (left : List Char) : Option (List Char × List String) :=
  match left.reverse with
  | ')' :: reversed =>
    match Text.splitFirst? (· == '(') reversed.reverse with
    | some (head, list) =>
      let name := Text.dropTrailingBlanks head
      if isWord name then some (name, parametersOf list) else none
    | none => none
  | _ => none

/-- What a line without blanks at its ends asks for. -/
def ofChars (line : List Char) : Statement :=
  match splitAssignment? none line with
  | none => .expression (String.ofList line)
  | some (before, after) =>
    let left := Text.trimChars before
    let right := String.ofList (Text.trimChars after)
    if isWord left then .assign (String.ofList left) right
    else
      match signature? left with
      | some (name, params) => .define (String.ofList name) params right
      | none => .expression (String.ofList line)

def dropSemicolon (chars : List Char) : List Char :=
  if chars.getLast? = some ';' then chars.dropLast else chars

/-- Remove blanks from the ends of a line, and one semicolon with the blanks before it. -/
def normalize (line : String) : List Char :=
  Text.dropTrailingBlanks (dropSemicolon (Text.trimChars line.toList))

def ofLine (line : String) : Statement :=
  ofChars (normalize line)

end Statement

end Calculator
