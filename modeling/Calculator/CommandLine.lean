/-!
# Command lines

Arguments that begin with a dash are clusters of flag letters; all others, and everything after
two dashes, are expressions.  The letter `c` takes an expression, from the rest of its cluster or
from the next argument, and the letter `f` takes the rest of its cluster as the name of an init
file.
-/

namespace Calculator

/-- Which init file to load. -/
inductive InitChoice
  /-- The first one that exists in the standard places. -/
  | search
  | skip
  | explicit (path : String)
  deriving Repr, DecidableEq

/-- What a command line asks for. -/
structure CommandLine where
  initFile : InitChoice
  /-- Expressions to evaluate instead of the standard input. -/
  expressions : List String
  quiet : Bool
  debug : Bool
  deriving Repr, DecidableEq

/-- Why a command line is refused. -/
inductive UsageFault
  | unknownOption (letter : Char)
  | missingExpression
  deriving Repr, DecidableEq

def UsageFault.message : UsageFault → String
  | unknownOption letter => "unknown option: -" ++ letter.toString
  | missingExpression => "-c requires an expression argument"

namespace CommandLine

/-- The command line without arguments. -/
def initial : CommandLine :=
  { initFile := .search, expressions := [], quiet := false, debug := false }

def addExpression (expression : String) (line : CommandLine) : CommandLine :=
  { line with expressions := line.expressions ++ [expression] }

/-- Read the letters of a cluster.  The answer also says whether the next argument is the
expression of a final `c`. -/
def readCluster : List Char → CommandLine → Except UsageFault (CommandLine × Bool)
  | [], line => .ok (line, false)
  | letter :: rest, line =>
    if letter = 'd' then readCluster rest { line with debug := true }
    else if letter = 'q' then readCluster rest { line with quiet := true }
    else if letter = 'f' then
      let initFile := if rest.isEmpty then .skip else .explicit (String.ofList rest)
      .ok ({ line with initFile }, false)
    else if letter = 'c' then
      if rest.isEmpty then .ok (line, true)
      else .ok (line.addExpression (String.ofList rest), false)
    else .error (.unknownOption letter)

/-- The flag letters of an argument, if it is a cluster. -/
def cluster? (argument : String) : Option (List Char) :=
  match argument.toList with
  | '-' :: letter :: rest => some (letter :: rest)
  | _ => none

def readArguments : List String → CommandLine → Except UsageFault CommandLine
  | [], line => .ok line
  | argument :: rest, line =>
    if argument = "--" then .ok { line with expressions := line.expressions ++ rest }
    else
      match cluster? argument with
      | none => readArguments rest (line.addExpression argument)
      | some letters =>
        match readCluster letters line with
        | .error fault => .error fault
        | .ok (after, false) => readArguments rest after
        | .ok (after, true) =>
          match rest with
          | [] => .error .missingExpression
          | expression :: later => readArguments later (after.addExpression expression)

def parse (arguments : List String) : Except UsageFault CommandLine :=
  readArguments arguments initial

end CommandLine

end Calculator
