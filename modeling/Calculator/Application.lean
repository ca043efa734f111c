import Calculator.CommandLine
import Calculator.InitFile
import Calculator.Session

/-!
# The application

The application reads its command line, prepares an interpreter by an init file, and handles the
expressions of the command line or the lines of its input.  The files it may read are a function
from paths to their texts, so that the application itself is a function from its surroundings to
its output.
-/

namespace Calculator

/-- Why a file cannot be read. -/
inductive FileFault
  | notFound
  | notDirectory
  | isDirectory
  | other (description : String)
  deriving Repr, DecidableEq

def FileFault.message : FileFault → String
  | notFound => "No such file or directory (os error 2)"
  | notDirectory => "Not a directory (os error 20)"
  | isDirectory => "Is a directory (os error 21)"
  | other description => description

/-- Decide whether a fault means that there is nothing at a path. -/
def FileFault.isAbsence : FileFault → Bool
  | notFound | notDirectory => true
  | _ => false

/-- What is found at a path. -/
abbrev FileContent := Except FileFault String

namespace Application

/-- What the application finds around it. -/
structure Surroundings where
  arguments : List String
  input : String
  style : Session.Style
  /-- The standard places of init files, the first one preferred. -/
  places : List String
  /-- What is found at a path. -/
  read : String → FileContent

/-- What the application leaves: an exit code and what it has written. -/
structure Outcome where
  code : Nat
  out : String
  err : String
  deriving Repr, DecidableEq

/-- The name before the application's own messages. -/
def programName : String := "safexpr"

/-- The line that shows how the application is called. -/
def usage : String :=
  "Usage: " ++ programName ++ " [-qd] [-f[<file>]] [-c<expr>]... [<expr>...]"

/-- The standard places of init files for a configuration directory and a home directory, as far as
they are known. -/
def standardPlaces (configDirectory homeDirectory : Option String) : List String :=
  (configDirectory.map fun directory => directory ++ "/" ++ programName ++ "/init.sx").toList ++
    (homeDirectory.map fun directory => directory ++ "/." ++ programName ++ "rc").toList ++
    ["./." ++ programName ++ "rc"]

/-- A message of the application about a file. -/
def fileMessage (path message : String) : String :=
  programName ++ ": " ++ path ++ ": " ++ message ++ "\n"

/-- Decide whether there is something at a path. -/
def isPresent : FileContent → Bool
  | .ok _ => true
  | .error fault => !fault.isAbsence

/-- The init file to load, if there is one. -/
def initPath? (surroundings : Surroundings) : InitChoice → Option String
  | .skip => none
  | .explicit path => some path
  | .search => surroundings.places.find? fun path => isPresent (surroundings.read path)

/-- Prepare an interpreter by what is found at a path.  The answer begins with the messages. -/
def loadInitFile (engine : Pattern.Engine) (path : String) (content : FileContent)
    (interpreter : Interpreter) : String × Interpreter :=
  match content with
  | .error fault =>
    (programName ++ ": warning: " ++ path ++ ": " ++ fault.message ++ "\n", interpreter)
  | .ok text =>
    let (file, faults) := InitFile.load text
    let (failures, prepared) := file.apply engine interpreter
    (String.join ((faults ++ failures).map fun fault => fileMessage path fault.text), prepared)

/-- Prepare a new interpreter for a command line. -/
def prepare (engine : Pattern.Engine) (surroundings : Surroundings) (line : CommandLine) :
    String × Interpreter :=
  let (messages, interpreter) :=
    match initPath? surroundings line.initFile with
    | none => ("", Interpreter.initial)
    | some path => loadInitFile engine path (surroundings.read path) Interpreter.initial
  (messages,
    if line.quiet then { interpreter with suppressErrors := true } else interpreter)

/-- The exit code after a number of failures. -/
def exitCode (failures : Nat) : Nat :=
  if failures = 0 then 0 else 1

/-- The outcome of a refused command line. -/
def refuse (fault : UsageFault) : Outcome :=
  { code := 2, out := "",
    err := programName ++ ": " ++ fault.message ++ "\n" ++ usage ++ "\n" }

/-- Run the application with a command line that has been read. -/
def runCommandLine (engine : Pattern.Engine) (surroundings : Surroundings) (line : CommandLine) :
    Outcome :=
  let (messages, interpreter) := prepare engine surroundings line
  let (transcript, _) :=
    if line.expressions.isEmpty then
      Session.run engine surroundings.style surroundings.input interpreter
    else
      Session.runExpressions engine surroundings.style.color line.expressions
        Session.Transcript.empty interpreter
  { code := exitCode transcript.failures
    out := transcript.out
    err := messages ++ transcript.err }

def run (engine : Pattern.Engine) (surroundings : Surroundings) : Outcome :=
  match CommandLine.parse surroundings.arguments with
  | .error fault => refuse fault
  | .ok line => runCommandLine engine surroundings line

end Application

end Calculator
