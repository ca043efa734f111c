import Calculator.Application
import Calculator.Pattern.Standard

/-!
# The command line program

The program finds out what surrounds it, runs the application, and writes what the application
leaves.  At a terminal it answers each line at once.
-/

namespace Calculator.CommandLineProgram

/-- The fault that an error of the file system means.  The number of an error may come with its
sign turned. -/
def faultOf : IO.Error → FileFault
  | .noFileOrDirectory _ _ _ => .notFound
  | .inappropriateType file code details =>
    match min code.toNat ((1 <<< 32) - code.toNat) with
    | 20 => .notDirectory
    | 21 => .isDirectory
    | _ => .other (toString (IO.Error.inappropriateType file code details))
  | error => .other (toString error)

/-- The fault of a text with bytes that are no characters. -/
def notText : FileFault :=
  .other "stream did not contain valid UTF-8"

def decode (bytes : ByteArray) : FileContent :=
  match String.fromUTF8? bytes with
  | some text => .ok text
  | none => .error notText

def readPath (path : String) : IO FileContent := do
  try
    return decode (← IO.FS.readBinFile path)
  catch error => return .error (faultOf error)

/-- The places to look for an init file, by the environment. -/
def places : IO (List String) := do
  let home := (← IO.getEnv "HOME").filter (· != "")
  let chosen := (← IO.getEnv "XDG_CONFIG_HOME").filter (·.startsWith "/")
  return Application.standardPlaces
    (home.map fun directory => chosen.getD (directory ++ "/.config")) home

/-- What surrounds the program, apart from its input. -/
def surroundings (arguments : List String) (initFile : InitChoice) :
    IO Application.Surroundings := do
  let places ← places
  let candidates :=
    match initFile with
    | .explicit path => [path]
    | .skip => []
    | .search => places
  let contents ← candidates.mapM fun path => return (path, ← readPath path)
  let color := (← (← IO.getStderr).isTty) && ((← IO.getEnv "NO_COLOR").getD "") == ""
  return {
    arguments
    input := ""
    style := { prompt := ← (← IO.getStdin).isTty, color }
    places
    read := fun path => (contents.lookup path).getD (.error .notFound) }

def write (out err : String) : IO Unit := do
  let output ← IO.getStdout
  output.putStr out
  output.flush
  (← IO.getStderr).putStr err

/-- Write an outcome, and return its exit code. -/
def leave (outcome : Application.Outcome) : IO UInt32 := do
  write outcome.out outcome.err
  return outcome.code.toUInt32

/-- Answer lines one by one up to the end of the input or to `/quit`, and count those that fail. -/
partial def converse (style : Session.Style) (failures : Nat) (interpreter : Interpreter) :
    IO Nat := do
  write (if style.prompt then Session.promptText else "") ""
  let line ← (← IO.getStdin).getLine
  if line.isEmpty then return failures
  let (response, after) := Session.line Pattern.standardEngine style.color line interpreter
  write response.out response.err
  let total := if response.succeeded then failures else failures + 1
  match response.flow with
  | .quit => return total
  | .continue => converse style total after

/-- Run the program with a command line that has been read. -/
def runCommandLine (arguments : List String) (line : CommandLine) : IO UInt32 := do
  let around ← surroundings arguments line.initFile
  if !line.expressions.isEmpty then
    leave (Application.runCommandLine Pattern.standardEngine around line)
  else if around.style.prompt then
    let (messages, interpreter) := Application.prepare Pattern.standardEngine around line
    write "" messages
    let failures ← converse around.style 0 interpreter
    return (Application.exitCode failures).toUInt32
  else
    match decode (← (← IO.getStdin).readBinToEnd) with
    | .ok input =>
      leave (Application.runCommandLine Pattern.standardEngine { around with input } line)
    | .error fault =>
      leave
        { code := 1, out := "",
          err := Application.programName ++ ": " ++ fault.message ++ "\n" }

end Calculator.CommandLineProgram

/-- Run the program with its arguments, and return its exit code. -/
def main (arguments : List String) : IO UInt32 :=
  match Calculator.CommandLine.parse arguments with
  | .error fault => Calculator.CommandLineProgram.leave (Calculator.Application.refuse fault)
  | .ok line => Calculator.CommandLineProgram.runCommandLine arguments line
