import Calculator.Interpreter

/-!
# Sessions

A session handles lines one after another.  A line is a command, which begins with a slash, or
something to evaluate.  Values and listings go to the output, failures to the error output.
-/

namespace Calculator

namespace Session

/-- How a session presents itself. -/
structure Style where
  /-- A prompt is written before each line. -/
  prompt : Bool
  /-- The word before an error message is red and bold. -/
  color : Bool
  deriving Repr, DecidableEq

/-- Whether a session goes on after a line. -/
inductive Flow
  | continue
  | quit
  deriving Repr, DecidableEq

/-- The answer to a line. -/
structure Response where
  succeeded : Bool
  flow : Flow
  out : String
  err : String
  deriving Repr, DecidableEq

def promptText : String := "> "

def errorWord (color : Bool) : String :=
  if color then "\x1b[38;5;9m\x1b[1merror:\x1b[0m" else "error:"

def Response.success (out : String) : Response :=
  { succeeded := true, flow := .continue, out, err := "" }

def Response.failure (color : Bool) (message : String) : Response :=
  { succeeded := false, flow := .continue, out := "",
    err := errorWord color ++ " " ++ message ++ "\n" }

def variableListing (interpreter : Interpreter) : String :=
  Text.unlines (interpreter.visibleVariables.map fun entry => entry.1 ++ " = " ++ entry.2.listing)

/-- The listing of all defined functions. -/
def functionListing (interpreter : Interpreter) : String :=
  Text.unlines
    (interpreter.functions.map fun entry => entry.1 ++ "(" ++ ", ".intercalate entry.2 ++ ")")

def line (engine : Pattern.Engine) (color : Bool) (raw : String) (interpreter : Interpreter) :
    Response × Interpreter :=
  let text := Text.trim raw
  if text = "" then (Response.success "", interpreter)
  else if text = "/quit" then ({ Response.success "" with flow := .quit }, interpreter)
  else if text = "/vars" then (Response.success (variableListing interpreter), interpreter)
  else if text = "/funcs" then (Response.success (functionListing interpreter), interpreter)
  else if text.toList.head? = some '/' then
    (Response.failure color ("unknown command '" ++ text ++ "'"), interpreter)
  else
    match interpreter.evaluate engine text with
    | (.ok value, after) => (Response.success (value.display ++ "\n"), after)
    | (.error error, after) => (Response.failure color error.message, after)

/-- What a session has written, and how many of its lines failed. -/
structure Transcript where
  failures : Nat
  out : String
  err : String
  deriving Repr, DecidableEq

/-- The transcript before the first line. -/
def Transcript.empty : Transcript :=
  { failures := 0, out := "", err := "" }

def Transcript.add (transcript : Transcript) (response : Response) : Transcript :=
  { failures := if response.succeeded then transcript.failures else transcript.failures + 1
    out := transcript.out ++ response.out
    err := transcript.err ++ response.err }

def Transcript.prompt (transcript : Transcript) (style : Style) : Transcript :=
  if style.prompt then { transcript with out := transcript.out ++ promptText } else transcript

/-- Handle lines in order up to the end or to `/quit`.  The end of the input is met after a
prompt. -/
def runLines (engine : Pattern.Engine) (style : Style) :
    List String → Transcript → Interpreter → Transcript × Interpreter
  | [], transcript, interpreter => (transcript.prompt style, interpreter)
  | raw :: rest, transcript, interpreter =>
    let (response, after) := line engine style.color raw interpreter
    let extended := (transcript.prompt style).add response
    match response.flow with
    | .quit => (extended, after)
    | .continue => runLines engine style rest extended after

def run (engine : Pattern.Engine) (style : Style) (input : String) (interpreter : Interpreter) :
    Transcript × Interpreter :=
  runLines engine style (Text.lines input) Transcript.empty interpreter

/-- Handle expressions in order up to the last one or to `/quit`. -/
def runExpressions (engine : Pattern.Engine) (color : Bool) :
    List String → Transcript → Interpreter → Transcript × Interpreter
  | [], transcript, interpreter => (transcript, interpreter)
  | expression :: rest, transcript, interpreter =>
    let (response, after) := line engine color expression interpreter
    match response.flow with
    | .quit => (transcript.add response, after)
    | .continue => runExpressions engine color rest (transcript.add response) after

end Session

end Calculator
