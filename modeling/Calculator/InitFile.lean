import Calculator.Interpreter

/-!
# Init files

An init file prepares an interpreter.  Lines that begin with `/set` change an option, lines that
begin with a semicolon and all other commands are skipped, and every other line is evaluated.
Faulty `/set` lines change nothing.  Evaluation goes on after a line that fails.
-/

namespace Calculator

/-- Why a `/set` line changes nothing. -/
inductive SettingFault
  | missingArgument
  | missingValue (option : String)
  | notPositive (option value : String)
  | notSwitch (option value : String)
  | emptyOption
  | unknownOption (option : String)
  deriving Repr, DecidableEq

def SettingFault.message : SettingFault → String
  | missingArgument => "/set: requires an argument"
  | missingValue option => "/set: missing value for '" ++ option ++ "'"
  | notPositive option value =>
    "/set: " ++ option ++ " must be a positive integer, got '" ++ value ++ "'"
  | notSwitch option value => "/set: " ++ option ++ " expects on or off, got '" ++ value ++ "'"
  | emptyOption => "/set: option name cannot be empty"
  | unknownOption option => "/set: unknown option '" ++ option ++ "'"

/-- The options of an init file and the numbered lines that it evaluates. -/
structure InitFile where
  limits : Limits
  quiet : Bool
  lines : List (Nat × String)
  deriving Repr, DecidableEq

namespace InitFile

/-- The options before any `/set` line. -/
def initial : InitFile :=
  { limits := Limits.standard, quiet := false, lines := [] }

/-- Add a finished word, unless it is empty, before other words. -/
def addWord (reversed : List Char) (words : List String) : List String :=
  if reversed.isEmpty then words else String.ofList reversed.reverse :: words

/-- Cut a text into words at ASCII blanks.  Blanks between quotation marks belong to a word, and a
backslash there keeps the next character from meaning anything.  The word that has been begun is
given with its last character first. -/
def wordsFrom (quoted : Bool) (begun : List Char) : List Char → List String
  | [] => addWord begun []
  | c :: rest =>
    if c = '"' then wordsFrom (!quoted) begun rest
    else if c = '\\' ∧ quoted then
      match rest with
      | [] => addWord begun []
      | escaped :: later => wordsFrom quoted (escaped :: begun) later
    else if Text.isAsciiBlank c ∧ !quoted then addWord begun (wordsFrom quoted [] rest)
    else wordsFrom quoted (c :: begun) rest

def wordsOf (chars : List Char) : List String :=
  wordsFrom false [] chars

/-- Limits are smaller than this. -/
def limitBound : Nat := 1 <<< 64

/-- Read a positive limit: decimal digits, perhaps after a plus sign. -/
def limit? (text : String) : Option Nat :=
  let digits := match text.toList with
    | '+' :: rest => rest
    | chars => chars
  if digits.isEmpty || !digits.all Char.isDigit then none
  else
    let value := Decimal.digitsValue digits
    if value = 0 ∨ limitBound ≤ value then none else some value

def switch? (text : String) : Option Bool :=
  let word := String.ofList (text.toList.map Char.toLower)
  if ["on", "1", "true", "yes"].contains word then some true
  else if ["off", "0", "false", "no"].contains word then some false
  else none

def setOption (option value : String) (file : InitFile) : Except SettingFault InitFile :=
  if option = "max_depth" then
    match limit? value with
    | some maxDepth => .ok { file with limits := { file.limits with maxDepth } }
    | none => .error (.notPositive option value)
  else if option = "max_steps" then
    match limit? value with
    | some maxSteps => .ok { file with limits := { file.limits with maxSteps } }
    | none => .error (.notPositive option value)
  else if option = "quiet" then
    match switch? value with
    | some quiet => .ok { file with quiet }
    | none => .error (.notSwitch option value)
  else if option = "" then .error .emptyOption
  else .error (.unknownOption option)

/-- Do what the words after `/set` ask for: either `option=value` in one word, or an option and its
value in separate words. -/
def set (words : List String) (file : InitFile) : Except SettingFault InitFile :=
  match words with
  | [] => .error .missingArgument
  | first :: rest =>
    match Text.splitFirst? (· == '=') first.toList with
    | some (option, value) => file.setOption (String.ofList option) (String.ofList value)
    | none =>
      if rest.isEmpty then .error (.missingValue first)
      else file.setOption first (" ".intercalate rest)

/-- What an init file says on one line. -/
inductive Line
  | skipped
  /-- A change of an option, given by the words after the command. -/
  | setting (words : List String)
  | statement (text : String)
  deriving Repr, DecidableEq

def Line.ofChars (raw : List Char) : Line :=
  match Text.trimChars raw with
  | [] => skipped
  | ';' :: _ => skipped
  | '/' :: rest =>
    let (command, arguments) := (Text.splitFirst? Text.isAsciiBlank rest).getD (rest, [])
    if command = ['s', 'e', 't'] then setting (wordsOf (Text.trimChars arguments))
    else skipped
  | chars => statement (String.ofList chars)

/-- A message about a numbered line. -/
structure LineFault where
  line : Nat
  message : String
  deriving Repr, DecidableEq

/-- The wording of a message about a line. -/
def LineFault.text (fault : LineFault) : String :=
  "line " ++ Decimal.naturalText fault.line ++ ": " ++ fault.message

/-- Read lines in order, the first of which has the given number.  The lines to evaluate are
gathered behind those that were found before. -/
def loadLines : Nat → List (List Char) → InitFile → InitFile × List LineFault
  | _, [], file => (file, [])
  | number, raw :: rest, file =>
    match Line.ofChars raw with
    | .skipped => loadLines (number + 1) rest file
    | .statement text =>
      loadLines (number + 1) rest { file with lines := file.lines ++ [(number, text)] }
    | .setting words =>
      match file.set words with
      | .ok changed => loadLines (number + 1) rest changed
      | .error fault =>
        let (loaded, faults) := loadLines (number + 1) rest file
        (loaded, { line := number, message := fault.message } :: faults)

def load (text : String) : InitFile × List LineFault :=
  loadLines 1 (Text.linesOf text.toList) initial

def evaluateLines (engine : Pattern.Engine) :
    List (Nat × String) → Interpreter → List LineFault × Interpreter
  | [], interpreter => ([], interpreter)
  | (number, text) :: rest, interpreter =>
    let (outcome, after) := interpreter.evaluate engine text
    let (faults, final) := evaluateLines engine rest after
    match outcome with
    | .ok _ => (faults, final)
    | .error error => ({ line := number, message := error.message } :: faults, final)

/-- Prepare an interpreter by an init file. -/
def apply (engine : Pattern.Engine) (file : InitFile) (interpreter : Interpreter) :
    List LineFault × Interpreter :=
  evaluateLines engine file.lines
    { interpreter with limits := file.limits, suppressErrors := file.quiet }

end InitFile

end Calculator
