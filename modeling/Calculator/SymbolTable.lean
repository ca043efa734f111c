import Calculator.Builtin
import Calculator.Conversion

/-!
# Symbol tables

A symbol table binds variables, functions that were defined by an expression, and functions of the
host.  Constants, keywords and the names of built-in functions cannot be bound.  A definition is
closed: every name of its body that is no parameter is replaced by the value that it has when the
function is defined.
-/

namespace Calculator

/-- A function that was defined by an expression. -/
structure UserFunction where
  params : List String
  body : Program

/-- A function of the host, which takes a fixed number of arguments and may fail with a message. -/
structure HostFunction where
  arity : Nat
  call : List Value → Except String Value

/-- Anything that can be called by name. -/
inductive Function
  | builtin (builtin : Builtin)
  | user (function : UserFunction)
  | host (function : HostFunction)

/-- The number of arguments that a function takes. -/
def Function.arity : Function → Nat
  | builtin _ => 1
  | user function => function.params.length
  | host function => function.arity

/-- The bindings of variables, the constants and the captures among them. -/
abbrev Variables := Entries Value

namespace Variables

def constantNames : List String := ["e", "pi"]

def keywordNames : List String := ["null", "true", "false"]

/-- Decide whether a name can never be bound. -/
def isReserved (name : String) : Bool :=
  constantNames.contains name || keywordNames.contains name

/-- Euler's number and the circle constant are bound from the start. -/
def initial : Variables :=
  Entries.ofList [("e", .number 2.718281828459045), ("pi", .number 3.141592653589793)]

def set (name : String) (value : Value) (globals : Variables) : Except Error Variables :=
  if isReserved name then .error (.reservedConstant name)
  else .ok (Entries.put name value globals)

/-- The name of the variable that holds the text of a group. -/
def captureName (index : Nat) : String :=
  "$" ++ Decimal.naturalText index

def setCapture (index : Nat) (text : String) (globals : Variables) : Variables :=
  Entries.put (captureName index) (.string text) globals

/-- Bind the variables of consecutive groups. -/
def setCaptures : Nat → List String → Variables → Variables
  | _, [], globals => globals
  | index, text :: texts, globals => setCaptures (index + 1) texts (setCapture index text globals)

/-- The bindings that listings show: all but the constants. -/
def visible (globals : Variables) : List (String × Value) :=
  globals.filter fun entry => !constantNames.contains entry.1

end Variables

/-- Decide whether a name is a lower-case ASCII letter followed by ASCII letters, digits and
underscores. -/
def isIdentifier (name : String) : Bool :=
  match name.toList with
  | [] => false
  | first :: rest => first.isLower && rest.all Text.isNameChar

/-- The bindings of an interpreter. -/
structure SymbolTable where
  globals : Variables
  functions : Entries UserFunction
  hosts : Entries HostFunction

namespace SymbolTable

def initial : SymbolTable :=
  { globals := Variables.initial, functions := [], hosts := [] }

def valueOf? (table : SymbolTable) (name : String) : Option Value :=
  Entries.get? table.globals name

/-- The function that a name means in a call: a built-in function, else one that was defined, else
one of the host. -/
def function? (table : SymbolTable) (name : String) : Option Function :=
  if Builtin.isName name then (Builtin.ofName? name).map .builtin
  else
    match Entries.get? table.functions name with
    | some function => some (.user function)
    | none => (Entries.get? table.hosts name).map .host

/-- The number of arguments of the function that a name means. -/
def arity? (table : SymbolTable) (name : String) : Option Nat :=
  (table.function? name).map Function.arity

/-- Decide whether a name is taken by a function. -/
def isFunction (table : SymbolTable) (name : String) : Bool :=
  Builtin.isName name || Entries.binds table.functions name || Entries.binds table.hosts name

def assign (name : String) (value : Value) (table : SymbolTable) : Except Error SymbolTable :=
  if Variables.isReserved name then .error (.reservedConstant name)
  else if !isIdentifier name then .error (.invalidName name)
  else if table.isFunction name then .error (.assignToFunction name)
  else (table.globals.set name value).map fun globals => { table with globals }

def checkFunctionName (name : String) : Except Error Unit :=
  if Builtin.isName name then .error (.builtinRedefinition name)
  else if !isIdentifier name || Variables.isReserved name then .error (.invalidName name)
  else .ok ()

/-- Check the parameters of a new function, of which some have been seen already. -/
def checkParameters : List String → List String → Except Error Unit
  | _, [] => .ok ()
  | seen, param :: params =>
    if !isIdentifier param || Variables.isReserved param then .error (.invalidName param)
    else if seen.contains param then .error (.duplicateParameter param)
    else checkParameters (param :: seen) params

/-- Replace a token that names a variable, and no parameter, by the variable's value. -/
def freezeToken (table : SymbolTable) (params : List String) (token : Token) :
    Except Error Token :=
  match token with
  | .var name =>
    if params.contains name then .ok token
    else
      match table.valueOf? name with
      | some value => .ok (.value value)
      | none => .error (.undefinedInDefinition name)
  | _ => .ok token

/-- Replace all variables of a program but the parameters by their values. -/
def freeze (table : SymbolTable) (params : List String) : Program → Except Error Program
  | [] => .ok []
  | token :: rest =>
    match table.freezeToken params token with
    | .error error => .error error
    | .ok frozen =>
      match table.freeze params rest with
      | .error error => .error error
      | .ok later => .ok (frozen :: later)

/-- Define a function, in place of an earlier one. -/
def define (name : String) (params : List String) (body : String) (table : SymbolTable) :
    Except Error SymbolTable :=
  match checkFunctionName name with
  | .error error => .error error
  | .ok () =>
    match checkParameters [] params with
    | .error error => .error error
    | .ok () =>
      match convert table.arity? body with
      | .error error => .error error
      | .ok program =>
        match table.freeze params program with
        | .error error => .error error
        | .ok frozen =>
          .ok
            { table with
              functions := Entries.put name { params, body := frozen } table.functions }

/-- Make a function of the host callable. -/
def registerHost (name : String) (function : HostFunction) (table : SymbolTable) :
    Except Error SymbolTable :=
  match checkFunctionName name with
  | .error error => .error error
  | .ok () => .ok { table with hosts := Entries.put name function table.hosts }

def setCaptures (texts : List String) (table : SymbolTable) : SymbolTable :=
  { table with globals := Variables.setCaptures 0 texts table.globals }

/-- The variables that listings show, in order of their names. -/
def visibleVariables (table : SymbolTable) : List (String × Value) :=
  table.globals.visible

/-- The defined functions with their parameters, in order of their names. -/
def definitions (table : SymbolTable) : List (String × List String) :=
  table.functions.map fun entry => (entry.1, entry.2.params)

end SymbolTable

end Calculator
