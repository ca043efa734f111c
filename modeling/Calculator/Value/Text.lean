import Calculator.Decimal.Numeral
import Calculator.Literal.Printer
import Calculator.Text.Blank
import Calculator.Text.Quoted

/-!
# The text and the number that a value stands for

Results are shown in their display form.  Concatenation, matching and the choice of an entry use
the text form, in which null is empty.  Arithmetic uses the numeric form, which arrays, objects
and strings that are no numerals do not have.
-/

namespace Calculator.Value

/-- The form in which a value is shown: strings as they are, numbers in the plain layout, and
arrays and objects as literals. -/
def display : Value → String
  | null => "null"
  | boolean true => "true"
  | boolean false => "false"
  | number x => String.ofList (Decimal.plainChars x)
  | string text => text
  | structured => Literal.text structured

/-- The form in which a value joins a text: null is empty. -/
def asText : Value → String
  | null => ""
  | other => other.display

/-- The form in which a value is listed: strings are quoted, so that they differ from numbers. -/
def listing : Value → String
  | string text => Text.quote text
  | other => other.display

/-- The number that a string stands for, blanks around it aside. -/
def numberOfText? (text : String) : Option Float :=
  Decimal.number? (Text.trimChars text.toList)

/-- The number that a value stands for, if there is one. -/
def asNumber? : Value → Option Float
  | null => some 0
  | boolean truth => some (if truth then 1 else 0)
  | number x => some x
  | string text => numberOfText? text
  | array _ | object _ => none

end Calculator.Value
