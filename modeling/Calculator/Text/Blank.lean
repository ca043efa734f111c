import Calculator.Text.Range

/-!
# Blank characters, trimming and lines

Blank characters are those with the Unicode property White_Space.  Trimming removes them
from the ends of a text.  A text is cut into lines at line feeds; a carriage return just
before a line feed belongs to the line end, and a line feed at the very end of the text opens
no further line.
-/

namespace Calculator.Text

/-- Code points with the property White_Space. -/
def blankRanges : RangeTable := [
    (0x0009, 0x000d), (0x0020, 0x0020), (0x0085, 0x0085), (0x00a0, 0x00a0), (0x1680, 0x1680),
    (0x2000, 0x200a), (0x2028, 0x2029), (0x202f, 0x202f), (0x205f, 0x205f), (0x3000, 0x3000)]

/-- Decide whether a character has the property White_Space. -/
def isBlank (c : Char) : Bool :=
  blankRanges.contains c.toNat

/-- Decide whether a character is an ASCII blank: space, tab, line feed, form feed or
carriage return. -/
def isAsciiBlank (c : Char) : Bool :=
  c == ' ' || c == '\t' || c == '\n' || c == '\x0c' || c == '\r'

/-- Decide whether a character may continue a name: an ASCII letter or digit, or an
underscore. -/
def isNameChar (c : Char) : Bool :=
  c.isAlphanum || c == '_'

def skipBlanks (chars : List Char) : List Char :=
  chars.dropWhile isBlank

def dropTrailingBlanks (chars : List Char) : List Char :=
  (chars.reverse.dropWhile isBlank).reverse

def trimChars (chars : List Char) : List Char :=
  dropTrailingBlanks (skipBlanks chars)

/-- Remove blanks from both ends of a string. -/
def trim (text : String) : String :=
  String.ofList (trimChars text.toList)

/-- The first line of a text without its line end, and the text after that line end, if there
is one. -/
def splitLine : List Char → List Char × Option (List Char)
  | [] => ([], none)
  | '\n' :: rest => ([], some rest)
  | '\r' :: '\n' :: rest => ([], some rest)
  | c :: rest =>
    let split := splitLine rest
    (c :: split.1, split.2)

theorem splitLine_shorter {chars line later : List Char}
    (split : splitLine chars = (line, some later)) : later.length < chars.length := by
  induction chars using splitLine.induct generalizing line with
  | case1 => simp [splitLine] at split
  | case2 rest =>
    simp only [splitLine, Prod.mk.injEq, Option.some.injEq] at split
    simp [split.2]
  | case3 rest =>
    simp only [splitLine, Prod.mk.injEq, Option.some.injEq] at split
    simp only [← split.2, List.length_cons]
    omega
  | case4 c rest notFeed notReturn ih =>
    rw [splitLine] at split
    · simp only [Prod.mk.injEq] at split
      have shorter := @ih (splitLine rest).1 (Prod.ext rfl split.2)
      simp only [List.length_cons]
      omega
    · exact notFeed
    · exact notReturn

def linesOf (chars : List Char) : List (List Char) :=
  match _split : splitLine chars with
  | (line, some later) => line :: linesOf later
  | (line, none) => if line.isEmpty then [] else [line]
termination_by chars.length
decreasing_by exact splitLine_shorter _split

def lines (text : String) : List String :=
  (linesOf text.toList).map String.ofList

/-- The text of consecutive lines, each with its line end. -/
def unlines (lines : List String) : String :=
  String.join (lines.map (· ++ "\n"))

/-- Cut a list at every element that satisfies a test, which is removed; there is one more piece
than there are cuts. -/
def splitAt (isCut : Char → Bool) : List Char → List (List Char)
  | [] => [[]]
  | c :: rest =>
    if isCut c then [] :: splitAt isCut rest
    else
      match splitAt isCut rest with
      | [] => [[c]]
      | piece :: pieces => (c :: piece) :: pieces

/-- Cut a list at its first element that satisfies a test, which is removed. -/
def splitFirst? (isCut : Char → Bool) : List Char → Option (List Char × List Char)
  | [] => none
  | c :: rest =>
    if isCut c then some ([], rest)
    else (splitFirst? isCut rest).map fun (before, after) => (c :: before, after)

end Calculator.Text
