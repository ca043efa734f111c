import Calculator.Text.Alphabet
import Calculator.Text.Blank
import Calculator.Text.CaseFold

/-!
# Sets of characters

The classes of a regular expression denote sets of characters.  A set is kept as ranges of code
points in increasing order, of which no two overlap or follow one another directly.  Surrogates are
no characters: a range that has characters on both sides of them runs across them, and no range
begins or ends with one.
-/

namespace Calculator.Pattern

/-- The named classes that a backslash and a letter denote. -/
inductive NamedClass
  | digit
  | blank
  | word
  deriving Repr, DecidableEq

/-- A set of characters. -/
structure CharSet where
  ranges : Text.RangeTable
  deriving Repr, DecidableEq

namespace CharSet

def contains (set : CharSet) (c : Char) : Bool :=
  set.ranges.contains c.toNat

def empty : CharSet :=
  ⟨[]⟩

def lastCode : Nat := 0x10ffff

def all : CharSet :=
  ⟨[(0, lastCode)]⟩

/-- The characters from one to another. -/
def range (first last : Char) : CharSet :=
  if first ≤ last then ⟨[(first.toNat, last.toNat)]⟩ else empty

def single (c : Char) : CharSet :=
  ⟨[(c.toNat, c.toNat)]⟩

/-- The only member of a set, if it has exactly one. -/
def onlyMember? (set : CharSet) : Option Char :=
  match set.ranges with
  | [(first, last)] => if first = last then some (Char.ofNat first) else none
  | _ => none

/-- Decide whether all members are ASCII characters. -/
def isAscii (set : CharSet) : Bool :=
  match set.ranges.getLast? with
  | some (_, last) => last < 128
  | none => true

/-- Join a range with those after it, which begin no earlier, where they overlap or follow one
another directly. -/
def joinFrom (first last : Nat) : Text.RangeTable → Text.RangeTable
  | [] => [(first, last)]
  | (nextFirst, nextLast) :: rest =>
    if nextFirst ≤ last + 1 then joinFrom first (max last nextLast) rest
    else (first, last) :: joinFrom nextFirst nextLast rest

/-- The set of ranges in the order of their beginnings. -/
def ofOrdered : Text.RangeTable → CharSet
  | [] => empty
  | (first, last) :: rest => ⟨joinFrom first last rest⟩

/-- Decide whether a range begins no later than another one. -/
def beginsFirst (first second : Nat × Nat) : Bool :=
  first.1 ≤ second.1

def union (first second : CharSet) : CharSet :=
  ofOrdered (List.merge first.ranges second.ranges beginsFirst)

/-- The set of the code points of a list. -/
def ofCodes (codes : List Nat) : CharSet :=
  ofOrdered ((codes.map fun code => (code, code)).mergeSort beginsFirst)

/-- The set of the characters of a list. -/
def ofList (chars : List Char) : CharSet :=
  ofCodes (chars.map Char.toNat)

def unions (sets : List CharSet) : CharSet :=
  sets.foldr union empty

def overlap? (first second : Nat × Nat) : Option (Nat × Nat) :=
  let low := max first.1 second.1
  let high := min first.2 second.2
  if low ≤ high then some (low, high) else none

def intersection (first second : CharSet) : CharSet :=
  ⟨first.ranges.flatMap fun range => second.ranges.filterMap (overlap? range)⟩

/-- The code point after one, past the surrogates. -/
def nextCode (code : Nat) : Nat :=
  if code = 0xd7ff then 0xe000 else code + 1

/-- The code point before one, past the surrogates. -/
def previousCode (code : Nat) : Nat :=
  if code = 0xe000 then 0xd7ff else code - 1

/-- The ends of the gaps before, between and after ranges, from a code point on. -/
def gapsFrom (start : Nat) : Text.RangeTable → Text.RangeTable
  | [] => if start ≤ lastCode then [(start, lastCode)] else []
  | (first, last) :: rest => (start, previousCode first) :: gapsFrom (nextCode last) rest

/-- The ends of the gaps that a set leaves. -/
def gaps (set : CharSet) : Text.RangeTable :=
  match set.ranges with
  | (0, last) :: rest => gapsFrom (nextCode last) rest
  | ranges => gapsFrom 0 ranges

/-- The characters that are not members.  Where only the surrogates lie between two ranges, the ends
of the gap are in reverse order; a complement then holds the characters on both sides. -/
def complement (set : CharSet) : CharSet :=
  ⟨set.gaps.map fun (first, last) => (min first last, max first last)⟩

/-- The members of the first set that are not in the second. -/
def difference (first second : CharSet) : CharSet :=
  intersection first ⟨second.gaps.filter fun (low, high) => low ≤ high⟩

/-- The members of exactly one of two sets. -/
def symmetricDifference (first second : CharSet) : CharSet :=
  difference (union first second) (intersection first second)

/-- Add every code point that a pair of a list relates to a member.  Pairs with the same second part
relate their first parts to one another. -/
def closeUnder (pairs : List (Nat × Nat)) (set : CharSet) : CharSet :=
  let images := ofCodes
    ((pairs.filter fun (source, image) =>
      set.ranges.contains source || set.ranges.contains image).map (·.2))
  let sources := ofCodes
    ((pairs.filter fun (_, image) => images.ranges.contains image).map (·.1))
  unions [set, images, sources]

/-- A named class in its Unicode reading. -/
def ofClass : NamedClass → CharSet
  | .digit => ⟨Text.decimalDigitRanges⟩
  | .blank => ⟨Text.blankRanges⟩
  | .word => ⟨Text.wordRanges⟩

def ofAsciiClass : NamedClass → CharSet
  | .digit => range '0' '9'
  | .blank => ofList ['\t', '\n', '\x0b', '\x0c', '\r', ' ']
  | .word => unions [range '0' '9', range 'A' 'Z', single '_', range 'a' 'z']

/-- The ASCII class of a name between colons, if there is one. -/
def ofClassName? (name : String) : Option CharSet :=
  if name = "alnum" then some (unions [range '0' '9', range 'A' 'Z', range 'a' 'z'])
  else if name = "alpha" then some (unions [range 'A' 'Z', range 'a' 'z'])
  else if name = "ascii" then some (range '\x00' '\x7f')
  else if name = "blank" then some (ofList ['\t', ' '])
  else if name = "cntrl" then some (union (range '\x00' '\x1f') (single '\x7f'))
  else if name = "digit" then some (range '0' '9')
  else if name = "graph" then some (range '!' '~')
  else if name = "lower" then some (range 'a' 'z')
  else if name = "print" then some (range ' ' '~')
  else if name = "punct" then
    some (unions [range '!' '/', range ':' '@', range '[' '\x60', range '\x7b' '~'])
  else if name = "space" then some (ofAsciiClass .blank)
  else if name = "upper" then some (range 'A' 'Z')
  else if name = "word" then some (ofAsciiClass .word)
  else if name = "xdigit" then some (unions [range '0' '9', range 'A' 'F', range 'a' 'f'])
  else none

end CharSet

end Calculator.Pattern
