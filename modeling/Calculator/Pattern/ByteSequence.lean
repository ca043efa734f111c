import Calculator.Pattern.CharSet

/-!
# Characters as sequences of bytes

The encodings of the characters of a set, one to four bytes each, are covered by sequences of byte
ranges.  A range of code points is cut until the encodings of a part are exactly those whose bytes
lie between the bytes of its first and of its last encoding.
-/

namespace Calculator.Pattern

/-- The bytes from one to another. -/
structure ByteRange where
  first : Nat
  last : Nat
  deriving Repr, DecidableEq

/-- The encodings whose bytes lie in these ranges one after another. -/
abbrev ByteSequence := List ByteRange

/-- The bytes that encode a code point. -/
def encodeCode (code : Nat) : List Nat :=
  if code < 0x80 then [code]
  else if code < 0x800 then [0xc0 + code / 0x40, 0x80 + code % 0x40]
  else if code < 0x10000 then
    [0xe0 + code / 0x1000, 0x80 + code / 0x40 % 0x40, 0x80 + code % 0x40]
  else
    [0xf0 + code / 0x40000, 0x80 + code / 0x1000 % 0x40, 0x80 + code / 0x40 % 0x40,
      0x80 + code % 0x40]

/-- Where a range must be cut so that all its encodings are equally long: the first code point after
the cut. -/
def lengthCut? (first last : Nat) : Option Nat :=
  [0x7f, 0x7ff, 0xffff].findSome? fun bound =>
    if first ≤ bound ∧ bound < last then some (bound + 1) else none

/-- Where a range that reaches into several blocks of code points must be cut so that it holds whole
blocks only.  A part of a block at the beginning is cut off before one at the end. -/
def blockCut? (first last block : Nat) : Option Nat :=
  if first / block = last / block then none
  else if first % block ≠ 0 then some ((first / block + 1) * block)
  else if last % block ≠ block - 1 then some (last / block * block)
  else none

/-- Where a range must be cut first.  The blocks are those of the code points that differ in the
last byte, in the last two bytes and in the last three. -/
def cut? (first last : Nat) : Option Nat :=
  (lengthCut? first last).or <|
    if last < 0x80 then none else [0x40, 0x1000, 0x40000].findSome? (blockCut? first last)

/-- Cut a range of code points into parts that need no further cut. -/
def cutRange (first last : Nat) : List (Nat × Nat) :=
  match cut? first last with
  | none => [(first, last)]
  | some cut =>
    if _inside : first < cut ∧ cut ≤ last then cutRange first (cut - 1) ++ cutRange cut last
    else [(first, last)]
termination_by last - first

/-- The parts of a range before and after the surrogates. -/
def aroundSurrogates (first last : Nat) : List (Nat × Nat) :=
  [(first, min last 0xd7ff), (max first 0xe000, last)].filter fun (low, high) => low ≤ high

/-- The sequences for the characters of a range. -/
def rangeSequences (first last : Nat) : List ByteSequence :=
  (aroundSurrogates first last).flatMap fun (low, high) =>
    (cutRange low high).map fun (first, last) =>
      List.zipWith ByteRange.mk (encodeCode first) (encodeCode last)

/-- The sequences for the members of a set. -/
def CharSet.byteSequences (set : CharSet) : List ByteSequence :=
  set.ranges.flatMap fun (first, last) => rangeSequences first last

end Calculator.Pattern
