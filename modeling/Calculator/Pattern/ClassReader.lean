import Calculator.Pattern.Escape

/-!
# Bracketed classes

A bracketed class is a union of characters, ranges, named classes and classes in brackets of their
own, and may combine several such unions by intersection, difference and symmetric difference,
from left to right.  A circumflex after the bracket negates the whole class.
-/

namespace Calculator.Pattern

/-- The operations between the unions of a class. -/
inductive SetOperation
  | intersection
  | difference
  | symmetricDifference
  deriving Repr, DecidableEq

def SetOperation.apply (operation : SetOperation) (first second : CharSet) : CharSet :=
  match operation with
  | intersection => .intersection first second
  | difference => .difference first second
  | symmetricDifference => .symmetricDifference first second

/-- The operation that two equal characters spell. -/
def SetOperation.ofChars? (first second : Char) : Option SetOperation :=
  if first != second then none
  else if first = '&' then some intersection
  else if first = '-' then some difference
  else if first = '~' then some symmetricDifference
  else none

/-- Close a set under changes of case if the flags ask for it. -/
def Flags.closeCase (flags : Flags) (set : CharSet) : CharSet :=
  if flags.ignoreCase then
    set.closeUnder (if flags.unicode then Text.foldPairs else Text.asciiFoldPairs)
  else set

def Flags.namedSet (flags : Flags) (name : NamedClass) (negated : Bool) : CharSet :=
  let set := if flags.unicode then CharSet.ofClass name else CharSet.ofAsciiClass name
  if negated then set.complement else set

/-- Without Unicode classes, refuse sets that hold bytes that are no characters of their own. -/
def Flags.checkBytes (flags : Flags) (set : CharSet) : Except ExpressionFault CharSet :=
  if flags.unicode || set.isAscii then .ok set else .error .brokenCharacter

def readClassUnit (flags : Flags) (chars : List Char) :
    Except ExpressionFault (Primitive × List Char) :=
  match chars with
  | [] => .error .unclosedClass
  | '\\' :: rest => readEscape flags rest
  | c :: rest => .ok (.literal c false, rest)

/-- The character at an end of a range.  Without Unicode classes it must be ASCII. -/
def rangeEnd (flags : Flags) (unit : Primitive) : Except ExpressionFault Char :=
  match unit with
  | .literal c _ =>
    if !flags.unicode && 128 ≤ c.toNat then .error .brokenCharacter else .ok c
  | _ => .error .invalidRange

/-- The set of a unit that is no end of a range. -/
def unitSet (flags : Flags) (unit : Primitive) : Except ExpressionFault CharSet :=
  match unit with
  | .literal c highByte =>
    if !flags.unicode && (highByte || 128 ≤ c.toNat) then .error .brokenCharacter
    else .ok (.single c)
  | .named name negated => flags.checkBytes (flags.namedSet name negated)
  | .assertion _ => .error .invalidClassEscape

/-- The character after a hyphen that decides about its meaning.  Extended mode looks past blanks
and one number sign, but not past the comment that the number sign begins. -/
def afterHyphen? (flags : Flags) (rest : List Char) : Option Char :=
  if flags.extended then
    match Text.skipBlanks rest with
    | '#' :: comment => (Text.skipBlanks comment).head?
    | visible => visible.head?
  else rest.head?

/-- Decide whether a hyphen with this after it stands between the ends of a range. -/
def opensRange (flags : Flags) (rest : List Char) : Bool :=
  match afterHyphen? flags rest with
  | some ']' => false
  | some '-' => false
  | _ => true

/-- Read a unit of a class, or a range between two units. -/
def readClassItem (flags : Flags) (chars : List Char) :
    Except ExpressionFault (CharSet × List Char) := do
  let (first, afterFirst) ← readClassUnit flags chars
  match skipIgnored flags.extended afterFirst with
  | [] => .error .unclosedClass
  | '-' :: rest =>
    if opensRange flags rest then
      let (second, after) ← readClassUnit flags (skipIgnored flags.extended rest)
      let low ← rangeEnd flags first
      let high ← rangeEnd flags second
      if low ≤ high then .ok (.range low high, after) else .error .invalidRange
    else do
      let set ← unitSet flags first
      .ok (set, '-' :: rest)
  | rest => do
    let set ← unitSet flags first
    .ok (set, rest)

/-- Read a class name between colons and brackets, with its first bracket already read.  The answer
holds the named class and whether it is negated. -/
def readClassName? (chars : List Char) : Option (CharSet × Bool × List Char) :=
  match chars with
  | ':' :: rest =>
    let negated := rest.head? == some '^'
    let named := if negated then rest.tail else rest
    match named.dropWhile (· != ':') with
    | ':' :: ']' :: after =>
      (CharSet.ofClassName? (String.ofList (named.takeWhile (· != ':')))).map fun set =>
        (set, negated, after)
    | _ => none
  | _ => none

/-- Close a set under changes of case, and then negate it if it is to be. -/
def Flags.closeAndNegate (flags : Flags) (set : CharSet) (negated : Bool) :
    Except ExpressionFault CharSet :=
  let closed := flags.closeCase set
  flags.checkBytes (if negated then closed.complement else closed)

/-- The items of a union: their set, their number, and how deep classes nest in them. -/
structure ClassItems where
  set : CharSet
  count : Nat
  depth : Nat

/-- No items. -/
def ClassItems.none : ClassItems :=
  { set := .empty, count := 0, depth := 0 }

def ClassItems.add (items : ClassItems) (set : CharSet) (depth : Nat) : ClassItems :=
  { set := items.set.union set, count := items.count + 1, depth := max items.depth depth }

/-- How deep the union nests.  More than one item nest one level deeper. -/
def ClassItems.nesting (items : ClassItems) : Nat :=
  if 1 < items.count then items.depth + 1 else items.depth

/-- Read the hyphens, or else the closing bracket, that stand for themselves at the start of a
class. -/
def readLeading (flags : Flags) : Nat → ClassItems → List Char →
    Except ExpressionFault (ClassItems × List Char)
  | 0, _, _ => .error .unclosedClass
  | fuel + 1, items, chars =>
    match chars with
    | [] => .error .unclosedClass
    | '-' :: rest =>
      readLeading flags fuel (items.add (.single '-') 0) (skipIgnored flags.extended rest)
    | ']' :: rest =>
      if items.count = 0 then
        match skipIgnored flags.extended rest with
        | [] => .error .unclosedClass
        | after => .ok (items.add (.single ']') 0, after)
      else .ok (items, chars)
    | _ => .ok (items, chars)

/-- What stands to the left of an operation: its set, and how deep it nests. -/
structure LeftOperand where
  operation : SetOperation
  set : CharSet
  depth : Nat

/-- Apply a pending operation to a finished union.  Both operands are closed under changes of case
before. -/
def combine (flags : Flags) (left : Option LeftOperand) (items : ClassItems) : CharSet × Nat :=
  match left with
  | some { operation, set, depth } =>
    (operation.apply (flags.closeCase set) (flags.closeCase items.set),
      max depth items.nesting + 1)
  | none => (items.set, items.nesting)

/-- Read what stands between the opening bracket of a class and its items: a circumflex, and the
characters that stand for themselves there. -/
def openClass (flags : Flags) (fuel : Nat) (chars : List Char) :
    Except ExpressionFault (Bool × ClassItems × List Char) :=
  let inside := skipIgnored flags.extended chars
  let negated := inside.head? == some '^'
  let body := if negated then skipIgnored flags.extended inside.tail else inside
  (readLeading flags fuel .none body).map fun (items, rest) => (negated, items, rest)

/-- Read the items of a class up to its closing bracket.  The answer holds their set and how deep
classes nest in it. -/
def readClassItems (flags : Flags) : Nat → Option LeftOperand → ClassItems → List Char →
    Except ExpressionFault (CharSet × Nat × List Char)
  | 0, _, _, _ => .error .unclosedClass
  | fuel + 1, left, items, chars =>
    match skipIgnored flags.extended chars with
    | [] => .error .unclosedClass
    | ']' :: rest =>
      let (set, depth) := combine flags left items
      .ok (set, depth, rest)
    | '[' :: rest =>
      match readClassName? rest with
      | some (named, negated, after) =>
        match flags.closeAndNegate named negated with
        | .error fault => .error fault
        | .ok set => readClassItems flags fuel left (items.add set 0) after
      | none => do
        let (negated, inner, inside) ← openClass flags (fuel + 1) rest
        let (set, depth, after) ← readClassItems flags fuel none inner inside
        let finished ← flags.closeAndNegate set negated
        readClassItems flags fuel left (items.add finished (depth + 1)) after
    | c :: rest =>
      match rest.head?.bind (SetOperation.ofChars? c) with
      | some operation =>
        let (set, depth) := combine flags left items
        readClassItems flags fuel (some { operation, set, depth }) .none rest.tail
      | none => do
        let (set, after) ← readClassItem flags (c :: rest)
        readClassItems flags fuel left (items.add set 0) after

/-- Read a class after its opening bracket.  The answer holds its set and how deep classes nest in
it. -/
def readClass (flags : Flags) (chars : List Char) :
    Except ExpressionFault (CharSet × Nat × List Char) := do
  let (negated, items, inside) ← openClass flags (chars.length + 1) chars
  let (set, depth, after) ← readClassItems flags (chars.length + 1) none items inside
  let finished ← flags.closeAndNegate set negated
  return (finished, depth + 1, after)

end Calculator.Pattern
