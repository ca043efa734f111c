import Calculator.Pattern.ByteSequence
import Calculator.Pattern.Expression

/-!
# The size of an automaton

An expression stands for two automata that read a subject byte by byte, one from its beginning and
one from its end.  What their states would take in bytes is known without building them: a draft
counts the states and their sizes.  States of a set that are made of the same parts are shared, as
long as a table of limited size remembers them; a state that has been displaced from the table is
made again.
-/

namespace Calculator.Pattern

/-- The direction in which an automaton reads. -/
inductive Direction
  | forward
  | backward
  deriving Repr, DecidableEq

/-- The number of places in the table of shared states. -/
def Direction.tableSize : Direction → Nat
  | forward => 10000
  | backward => 1000

/-- The bytes of a state without its branches and byte ranges. -/
def stateSize : Nat := 32

/-- The bytes of a branch to another state. -/
def branchSize : Nat := 4

/-- The bytes of a byte range with the state after it. -/
def byteRangeSize : Nat := 8

/-- The bytes that an automaton may take. -/
def automatonBound : Nat := 10 <<< 20

/-- What has been planned of an automaton. -/
structure Draft where
  /-- The number of states, which numbers the next one. -/
  states : Nat
  /-- The bytes that the states take. -/
  size : Nat
  /-- Shared states, each with the numbers that it was made of. -/
  table : Array (Option (List Nat × Nat))

/-- Mix numbers, one after another, into a word of 64 bits. -/
def fingerprint (numbers : List Nat) : UInt64 :=
  numbers.foldl (fun mixed number => (mixed ^^^ number.toUInt64) * 1099511628211)
    14695981039346656037

namespace Draft

def empty (direction : Direction) : Draft :=
  { states := 0, size := 0, table := Array.replicate direction.tableSize none }

/-- Add bytes to states that have been counted. -/
def addBytes (draft : Draft) (bytes : Nat) : Draft :=
  { draft with size := draft.size + bytes }

/-- Add a state with so many bytes of its own. -/
def add (draft : Draft) (bytes : Nat) : Draft :=
  { draft with states := draft.states + 1, size := draft.size + stateSize + bytes }

/-- Add states without bytes of their own. -/
def addPlain (draft : Draft) (count : Nat) : Draft :=
  { draft with states := draft.states + count, size := draft.size + count * stateSize }

def addFork (draft : Draft) : Draft :=
  draft.add (2 * branchSize)

/-- Use the shared state that is made of given numbers, or add one.  A new state takes the place of
one with the same fingerprint. -/
def share (draft : Draft) (parts : List Nat) (bytes : Nat) : Nat × Draft :=
  let place := (fingerprint parts % draft.table.size.toUInt64).toNat
  let fresh (draft : Draft) : Nat × Draft :=
    let state := draft.states
    let grown := draft.add bytes
    (state, { grown with table := grown.table.set! place (some (parts, state)) })
  match draft.table.getD place none with
  | some (others, state) => if others = parts then (state, draft) else fresh draft
  | none => fresh draft

/-- Add the states of byte sequences of which equal beginnings follow one another; `depth` bounds
their length.  All sequences lead to the state `target`. -/
def addForward (target : Nat) : Nat → List ByteSequence → Draft → Nat × Draft
  | 0, _, draft => (target, draft)
  | depth + 1, sequences, draft =>
    let groups := sequences.splitBy fun first second => first.head? == second.head?
    let (parts, draft) := groups.foldl
      (fun (parts, draft) group =>
        match group with
        | (range :: rest) :: _ =>
          let (next, draft) :=
            if rest.isEmpty then (target, draft)
            else addForward target depth (group.map List.tail) draft
          (next :: range.last :: range.first :: parts, draft)
        | _ => (parts, draft))
      ([], draft)
    draft.share parts.reverse (groups.length * byteRangeSize)

/-- Add the states of a byte sequence that is read from its end, so that the first byte leads to the
state `target`. -/
def addBackward (target : Nat) (sequence : ByteSequence) (draft : Draft) : Nat × Draft :=
  sequence.foldl (fun (next, draft) range => draft.share [next, range.first, range.last] 0)
    (target, draft)

def addSet (direction : Direction) (set : CharSet) (draft : Draft) : Draft :=
  if set.isAscii then (draft.addPlain 1).add (set.ranges.length * byteRangeSize)
  else
    let sequences := set.byteSequences
    match direction with
    | .forward => (addForward draft.states 4 sequences (draft.addPlain 1)).2
    | .backward =>
      let target := draft.states + 1
      sequences.foldl (fun draft sequence => (addBackward target sequence draft).2)
        ((draft.addPlain 2).addBytes (sequences.length * branchSize))

/-- Cut words at the empty ones among them. -/
def splitAtEmpty : List (List Nat) → List (List (List Nat))
  | [] => [[]]
  | [] :: rest => [] :: splitAtEmpty rest
  | word :: rest =>
    match splitAtEmpty rest with
    | chunk :: chunks => (word :: chunk) :: chunks
    | [] => [[word]]

/-- Count empty words at the beginning once. -/
def joinLeadingEmpty : List (List Nat) → List (List Nat)
  | [] :: rest => [] :: rest.dropWhile List.isEmpty
  | words => words

/-- Add the states of a tree of words, in which the words between two that end at the same state
share their beginnings; `depth` bounds their length. -/
def addTree : Nat → List (List Nat) → Draft → Draft
  | 0, _, draft => draft
  | depth + 1, words, draft =>
    if words.all List.isEmpty then draft
    else
      let chunks := splitAtEmpty (joinLeadingEmpty words)
      let branches := (chunks.filter fun chunk => !chunk.isEmpty).length + (chunks.length - 1)
      chunks.foldl
        (fun draft chunk =>
          let bytes := (chunk.filterMap List.head?).eraseDups
          let grown := bytes.foldl
            (fun draft byte =>
              addTree depth ((chunk.filter (·.head? == some byte)).map List.tail) draft)
            draft
          match bytes with
          | [] => grown
          | [_] => grown.addPlain 1
          | _ => grown.add (bytes.length * byteRangeSize))
        (draft.add (branches * branchSize))

/-- Add the states of a choice between literals. -/
def addWords (direction : Direction) (texts : List (List Char)) (draft : Draft) : Draft :=
  let words := texts.map fun text =>
    let bytes := text.flatMap fun c => encodeCode c.toNat
    match direction with
    | .forward => bytes
    | .backward => bytes.reverse
  let longest := (words.map List.length).foldl max 0
  addTree (longest + 1) words (draft.addPlain 1)

/-- Take steps, as many as asked for, while the draft is within its bound. -/
def steps (step : Draft → Draft) : Nat → Draft → Draft
  | 0, draft => draft
  | count + 1, draft =>
    if automatonBound < draft.size then draft else steps step count (step draft)

/-- Add so many copies, or a state in their place if there are none. -/
def copies (copy : Draft → Draft) (count : Nat) (draft : Draft) : Draft :=
  if count = 0 then draft.addPlain 1 else steps copy count draft

/-- Add the states of a repetition, whose body may match the empty text or not. -/
def repetition (copy : Draft → Draft) (mayBeEmpty : Bool) (least : Nat) (most : Option Nat)
    (draft : Draft) : Draft :=
  match least, most with
  | 0, some 1 => (copy draft.addFork).addPlain 1
  | 0, none =>
    if mayBeEmpty then (copy draft).addFork.addFork.addPlain 1 else copy draft.addFork
  | least, none => (copies copy least draft).addFork
  | least, some most =>
    if least = most then copies copy least draft
    else
      steps (fun draft => copy draft.addFork) (most - least) ((copies copy least draft).addPlain 1)

/-- Finish an alternative of a choice by its number, if the expression is one.  The second one
brings the states in which the choice begins and ends. -/
def endAlternative (index : Option Nat) (draft : Draft) : Draft :=
  match index with
  | none => draft
  | some 1 => (draft.addPlain 2).addBytes branchSize
  | some _ => draft.addBytes branchSize

/-- The literals between which an expression chooses, if all its alternatives are literals. -/
def literals? : Expression → Option (List (List Char))
  | .choice first second => do
    let front ← literals? first
    let back ← literals? second
    return front ++ back
  | .literal text => some [text]
  | _ => none

/-- Add the states of an expression.  The index numbers it among the alternatives of a choice. -/
def extend (direction : Direction) : Expression → Option Nat → Draft → Draft
  | .empty, index, draft => (draft.addPlain 1).endAlternative index
  | .literal text, index, draft =>
    (draft.addPlain (text.map Char.utf8Size).sum).endAlternative index
  | .one set, index, draft => (draft.addSet direction set).endAlternative index
  | .assertion _, index, draft => (draft.addPlain 1).endAlternative index
  | .group _ body, index, draft =>
    match direction with
    | .forward =>
      ((extend direction body none (draft.addPlain 1)).addPlain 1).endAlternative index
    | .backward => (extend direction body none draft).endAlternative index
  | .sequence first second, index, draft =>
    match direction with
    | .forward =>
      (extend direction second none (extend direction first none draft)).endAlternative index
    | .backward =>
      (extend direction first none (extend direction second none draft)).endAlternative index
  | .choice first second, index, draft =>
    match index, literals? (.choice first second) with
    | none, some texts => draft.addWords direction texts
    | _, _ =>
      let number := index.getD 0
      extend direction second (some (number + 1)) (extend direction first (some number) draft)
  | .repetition least most _ body, index, draft =>
    (draft.repetition (extend direction body none)
      (body.mayMatchEmpty || body.mayHaveNoMatch) least most).endAlternative index

end Draft

/-- Decide whether matches can only begin, or for a backward automaton only end, at an end of the
subject. -/
def Direction.isAnchored (direction : Direction) (expression : Expression) : Bool :=
  match direction with
  | forward => expression.beginsWith .textStart
  | backward => expression.endsWith .textEnd

/-- The bytes that the automaton of an expression takes.  Unless matches are bound to an end of the
subject, three states skip the bytes before a match.  Only the forward automaton remembers where
a match begins and ends. -/
def Expression.automatonSize (direction : Direction) (expression : Expression) : Nat :=
  let start := Draft.empty direction
  let skipping :=
    if direction.isAnchored expression then start.addPlain 1
    else (start.addFork.addPlain 1).add byteRangeSize
  let whole :=
    match direction with
    | .forward => Expression.group 0 expression
    | .backward => expression
  ((Draft.extend direction whole none skipping).addPlain 1).size

/-- Decide whether an automaton of an expression is larger than allowed. -/
def Expression.exceedsBound (expression : Expression) : Bool :=
  automatonBound < expression.automatonSize .forward ||
    automatonBound < expression.automatonSize .backward

/-- From so many on, literals between which an expression chooses are searched for without an
automaton. -/
def manyLiterals : Nat := 3000

/-- Decide whether an expression needs an automaton that is larger than allowed. -/
def Expression.isTooLarge (expression : Expression) : Bool :=
  match Draft.literals? expression with
  | some texts => texts.length < manyLiterals && expression.exceedsBound
  | none => expression.exceedsBound

end Calculator.Pattern
