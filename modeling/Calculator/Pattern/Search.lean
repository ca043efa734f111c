import Calculator.Pattern.Basic
import Calculator.Pattern.Code

/-!
# Searching with a matching program

All ways through a program are followed at once, as threads in order of preference.  Of two
threads at the same instruction only the preferred one is kept, so that the work for each character
is bounded by the length of the program.  Among the matches that start leftmost, the one of the
most preferred thread is found.
-/

namespace Calculator.Pattern

/-- Positions by slot. -/
abbrev Slots := Array (Option Nat)

/-- A place in a program, with the positions that were remembered on the way there. -/
structure Thread where
  place : Nat
  slots : Slots

/-- A position in the subject: its number and its neighbours. -/
structure Position where
  index : Nat
  before : Option Char
  after : Option Char

/-- Threads that wait for a character or have matched, the last one preferred least, and the
places where threads have been. -/
structure Frontier where
  reversed : List Thread
  visited : Array Bool

/-- Follow the instructions that take no character from a list of threads, the first one preferred.
Each step either meets a place again or visits a new one, which bounds the number of steps. -/
def follow (program : Array Instruction) (position : Position) :
    Nat → List Thread → Frontier → Frontier
  | 0, _, frontier => frontier
  | _ + 1, [], frontier => frontier
  | fuel + 1, thread :: rest, frontier =>
    if frontier.visited.getD thread.place true then follow program position fuel rest frontier
    else
      let marked := { frontier with visited := frontier.visited.set! thread.place true }
      match program.getD thread.place .accept with
      | .jump target =>
        follow program position fuel ({ thread with place := target } :: rest) marked
      | .fork preferred other =>
        follow program position fuel
          ({ thread with place := preferred } :: { thread with place := other } :: rest) marked
      | .save slot =>
        let slots := thread.slots.set! slot (some position.index)
        follow program position fuel ({ place := thread.place + 1, slots } :: rest) marked
      | .check assertion =>
        if assertion.holds position.before position.after then
          follow program position fuel ({ thread with place := thread.place + 1 } :: rest) marked
        else follow program position fuel rest marked
      | .take _ | .accept =>
        follow program position fuel rest { marked with reversed := thread :: marked.reversed }

/-- Advance threads in order of preference over the next character.  A thread that has matched ends
those that are preferred less; its slots are the second part of the answer. -/
def advance (program : Array Instruction) (after : Option Char) :
    List Thread → List Thread × Option Slots
  | [] => ([], none)
  | thread :: rest =>
    match program.getD thread.place .accept with
    | .accept => ([], some thread.slots)
    | .take set =>
      let (later, found) := advance program after rest
      if inSet set after then ({ thread with place := thread.place + 1 } :: later, found)
      else (later, found)
    | _ => advance program after rest

/-- Search from a position on.  A new thread starts at every position until a match is found. -/
def searchFrom (program : Array Instruction) (start : Thread) (index : Nat) (before : Option Char)
    (threads : List Thread) (best : Option Slots) (chars : List Char) : Option Slots :=
  let candidates := if best.isNone then threads ++ [start] else threads
  let position := { index, before, after := chars.head? }
  let frontier :=
    follow program position (2 * program.size + candidates.length + 1) candidates
      { reversed := [], visited := Array.replicate program.size false }
  let (moved, found) := advance program position.after frontier.reversed.reverse
  let best := found.or best
  match chars with
  | [] => best
  | c :: rest =>
    if moved.isEmpty && best.isSome then best
    else searchFrom program start (index + 1) (some c) moved best rest

/-- The texts of the groups, by the positions of their ends. -/
def groupsOf (chars : List Char) (count : Nat) (slots : Slots) : Groups :=
  (List.range count).map fun group =>
    match slots.getD (2 * group) none, slots.getD (2 * group + 1) none with
    | some first, some last => some (String.ofList ((chars.drop first).take (last - first)))
    | _, _ => none

def matcherOf (instructions : List Instruction) : Matcher :=
  let program := instructions.toArray
  let count := Expression.groupCount instructions
  let start : Thread := { place := 0, slots := Array.replicate (2 * count) none }
  fun subject =>
    let chars := subject.toList
    (searchFrom program start 0 none [] none chars).map (groupsOf chars count)

end Calculator.Pattern
