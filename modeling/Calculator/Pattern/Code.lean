import Calculator.Pattern.Expression

/-!
# Matching programs

A regular expression is turned into a list of instructions that address one another by position.
Where an instruction names two positions, the first one is preferred.
-/

namespace Calculator.Pattern

/-- An instruction of a matching program. -/
inductive Instruction
  /-- Take one character of a set. -/
  | take (set : CharSet)
  /-- Go on where a condition holds. -/
  | check (assertion : Assertion)
  /-- Remember the position in a slot. -/
  | save (slot : Nat)
  | jump (target : Nat)
  /-- Go on at two places, the first one preferred. -/
  | fork (preferred other : Nat)
  /-- The expression has been matched. -/
  | accept
  deriving Repr

namespace Expression

/-- Fork into a loop or past it, as greed demands. -/
def forkFor (greedy : Bool) (inside outside : Nat) : Instruction :=
  if greedy then .fork inside outside else .fork outside inside

/-- Instructions, and the position after them. -/
abbrev Segment := List Instruction × Nat

/-- Repeat code a fixed number of times from a position on. -/
def copies (code : Nat → Segment) : Nat → Nat → Segment
  | start, 0 => ([], start)
  | start, count + 1 =>
    let (first, next) := code start
    let (others, finish) := copies code next count
    (first ++ others, finish)

/-- Repeat code at most so many times from a position on; before each time the rest up to `exit` may
be skipped. -/
def optionalCopies (code : Nat → Segment) (greedy : Bool) (exit : Nat) : Nat → Nat → Segment
  | start, 0 => ([], start)
  | start, count + 1 =>
    let (first, next) := code (start + 1)
    let (others, finish) := optionalCopies code greedy exit next count
    (forkFor greedy (start + 1) exit :: first ++ others, finish)

/-- Repeat code at least once from a position on. -/
def loop (code : Nat → Segment) (greedy : Bool) (start : Nat) : Segment :=
  let (body, next) := code start
  (body ++ [forkFor greedy start (next + 1)], next + 1)

/-- Repeat code any number of times from a position on.  Code that may take no character is entered
at most once without taking any. -/
def star (code : Nat → Segment) (mayBeEmpty greedy : Bool) (start : Nat) : Segment :=
  if mayBeEmpty then
    let (body, finish) := loop code greedy (start + 1)
    (forkFor greedy (start + 1) finish :: body, finish)
  else
    let (body, next) := code (start + 1)
    (forkFor greedy (start + 1) (next + 1) :: body ++ [.jump start], next + 1)

/-- The number of instructions for an expression. -/
def size : Expression → Nat
  | empty => 0
  | literal text => text.length
  | one _ => 1
  | assertion _ => 1
  | group _ body => body.size + 2
  | sequence first second => first.size + second.size
  | choice first second => first.size + second.size + 2
  | repetition least most _ body =>
    match most with
    | some most => least * body.size + (most - least) * (body.size + 1)
    | none =>
      match least with
      | 0 => body.size + 2
      | extra + 1 => (extra + 1) * body.size + 1

/-- The instructions for an expression from a position on. -/
def code : Expression → Nat → Segment
  | empty, start => ([], start)
  | literal text, start => (text.map fun c => .take (.single c), start + text.length)
  | one set, start => ([.take set], start + 1)
  | assertion condition, start => ([.check condition], start + 1)
  | group index body, start =>
    let (inside, next) := body.code (start + 1)
    (.save (2 * index) :: inside ++ [.save (2 * index + 1)], next + 1)
  | sequence first second, start =>
    let (front, next) := first.code start
    let (back, finish) := second.code next
    (front ++ back, finish)
  | choice first second, start =>
    let (front, next) := first.code (start + 1)
    let (back, finish) := second.code (next + 1)
    (.fork (start + 1) (next + 1) :: front ++ .jump finish :: back, finish)
  | repetition least most greedy body, start =>
    match most with
    | some most =>
      let (required, next) := copies body.code start least
      let exit := next + (most - least) * (body.size + 1)
      let (optional, finish) := optionalCopies body.code greedy exit next (most - least)
      (required ++ optional, finish)
    | none =>
      match least with
      | 0 => star body.code body.mayMatchEmpty greedy start
      | extra + 1 =>
        let (required, next) := copies body.code start extra
        let (last, finish) := loop body.code greedy next
        (required ++ last, finish)

/-- The whole program for an expression: group zero is the whole match. -/
def program (expression : Expression) : List Instruction :=
  ((group 0 expression).code 0).1 ++ [.accept]

/-- The number of groups that a program remembers, counted up to the last one. -/
def groupCount (program : List Instruction) : Nat :=
  program.foldl
    (fun count instruction =>
      match instruction with
      | .save slot => max count (slot / 2 + 1)
      | _ => count) 0

end Expression

end Calculator.Pattern
