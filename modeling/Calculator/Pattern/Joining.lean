import Calculator.Pattern.Expression

/-!
# Joining expressions

Expressions are put one after another or beside one another in a normal form.  Sequences and
choices are flat, and literals that follow one another are one literal.  A choice between single
characters, or between sets, is a set.  Parts that all alternatives of a choice begin with are
matched once, before the choice.  A shared part therefore prefers its own ways of matching over the
order of the alternatives.
-/

namespace Calculator.Pattern.Expression

/-- The parts that an expression matches one after another. -/
def parts : Expression → List Expression
  | empty => []
  | sequence first second => first.parts ++ second.parts
  | part => [part]

/-- The alternatives between which an expression chooses, the preferred one first. -/
def alternatives : Expression → List Expression
  | choice first second => first.alternatives ++ second.alternatives
  | alternative => [alternative]

def ofParts : List Expression → Expression
  | [] => empty
  | [part] => part
  | part :: rest => sequence part (ofParts rest)

/-- Match one of several alternatives, the first one preferred. -/
def ofAlternatives : List Expression → Expression
  | [] => one .empty
  | [alternative] => alternative
  | alternative :: rest => choice alternative (ofAlternatives rest)

/-- Make one literal of literals that follow one another. -/
def joinLiterals : List Expression → List Expression
  | [] => []
  | literal text :: rest =>
    match joinLiterals rest with
    | literal later :: others => literal (text ++ later) :: others
    | others => literal text :: others
  | part :: rest => part :: joinLiterals rest

/-- The longest common beginning of two lists of parts. -/
def commonParts : List Expression → List Expression → List Expression
  | first :: firsts, second :: seconds =>
    if first = second then first :: commonParts firsts seconds else []
  | _, _ => []

/-- The parts that all lists begin with. -/
def sharedParts : List (List Expression) → List Expression
  | [] => []
  | first :: rest => rest.foldl commonParts first

/-- The characters that alternatives match, if each of them is a literal of one character. -/
def singleChars? : List Expression → Option (List Char)
  | [] => some []
  | literal [c] :: rest => (singleChars? rest).map (c :: ·)
  | _ => none

/-- The sets that alternatives match, if each of them matches one. -/
def sets? : List Expression → Option (List CharSet)
  | [] => some []
  | one set :: rest => (sets? rest).map (set :: ·)
  | _ => none

/-- The set of the characters that alternatives match, if all are single characters, or all are
sets. -/
def unionOf? (choices : List Expression) : Option CharSet :=
  ((singleChars? choices).map CharSet.ofList).or ((sets? choices).map CharSet.unions)

/-- The number of nodes of an expression. -/
def nodeCount : Expression → Nat
  | group _ body => body.nodeCount + 1
  | sequence first second => first.nodeCount + second.nodeCount + 1
  | choice first second => first.nodeCount + second.nodeCount + 1
  | repetition _ _ _ body => body.nodeCount + 1
  | _ => 1

/-- Match expressions one after another. -/
def inSequence (expressions : List Expression) : Expression :=
  ofParts (joinLiterals (expressions.flatMap parts))

/-- Choose between alternatives, with shared parts before the choice.  Only alternatives of several
parts share any.  Each round takes at least one part away, which bounds the number of rounds. -/
def factor : Nat → List Expression → Expression
  | 0, choices => ofAlternatives choices
  | rounds + 1, choices =>
    let flat := choices.flatMap alternatives
    match unionOf? flat with
    | some set => ofSet set
    | none =>
      let split := flat.map parts
      let shared := if split.all (1 < ·.length) then sharedParts split else []
      if shared.isEmpty then ofAlternatives flat
      else
        inSequence
          (shared ++ [factor rounds (split.map fun own => ofParts (own.drop shared.length))])

/-- Match one of several expressions, the first one preferred. -/
def oneOf (expressions : List Expression) : Expression :=
  match expressions with
  | [expression] => expression
  | several => factor (several.foldr (fun each total => nodeCount each + total) 1) several

end Calculator.Pattern.Expression
