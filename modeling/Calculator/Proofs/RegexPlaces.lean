import Calculator.Proofs.Brackets
import Calculator.Proofs.Continuation

/-!
# Where regular expressions stand

A slash opens a regular expression only where the right operand of a match operator begins.  A pass
keeps this in a single mark, which some lexemes set, some clear and some leave as it is.  The
lexemes that were read tell the same without the mark.  The main statement is that a slash in the
place of an operand opens a regular expression exactly if nothing but opening parentheses and unary
operators was read since a match operator, and that it is refused otherwise.  So every regular
expression of a program is the leftmost leaf of the right operand of a match operator.
-/

namespace Calculator

namespace Lexeme

def matchSign : Lexeme :=
  .operator (.binary .regexMatch)

/-- A lexeme that stands before an operand without being part of it: an opening parenthesis or a
unary operator. -/
def PrecedesOperand (lexeme : Lexeme) : Prop :=
  lexeme = .openGroup ∨ ∃ op : UnaryOp, lexeme = .operator op.sign

/-- Since the latest match operator nothing but opening parentheses and unary operators was
read. -/
def AwaitsPattern (read : List Lexeme) : Prop :=
  ∃ before after, read = before ++ matchSign :: after ∧
    ∀ lexeme ∈ after, lexeme.PrecedesOperand

theorem not_awaitsPattern_nil : ¬AwaitsPattern [] := by
  rintro ⟨before, after, equal, -⟩
  simp at equal

theorem awaitsPattern_concat {read : List Lexeme} {lexeme : Lexeme} :
    AwaitsPattern (read ++ [lexeme]) ↔
      lexeme = matchSign ∨ (lexeme.PrecedesOperand ∧ AwaitsPattern read) := by
  constructor
  · rintro ⟨before, after, equal, precede⟩
    rcases List.eq_nil_or_concat after with rfl | ⟨earlier, last, rfl⟩
    · left
      exact List.singleton_inj.mp (List.append_inj' equal rfl).2
    · right
      rw [List.concat_eq_append, ← List.cons_append, ← List.append_assoc] at equal
      obtain ⟨sameRead, sameLast⟩ := List.append_inj' equal rfl
      rw [List.concat_eq_append, List.forall_mem_append] at precede
      rw [List.singleton_inj.mp sameLast]
      exact ⟨precede.2 last (by simp), before, earlier, sameRead, precede.1⟩
  · rintro (rfl | ⟨precedes, before, after, rfl, precede⟩)
    · exact ⟨read, [], rfl, nofun⟩
    · refine ⟨before, after ++ [lexeme], by simp, ?_⟩
      exact List.forall_mem_append.mpr ⟨precede, List.forall_mem_singleton.mpr precedes⟩

end Lexeme

namespace Conversion

open Lexeme (AwaitsPattern PrecedesOperand matchSign divisionSign)

/-- A pass over a text has read lexemes and stands in a state before the rest of the text. -/
inductive Reaches (arity? : String → Option Nat) (chars : List Char) :
    List Lexeme → Conversion → List Char → Prop
  | initial : Reaches arity? chars [] start chars
  | accepted {read : List Lexeme} {state next : Conversion} {left source rest : List Char}
      {lexeme : Lexeme} (earlier : Reaches arity? chars read state left)
      (found : Lexeme.next arity? state.mode left = .ok (some (lexeme, source, rest)))
      (accepted : state.accept arity? lexeme source rest = .ok next) :
      Reaches arity? chars (read ++ [lexeme]) next rest

section Passes

variable {arity? : String → Option Nat} {chars left source rest : List Char} {read : List Lexeme}
  {state next : Conversion} {lexeme : Lexeme}

/-- A pass accepts the lexeme that comes first and goes on behind it. -/
theorem run_of_next
    (found : Lexeme.next arity? state.mode left = .ok (some (lexeme, source, rest))) :
    state.run arity? left =
      (state.accept arity? lexeme source rest).bind fun next => next.run arity? rest := by
  rw [run]
  split
  · next failed => rw [found] at failed; cases failed
  · next ended => rw [found] at ended; cases ended
  · next again =>
    rw [found] at again
    cases again
    cases state.accept arity? lexeme source rest <;> rfl

theorem Reaches.run_eq (reaches : Reaches arity? chars read state left) :
    start.run arity? chars = state.run arity? left := by
  induction reaches with
  | initial => rfl
  | accepted earlier found accepted ih =>
      rw [ih, run_of_next found, accepted]
      rfl

theorem Reaches.tidy (reaches : Reaches arity? chars read state left) : state.Tidy := by
  induction reaches with
  | initial => exact start_tidy
  | accepted earlier found accepted ih => exact (accept_mode ih accepted).1

/-- A match operator sets the mark, an opening parenthesis or a unary operator keeps it, and every
other lexeme clears it. -/
theorem inPattern_of_accept (tidy : state.Tidy)
    (accepted : state.accept arity? lexeme source rest = .ok next) :
    next.mode.inPattern = true ↔
      lexeme = matchSign ∨ (lexeme.PrecedesOperand ∧ state.mode.inPattern = true) := by
  rw [(accept_mode tidy accepted).2]
  cases lexeme with
  | operator sign =>
      rcases acceptOperator_cases accepted with ⟨after, op, rfl, -⟩ | ⟨before, op, rfl, -⟩
      · rw [mode_of_afterOperand tidy after]
        simp [LexMode.after, matchSign]
      · have stateBefore : state.mode.afterOperand = false := before
        have precedes : (Lexeme.operator op.sign).PrecedesOperand := Or.inr ⟨op, rfl⟩
        cases op <;> simp [UnaryOp.sign, LexMode.after, matchSign, stateBefore] <;>
          exact fun _ => precedes
  | openGroup => simp [LexMode.after, matchSign, PrecedesOperand]
  | _ => simp [LexMode.after, matchSign, PrecedesOperand]

/-- The mark is set exactly if the lexemes that were read ask for a regular expression. -/
theorem Reaches.inPattern_iff (reaches : Reaches arity? chars read state left) :
    state.mode.inPattern = true ↔ AwaitsPattern read := by
  induction reaches with
  | initial => simp [start, mode, Scan.fresh, Lexeme.not_awaitsPattern_nil]
  | accepted earlier found accepted ih =>
      rw [inPattern_of_accept earlier.tidy accepted, Lexeme.awaitsPattern_concat, ih]

end Passes

end Conversion

namespace Tree

variable {α : Type}

/-- The trees right below the root of a tree. -/
def children : Tree α → List (Tree α)
  | leaf _ => []
  | group body => [body]
  | unary _ operand => [operand]
  | binary _ left right => [left, right]
  | index container selector => [container, selector]
  | call _ arguments => arguments

/-- The subtree to which a path leads.  Every entry of a path chooses a child, the first one by
zero. -/
def subtreeAt? : Tree α → List Nat → Option (Tree α)
  | tree, [] => some tree
  | tree, place :: path => tree.children[place]?.bind fun child => child.subtreeAt? path

/-- A path goes to the right operand of a match operator, and from there always to the first
child. -/
def LeadsFromMatch (tree : Tree α) (path : List Nat) : Prop :=
  ∃ above depth left right, path = above ++ 1 :: List.replicate depth 0 ∧
    tree.subtreeAt? above = some (binary .regexMatch left right)

/-- Every regular expression in a tree is the leftmost leaf of the right operand of a match
operator. -/
def RegexesMatched (tree : Tree Leaf) : Prop :=
  ∀ path source flags, tree.subtreeAt? path = some (leaf (.regex source flags)) →
    tree.LeadsFromMatch path

/-- Every regular expression in a tree is the leftmost leaf of the right operand of a match
operator in the tree, or the leftmost leaf of the whole tree, where that is awaited. -/
def RegexesPlaced (awaited : Bool) (tree : Tree Leaf) : Prop :=
  ∀ path source flags, tree.subtreeAt? path = some (leaf (.regex source flags)) →
    (awaited = true ∧ ∃ depth, path = List.replicate depth 0) ∨ tree.LeadsFromMatch path

theorem LeadsFromMatch.below {tree child : Tree α} {place : Nat} {path : List Nat}
    (isChild : tree.children[place]? = some child) (leads : child.LeadsFromMatch path) :
    tree.LeadsFromMatch (place :: path) := by
  obtain ⟨above, depth, left, right, rfl, isMatch⟩ := leads
  refine ⟨place :: above, depth, left, right, rfl, ?_⟩
  rw [subtreeAt?, isChild]
  exact isMatch

/-- The first child of a tree begins where the tree begins, and the right operand of a match
operator may begin with a regular expression. -/
theorem regexesPlaced_of_children {tree : Tree Leaf} {awaited : Bool}
    (inner : ∀ operand, tree ≠ leaf operand)
    (each : ∀ place child, tree.children[place]? = some child →
      child.RegexesPlaced false ∨ (place = 0 ∧ child.RegexesPlaced awaited) ∨
        (place = 1 ∧ (∃ left right, tree = binary .regexMatch left right) ∧
          child.RegexesPlaced true)) :
    tree.RegexesPlaced awaited := by
  intro path source flags found
  cases path with
  | nil => exact absurd (Option.some.inj found) (inner _)
  | cons place path =>
      obtain ⟨child, isChild, foundBelow⟩ := Option.bind_eq_some_iff.mp found
      rcases each place child isChild with placed | ⟨rfl, placed⟩ | ⟨rfl, isMatch, placed⟩
      · rcases placed path source flags foundBelow with ⟨isAwaited, -⟩ | leads
        · cases isAwaited
        · exact Or.inr (leads.below isChild)
      · rcases placed path source flags foundBelow with ⟨isAwaited, depth, rfl⟩ | leads
        · exact Or.inl ⟨isAwaited, depth + 1, rfl⟩
        · exact Or.inr (leads.below isChild)
      · right
        rcases placed path source flags foundBelow with ⟨-, depth, rfl⟩ | leads
        · obtain ⟨left, right, rfl⟩ := isMatch
          exact ⟨[], depth, left, right, rfl, rfl⟩
        · exact leads.below isChild

end Tree

namespace Lexeme

/-- Every regular expression among lexemes stands where one is asked for. -/
def RegexesAwaited (mode : LexMode) : List Lexeme → Prop
  | [] => True
  | lexeme :: later =>
    (∀ source flags, lexeme = .operand (.regex source flags) →
      mode.inPattern = true ∧ mode.afterOperand = false) ∧
      RegexesAwaited (mode.after lexeme) later

theorem regexesAwaited_of_locate {arity? : String → Option Nat} {mode : LexMode}
    {chars : List Char} {located : List Located} (cut : locate arity? mode chars = .ok located) :
    RegexesAwaited mode (located.map Located.lexeme) := by
  induction located generalizing mode chars with
  | nil => trivial
  | cons first later ih =>
      obtain ⟨read, laterCut⟩ := locate_cons cut
      refine ⟨fun source flags isRegex => ?_, ih laterCut⟩
      have readable := next_readable read
      rw [isRegex] at readable
      cases readable with
      | regex source flags awaited before => exact ⟨awaited, before⟩

/-- A multiplication sign that is understood stands after an operand, where no regular expression
is asked for. -/
theorem RegexesAwaited.withProducts {mode : LexMode} {lexemes : List Lexeme}
    (settled : mode.afterOperand = true → mode.inPattern = false)
    (awaited : RegexesAwaited mode lexemes) :
    RegexesAwaited mode (withProducts mode.afterOperand lexemes) := by
  induction lexemes generalizing mode with
  | nil => trivial
  | cons lexeme later ih =>
      obtain ⟨asked, laterAwaited⟩ := awaited
      have laterSettled : (mode.after lexeme).afterOperand = true →
          (mode.after lexeme).inPattern = false := by
        rw [LexMode.after_afterOperand]
        cases lexeme <;> simp [endsOperand, LexMode.after]
      have laterProducts := ih laterSettled laterAwaited
      rw [LexMode.after_afterOperand] at laterProducts
      rw [Lexeme.withProducts, understood]
      by_cases joined : (mode.afterOperand && lexeme.startsOperand) = true
      · obtain ⟨after, starts⟩ := Bool.and_eq_true_iff.mp joined
        have sameLater : LexMode.after (mode.after (.operator (.binary .multiply))) lexeme =
            mode.after lexeme := by
          cases lexeme <;> simp [LexMode.after, startsOperand, after, settled] at starts ⊢
        rw [if_pos joined, List.singleton_append]
        refine ⟨fun _ _ isRegex => ?_, fun source flags isRegex => ?_, ?_⟩
        · cases isRegex
        · have before := (asked source flags isRegex).2
          rw [after] at before
          cases before
        · rw [sameLater]
          exact laterProducts
      · rw [if_neg joined, List.nil_append]
        exact ⟨asked, laterProducts⟩

end Lexeme

namespace Tree

open Lexeme (RegexesAwaited)

/-- The lexemes of a tree begin where a regular expression is awaited or not, and its regular
expressions stand where they are awaited. -/
def PlacesRegexes (tree : Tree Leaf) : Prop :=
  ∀ awaited rest,
    RegexesAwaited { afterOperand := false, inPattern := awaited } (tree.lexemes ++ rest) →
      tree.RegexesPlaced awaited ∧
        RegexesAwaited { afterOperand := true, inPattern := false } rest

theorem placesRegexes_leaf (operand : Leaf) : (leaf operand).PlacesRegexes := by
  rintro awaited rest ⟨asked, later⟩
  refine ⟨?_, later⟩
  intro path source flags found
  cases path with
  | nil =>
      have isRegex : operand = .regex source flags := leaf.inj (Option.some.inj found)
      have isAwaited : awaited = true := (asked source flags (by rw [isRegex]; rfl)).1
      exact Or.inl ⟨isAwaited, 0, rfl⟩
  | cons place path => simp [subtreeAt?, children] at found

theorem PlacesRegexes.group {body : Tree Leaf} (places : body.PlacesRegexes) :
    (Tree.group body).PlacesRegexes := by
  intro awaited rest allowed
  rw [lexemes_group, List.cons_append, List.append_assoc] at allowed
  obtain ⟨placed, -, later⟩ := places awaited _ allowed.2
  refine ⟨regexesPlaced_of_children nofun fun place child isChild => ?_, later⟩
  cases place with
  | zero =>
      cases isChild
      exact Or.inr (Or.inl ⟨rfl, placed⟩)
  | succ place => simp [children] at isChild

theorem PlacesRegexes.unary {operand : Tree Leaf} (places : operand.PlacesRegexes) (op : UnaryOp) :
    (Tree.unary op operand).PlacesRegexes := by
  intro awaited rest allowed
  have sameMode : LexMode.after { afterOperand := false, inPattern := awaited }
      (.operator op.sign) = { afterOperand := false, inPattern := awaited } := by
    cases op <;> rfl
  rw [lexemes_unary, List.cons_append, RegexesAwaited, sameMode] at allowed
  obtain ⟨placed, later⟩ := places awaited _ allowed.2
  refine ⟨regexesPlaced_of_children nofun fun place child isChild => ?_, later⟩
  cases place with
  | zero =>
      cases isChild
      exact Or.inr (Or.inl ⟨rfl, placed⟩)
  | succ place => simp [children] at isChild

theorem PlacesRegexes.binary {left right : Tree Leaf} (before : left.PlacesRegexes)
    (after : right.PlacesRegexes) (op : BinaryOp) : (Tree.binary op left right).PlacesRegexes := by
  intro awaited rest allowed
  rw [lexemes_binary, List.append_assoc] at allowed
  obtain ⟨leftPlaced, -, inRight⟩ := before awaited _ allowed
  obtain ⟨rightPlaced, later⟩ := after (op == .regexMatch) rest inRight
  refine ⟨regexesPlaced_of_children nofun fun place child isChild => ?_, later⟩
  match place with
  | 0 =>
      cases isChild
      exact Or.inr (Or.inl ⟨rfl, leftPlaced⟩)
  | 1 =>
      cases isChild
      by_cases isMatch : op = .regexMatch
      · subst isMatch
        exact Or.inr (Or.inr ⟨rfl, ⟨left, _, rfl⟩, rightPlaced⟩)
      · rw [beq_eq_false_iff_ne.mpr isMatch] at rightPlaced
        exact Or.inl rightPlaced
  | place + 2 => simp [children] at isChild

theorem PlacesRegexes.index {container selector : Tree Leaf} (before : container.PlacesRegexes)
    (inside : selector.PlacesRegexes) : (Tree.index container selector).PlacesRegexes := by
  intro awaited rest allowed
  rw [lexemes_index, List.append_assoc, List.cons_append, List.append_assoc] at allowed
  obtain ⟨containerPlaced, -, inSelector⟩ := before awaited _ allowed
  obtain ⟨selectorPlaced, -, later⟩ := inside false _ inSelector
  refine ⟨regexesPlaced_of_children nofun fun place child isChild => ?_, later⟩
  match place with
  | 0 =>
      cases isChild
      exact Or.inr (Or.inl ⟨rfl, containerPlaced⟩)
  | 1 =>
      cases isChild
      exact Or.inl selectorPlaced
  | place + 2 => simp [children] at isChild

/-- No regular expression is awaited at the start of an argument. -/
theorem regexesPlaced_arguments {arguments : List (Tree Leaf)}
    (each : ∀ argument ∈ arguments, argument.PlacesRegexes) (rest : List Lexeme)
    (allowed : RegexesAwaited { afterOperand := false, inPattern := false }
      (argumentLexemes arguments ++ .closeGroup :: rest)) :
    (∀ argument ∈ arguments, argument.RegexesPlaced false) ∧
      RegexesAwaited { afterOperand := true, inPattern := false } rest := by
  induction arguments with
  | nil => exact ⟨nofun, allowed.2⟩
  | cons argument others ih =>
      obtain ⟨firstPlaces, otherPlaces⟩ := List.forall_mem_cons.mp each
      cases others with
      | nil =>
          obtain ⟨placed, -, later⟩ := firstPlaces false (.closeGroup :: rest) allowed
          exact ⟨List.forall_mem_singleton.mpr placed, later⟩
      | cons second others =>
          rw [argumentLexemes_cons_cons, List.append_assoc] at allowed
          obtain ⟨placed, -, afterComma⟩ := firstPlaces false _ allowed
          obtain ⟨othersPlaced, later⟩ := ih otherPlaces afterComma
          exact ⟨List.forall_mem_cons.mpr ⟨placed, othersPlaced⟩, later⟩

theorem placesRegexes_call {arguments : List (Tree Leaf)}
    (each : ∀ argument ∈ arguments, argument.PlacesRegexes) (name : String) :
    (call name arguments).PlacesRegexes := by
  intro awaited rest allowed
  rw [lexemes_call, List.cons_append, List.append_assoc] at allowed
  obtain ⟨placed, later⟩ := regexesPlaced_arguments each rest allowed.2
  refine ⟨regexesPlaced_of_children nofun fun place child isChild => ?_, later⟩
  exact Or.inl (placed child (List.mem_of_getElem? isChild))

theorem placesRegexes (tree : Tree Leaf) : tree.PlacesRegexes := by
  induction tree with
  | leaf operand => exact placesRegexes_leaf operand
  | group body ih => exact ih.group
  | unary op operand ih => exact ih.unary op
  | binary op left right leftIH rightIH => exact leftIH.binary rightIH op
  | index container selector containerIH selectorIH => exact containerIH.index selectorIH
  | call name arguments ih => exact placesRegexes_call ih name

/-- The tree of an expression has its regular expressions on the right of match operators. -/
theorem regexesMatched_of_locate {arity? : String → Option Nat} {chars : List Char}
    {located : List Lexeme.Located} {tree : Tree Leaf}
    (cut : Lexeme.locate arity? LexMode.initial chars = .ok located)
    (inOrder : tree.lexemes = Lexeme.withProducts false (located.map Lexeme.Located.lexeme)) :
    tree.RegexesMatched := by
  have awaited := (Lexeme.regexesAwaited_of_locate cut).withProducts fun _ => rfl
  have allowed : RegexesAwaited LexMode.initial (tree.lexemes ++ []) := by
    rw [List.append_nil, inOrder]
    exact awaited
  intro path source flags found
  rcases (tree.placesRegexes false [] allowed).1 path source flags found with ⟨never, -⟩ | leads
  · cases never
  · exact leads

end Tree

namespace Lexeme

variable {arity? : String → Option Nat} {mode : LexMode}

/-- The next lexeme of a text is the regular expression that opens at its first slash, as far as
that is well-formed. -/
def OpensRegex (arity? : String → Option Nat) (mode : LexMode) (left rest : List Char) : Prop :=
  next arity? mode left =
    (readPattern rest).map fun (lexeme, after) => some (lexeme, '/' :: rest, after)

theorem next_of_skipBlanks {c : Char} {left rest : List Char}
    (skipped : Text.skipBlanks left = c :: rest) :
    next arity? mode left =
      (readAt arity? mode c rest).map fun (lexeme, after) => some (lexeme, c :: rest, after) := by
  rw [next, skipped]
  dsimp only
  cases readAt arity? mode c rest <;> rfl

theorem opensRegex_of_awaited {left rest : List Char}
    (skipped : Text.skipBlanks left = '/' :: rest) (awaited : mode.inPattern = true)
    (before : mode.afterOperand = false) : OpensRegex arity? mode left rest := by
  have isPattern : readAt arity? mode '/' rest = readPattern rest := by
    simp [readAt, awaited, before]
  rw [OpensRegex, next_of_skipBlanks skipped, isPattern]

theorem next_division {left rest : List Char} (skipped : Text.skipBlanks left = '/' :: rest)
    (noPattern : mode.afterOperand = false → mode.inPattern = false) :
    next arity? mode left = .ok (some (divisionSign, '/' :: rest, rest)) := by
  rw [next_of_skipBlanks skipped, readAt_division noPattern]
  rfl

theorem not_opensRegex_of_division {left rest : List Char}
    (divides : next arity? mode left = .ok (some (divisionSign, '/' :: rest, rest))) :
    ¬OpensRegex arity? mode left rest := by
  intro opens
  rw [OpensRegex, divides, readPattern] at opens
  split at opens
  · cases opens
  · cases opens

end Lexeme

namespace Conversion

open Lexeme (AwaitsPattern OpensRegex divisionSign matchSign)

/-- A division sign in the place of an operand is refused. -/
theorem Reaches.convert_of_division {arity? : String → Option Nat} {source : String}
    {read : List Lexeme} {state : Conversion} {left rest : List Char}
    (reaches : Reaches arity? source.toList read state left) (before : state.afterOperand = false)
    (divides : Lexeme.next arity? state.mode left = .ok (some (divisionSign, '/' :: rest, rest))) :
    convert arity? source = .error (.unexpected (.operator "/")) := by
  have refused : state.accept arity? divisionSign ('/' :: rest) rest =
      .error (.unexpected (.operator "/")) := by
    simp [divisionSign, accept, acceptOperator, before, OperatorSign.symbol, BinaryOp.symbol]
  rw [convert, reaches.run_eq, run_of_next divides, refused]
  rfl

/-- A slash before an operand opens a regular expression exactly if the lexemes since a match
operator are opening parentheses and unary operators only, and otherwise the expression is refused.
A slash after an operand is a division sign.  The regular expressions of a program that is put out
are leftmost leaves of right operands of match operators. -/
theorem regex_only_after_match (arity? : String → Option Nat) (source : String) :
    (∀ read state left rest, Reaches arity? source.toList read state left →
      Text.skipBlanks left = '/' :: rest →
        (state.afterOperand = false →
          (OpensRegex arity? state.mode left rest ↔ AwaitsPattern read) ∧
            (¬AwaitsPattern read → convert arity? source = .error (.unexpected (.operator "/")))) ∧
        (state.afterOperand = true →
          Lexeme.next arity? state.mode left = .ok (some (divisionSign, '/' :: rest, rest)) ∧
            state.accept arity? divisionSign ('/' :: rest) rest = .ok (state.pushBinary .divide))) ∧
    ∀ program, convert arity? source = .ok program →
      ∃ (lexemes : List Lexeme) (tree : Tree Leaf),
        Lexeme.sequence arity? source = .ok lexemes ∧ tree.Grammatical arity? ∧
          tree.lexemes = Lexeme.withProducts false lexemes ∧ program = tree.program ∧
            tree.RegexesMatched := by
  refine ⟨fun read state left rest reaches skipped => ⟨fun before => ?_, fun after => ?_⟩, ?_⟩
  · by_cases awaits : AwaitsPattern read
    · have inPattern := reaches.inPattern_iff.mpr awaits
      have opens : OpensRegex arity? state.mode left rest :=
        Lexeme.opensRegex_of_awaited skipped inPattern before
      exact ⟨⟨fun _ => awaits, fun _ => opens⟩, fun never => absurd awaits never⟩
    · have noPattern : state.mode.inPattern = false :=
        Bool.eq_false_iff.mpr (mt reaches.inPattern_iff.mp awaits)
      have divides : Lexeme.next arity? state.mode left = _ :=
        Lexeme.next_division skipped fun _ => noPattern
      refine ⟨⟨fun opens => ?_, fun asked => absurd asked awaits⟩, fun _ => ?_⟩
      · exact absurd opens (Lexeme.not_opensRegex_of_division divides)
      · exact reaches.convert_of_division before divides
  · have noPattern : state.mode.inPattern = false := by
      rw [mode_of_afterOperand reaches.tidy after]
    refine ⟨Lexeme.next_division skipped fun _ => noPattern, ?_⟩
    simp [divisionSign, accept, acceptOperator, after]
  · intro program converted
    obtain ⟨lexemes, tree, cut, grammatical, inOrder, isProgram⟩ := exists_tree_of_convert converted
    obtain ⟨located, isLocated, rfl⟩ := map_eq_ok_iff.mp cut
    exact ⟨_, tree, cut, grammatical, inOrder, isProgram,
      Tree.regexesMatched_of_locate isLocated inOrder⟩

/-- A regular expression behind an exclamation mark, a slash that is refused, and a division. -/
theorem regex_only_after_match_negated :
    let arity? : String → Option Nat := fun _ => none
    let variableA : Lexeme := .operand (.var "a")
    let plus : Lexeme := .operator (.binary .add)
    (∃ state, Reaches arity? "a =~ !/b/".toList [variableA, matchSign, .operator .bang] state
          ['/', 'b', '/'] ∧ state.afterOperand = false ∧
        OpensRegex arity? state.mode ['/', 'b', '/'] ['b', '/']) ∧
      (∃ state, Reaches arity? "a + /b/".toList [variableA, plus] state [' ', '/', 'b', '/'] ∧
        state.afterOperand = false ∧
          convert arity? "a + /b/" = .error (.unexpected (.operator "/"))) ∧
      (∃ state, Reaches arity? "a / b".toList [variableA] state [' ', '/', ' ', 'b'] ∧
        state.afterOperand = true ∧
          Lexeme.next arity? state.mode [' ', '/', ' ', 'b'] =
            .ok (some (divisionSign, ['/', ' ', 'b'], [' ', 'b']))) ∧
      ∃ tree : Tree Leaf, tree.RegexesMatched ∧ tree.program =
        [.var "a", .regex "b" "", .op (.unary .not), .op (.binary .regexMatch)] := by
  intro arity? variableA plus
  obtain ⟨matchSlash, matchTree⟩ := regex_only_after_match arity? "a =~ !/b/"
  obtain ⟨sumSlash, -⟩ := regex_only_after_match arity? "a + /b/"
  obtain ⟨quotientSlash, -⟩ := regex_only_after_match arity? "a / b"
  refine ⟨?_, ?_, ?_, ?_⟩
  · have isList : "a =~ !/b/".toList = ['a', ' ', '=', '~', ' ', '!', '/', 'b', '/'] := by decide
    have first : Reaches arity? "a =~ !/b/".toList [variableA] _
        [' ', '=', '~', ' ', '!', '/', 'b', '/'] :=
      .accepted .initial (by rw [isList]; with_unfolding_all rfl) rfl
    have second : Reaches arity? "a =~ !/b/".toList [variableA, matchSign] _
        [' ', '!', '/', 'b', '/'] := .accepted first (by with_unfolding_all rfl) rfl
    have third : Reaches arity? "a =~ !/b/".toList [variableA, matchSign, .operator .bang] _
        ['/', 'b', '/'] := .accepted second (by with_unfolding_all rfl) rfl
    have awaits : AwaitsPattern [variableA, matchSign, .operator .bang] :=
      third.inPattern_iff.mp rfl
    exact ⟨_, third, rfl, ((matchSlash _ _ _ _ third rfl).1 rfl).1.mpr awaits⟩
  · have isList : "a + /b/".toList = ['a', ' ', '+', ' ', '/', 'b', '/'] := by decide
    have first : Reaches arity? "a + /b/".toList [variableA] _ [' ', '+', ' ', '/', 'b', '/'] :=
      .accepted .initial (by rw [isList]; with_unfolding_all rfl) rfl
    have second : Reaches arity? "a + /b/".toList [variableA, plus] _ [' ', '/', 'b', '/'] :=
      .accepted first (by with_unfolding_all rfl) rfl
    have never : ¬AwaitsPattern [variableA, plus] := mt second.inPattern_iff.mpr nofun
    exact ⟨_, second, rfl, ((sumSlash _ _ _ _ second rfl).1 rfl).2 never⟩
  · have isList : "a / b".toList = ['a', ' ', '/', ' ', 'b'] := by decide
    have first : Reaches arity? "a / b".toList [variableA] _ [' ', '/', ' ', 'b'] :=
      .accepted .initial (by rw [isList]; with_unfolding_all rfl) rfl
    exact ⟨_, first, rfl, ((quotientSlash _ _ _ _ first rfl).2 rfl).1⟩
  · obtain ⟨-, tree, -, -, -, isProgram, matched⟩ := matchTree
      [.var "a", .regex "b" "", .op (.unary .not), .op (.binary .regexMatch)]
      (by with_unfolding_all rfl)
    exact ⟨tree, matched, isProgram.symm⟩

end Conversion

end Calculator
