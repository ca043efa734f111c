import Calculator.Decimal.Numeral
import Calculator.Error

/-!
# Lexemes of expressions

How the next lexeme is read depends on what came before it: a bracket after an operand opens an
index and elsewhere an array, a slash opens a regular expression only where the match operator
asks for one, and a name joins a following parenthesis only if it names a function.  The main
statement is that every lexeme takes at least one character.
-/

namespace Calculator

/-- An operator as it is spelled, before its position decides whether it is unary. -/
inductive OperatorSign
  | bang
  | binary (op : BinaryOp)
  deriving Repr, DecidableEq

def OperatorSign.symbol : OperatorSign → String
  | bang => UnaryOp.not.symbol
  | binary op => op.symbol

/-- A unit of source text. -/
inductive Lexeme
  /-- A number, string, literal, keyword, variable, capture or regular expression. -/
  | operand (token : Token)
  /-- A function name with its opening parenthesis. -/
  | openCall (name : String)
  | openGroup
  | closeGroup
  | comma
  /-- An opening bracket after an operand. -/
  | openIndex
  /-- A closing bracket or brace. -/
  | closeIndex (bracket : Char)
  | operator (sign : OperatorSign)

/-- What decides how the next lexeme is read. -/
structure LexMode where
  /-- An operand has just been completed. -/
  afterOperand : Bool
  /-- The right operand of a match operator has not begun yet. -/
  inPattern : Bool
  deriving Repr, DecidableEq

namespace Lexeme

/-- The character that an escaped character of a string stands for. -/
def unescape (c : Char) : Char :=
  if c = 'n' then '\n'
  else if c = 't' then '\t'
  else if c = 'r' then '\r'
  else if c = '0' then '\x00'
  else c

/-- Read a string after its opening quotation mark. -/
def readString? (quote : Char) : List Char → Option (List Char × List Char)
  | [] => none
  | ['\\'] => none
  | '\\' :: c :: rest =>
    (readString? quote rest).map fun (text, after) => (unescape c :: text, after)
  | c :: rest =>
    if c = quote then some ([], rest)
    else (readString? quote rest).map fun (text, after) => (c :: text, after)

/-- Read a regular expression after its opening slash.  An escaped slash loses its backslash; every
other escape is kept as it is. -/
def readRegex? : List Char → Option (List Char × List Char)
  | [] => none
  | ['\\'] => none
  | '\\' :: c :: rest =>
    (readRegex? rest).map fun (source, after) =>
      (if c = '/' then c :: source else '\\' :: c :: source, after)
  | c :: rest =>
    if c = '/' then some ([], rest)
    else (readRegex? rest).map fun (source, after) => (c :: source, after)

/-- Where a bracket scanner stands with respect to quotation marks. -/
inductive QuoteState
  | outside
  | inside (quote : Char)
  | escaped (quote : Char)
  deriving Repr, DecidableEq

/-- The state after one more character. -/
def QuoteState.next (state : QuoteState) (c : Char) : QuoteState :=
  match state with
  | outside => if c = '"' ∨ c = '\x27' then inside c else outside
  | inside quote =>
    if c = '\\' then escaped quote else if c = quote then outside else inside quote
  | escaped quote => inside quote

/-- Cut a text after the bracket that balances all brackets before it.  The brackets of both kinds
count alike, and those in quotation marks do not count. -/
def splitBalanced? (state : QuoteState) (depth : Nat) : List Char →
    Option (List Char × List Char)
  | [] => none
  | c :: rest =>
    let continued (depth : Nat) :=
      (splitBalanced? (state.next c) depth rest).map fun (raw, after) => (c :: raw, after)
    if state = .outside ∧ (c = '[' ∨ c = '\x7b') then continued (depth + 1)
    else if state = .outside ∧ (c = ']' ∨ c = '\x7d') then
      if depth ≤ 1 then some ([c], rest) else continued (depth - 1)
    else continued depth

def keyword? (name : String) : Option Value :=
  if name = "null" then some .null
  else if name = "true" then some (.boolean true)
  else if name = "false" then some (.boolean false)
  else none

/-- Read a name: a keyword, a function name with its parenthesis, or a variable. -/
def readName (arity? : String → Option Nat) (chars : List Char) : Lexeme × List Char :=
  let name := String.ofList (chars.takeWhile Text.isNameChar)
  let rest := chars.dropWhile Text.isNameChar
  match keyword? name with
  | some value => (operand (.value value), rest)
  | none =>
    match rest with
    | '(' :: after =>
      if (arity? name).isSome then (openCall name, after) else (operand (.var name), rest)
    | _ => (operand (.var name), rest)

/-- The operator that two characters spell together. -/
def doubleSign? (first : Char) (second : Option Char) : Option BinaryOp :=
  if first = '&' ∧ second = some '&' then some .and
  else if first = '|' ∧ second = some '|' then some .or
  else if first = '=' ∧ second = some '~' then some .regexMatch
  else if second = some '=' then
    if first = '=' then some .equal
    else if first = '!' then some .notEqual
    else if first = '<' then some .lessEqual
    else if first = '>' then some .greaterEqual
    else none
  else none

/-- The operator that one character spells. -/
def singleSign? (c : Char) : Option OperatorSign :=
  if c = '>' then some (.binary .greater)
  else if c = '<' then some (.binary .less)
  else if c = '+' then some (.binary .add)
  else if c = '-' then some (.binary .subtract)
  else if c = '*' then some (.binary .multiply)
  else if c = '/' then some (.binary .divide)
  else if c = '%' then some (.binary .remainder)
  else if c = '^' then some (.binary .power)
  else if c = '!' then some .bang
  else none

/-- Read the operator that starts with a character, two characters if they spell one.  A single
equals sign is no operator. -/
def readSign (c : Char) (rest : List Char) : Except Error (Lexeme × List Char) :=
  match doubleSign? c rest.head? with
  | some op => .ok (operator (.binary op), rest.tail)
  | none =>
    match singleSign? c with
    | some sign => .ok (operator sign, rest)
    | none => .error (if c = '=' then .unexpected (.mark c) else .illegalCharacter c)

/-- Read a string literal after its opening quotation mark. -/
def readQuoted (quote : Char) (rest : List Char) : Except Error (Lexeme × List Char) :=
  match readString? quote rest with
  | some (text, after) => .ok (operand (.string (String.ofList text)), after)
  | none => .error (.unterminated .string)

/-- Read an array or object literal at its opening bracket. -/
def readLiteral (chars : List Char) : Except Error (Lexeme × List Char) :=
  match splitBalanced? .outside 0 chars with
  | some (raw, after) => .ok (operand (.literal (String.ofList raw)), after)
  | none => .error (.unterminated .literal)

/-- Read a regular expression with its flag letters after its opening slash. -/
def readPattern (rest : List Char) : Except Error (Lexeme × List Char) :=
  match readRegex? rest with
  | some (source, after) =>
    let flags := after.takeWhile Char.isAlpha
    .ok (operand (.regex (String.ofList source) (String.ofList flags)),
      after.dropWhile Char.isAlpha)
  | none => .error (.unterminated .regex)

/-- Read a capture variable after its dollar sign. -/
def readCapture (rest : List Char) : Except Error (Lexeme × List Char) :=
  let name := rest.takeWhile Text.isNameChar
  if name.isEmpty then .error (.illegalCharacter '$')
  else .ok (operand (.capture (String.ofList ('$' :: name))), rest.dropWhile Text.isNameChar)

/-- Read a number, or else an operator. -/
def readNumber (c : Char) (rest : List Char) : Except Error (Lexeme × List Char) :=
  match Decimal.Numeral.scan? (c :: rest) with
  | some (numeral, after) => .ok (operand (.number numeral.value), after)
  | none => readSign c rest

/-- Read the lexeme that starts with a character. -/
def readAt (arity? : String → Option Nat) (mode : LexMode) (c : Char) (rest : List Char) :
    Except Error (Lexeme × List Char) :=
  if c = '"' ∨ c = '\x27' then readQuoted c rest
  else if c = '[' ∧ mode.afterOperand then .ok (openIndex, rest)
  else if c = '\x7b' ∧ mode.afterOperand then .error (.unexpected (.mark c))
  else if c = '[' ∨ c = '\x7b' then readLiteral (c :: rest)
  else if c = ']' ∨ c = '\x7d' then .ok (closeIndex c, rest)
  else if c = '/' ∧ mode.inPattern ∧ !mode.afterOperand then readPattern rest
  else if c = '(' then .ok (openGroup, rest)
  else if c = ')' then .ok (closeGroup, rest)
  else if c = ',' then .ok (comma, rest)
  else if c = '$' then readCapture rest
  else if c.isLower then .ok (readName arity? (c :: rest))
  else readNumber c rest

/-- Read the next lexeme of a text, if anything but blanks is left, with the text from the start of
the lexeme and the text after it. -/
def next (arity? : String → Option Nat) (mode : LexMode) (chars : List Char) :
    Except Error (Option (Lexeme × List Char × List Char)) :=
  match Text.skipBlanks chars with
  | [] => .ok none
  | c :: rest =>
    match readAt arity? mode c rest with
    | .error error => .error error
    | .ok (lexeme, after) => .ok (some (lexeme, c :: rest, after))

theorem readString?_shorter {quote : Char} {chars text after : List Char}
    (read : readString? quote chars = some (text, after)) : after.length < chars.length := by
  induction chars using readString?.induct quote generalizing text with
  | case1 => simp [readString?] at read
  | case2 => simp [readString?] at read
  | case3 c rest ih =>
    rw [readString?] at read
    obtain ⟨⟨later, remaining⟩, laterRead, equal⟩ := Option.map_eq_some_iff.mp read
    cases equal
    have shorter := ih laterRead
    simp only [List.length_cons]
    omega
  | case4 rest notLone notEscape =>
    rw [readString?] at read
    · simp only [if_pos, Option.some.injEq, Prod.mk.injEq] at read
      simp [read.2]
    · exact notLone
    · exact notEscape
  | case5 c rest notLone notEscape other ih =>
    rw [readString?] at read
    · rw [if_neg other] at read
      obtain ⟨⟨later, remaining⟩, laterRead, equal⟩ := Option.map_eq_some_iff.mp read
      cases equal
      have shorter := ih laterRead
      simp only [List.length_cons]
      omega
    · exact notLone
    · exact notEscape

theorem readRegex?_shorter {chars source after : List Char}
    (read : readRegex? chars = some (source, after)) : after.length < chars.length := by
  induction chars using readRegex?.induct generalizing source with
  | case1 => simp [readRegex?] at read
  | case2 => simp [readRegex?] at read
  | case3 c rest ih =>
    rw [readRegex?] at read
    obtain ⟨⟨later, remaining⟩, laterRead, equal⟩ := Option.map_eq_some_iff.mp read
    cases equal
    have shorter := ih laterRead
    simp only [List.length_cons]
    omega
  | case4 rest notLone notEscape =>
    rw [readRegex?] at read
    · simp only [if_pos, Option.some.injEq, Prod.mk.injEq] at read
      simp [read.2]
    · exact notLone
    · exact notEscape
  | case5 c rest notLone notEscape other ih =>
    rw [readRegex?] at read
    · rw [if_neg other] at read
      obtain ⟨⟨later, remaining⟩, laterRead, equal⟩ := Option.map_eq_some_iff.mp read
      cases equal
      have shorter := ih laterRead
      simp only [List.length_cons]
      omega
    · exact notLone
    · exact notEscape

theorem splitBalanced?_shorter {chars raw after : List Char} {state : QuoteState} {depth : Nat}
    (split : splitBalanced? state depth chars = some (raw, after)) :
    after.length < chars.length := by
  induction chars generalizing state depth raw with
  | nil => simp [splitBalanced?] at split
  | cons c rest ih =>
    have continued : ∀ {state depth},
        (splitBalanced? state depth rest).map (fun (raw, after) => (c :: raw, after)) =
          some (raw, after) → after.length < (c :: rest).length := by
      intro state depth found
      obtain ⟨⟨later, remaining⟩, laterSplit, equal⟩ := Option.map_eq_some_iff.mp found
      cases equal
      have shorter := ih laterSplit
      simp only [List.length_cons]
      omega
    simp only [splitBalanced?] at split
    split at split
    · exact continued split
    · split at split
      · split at split
        · simp only [Option.some.injEq, Prod.mk.injEq] at split
          simp [split.2]
        · exact continued split
      · exact continued split

theorem readName_shorter (arity? : String → Option Nat) {c : Char} (rest : List Char)
    (nameStart : Text.isNameChar c = true) :
    (readName arity? (c :: rest)).2.length < (c :: rest).length := by
  have cut : ((c :: rest).dropWhile Text.isNameChar).length < (c :: rest).length := by
    rw [List.dropWhile_cons_of_pos nameStart]
    exact Nat.lt_succ_of_le (List.dropWhile_sublist _).length_le
  unfold readName
  dsimp only
  split
  · exact cut
  · split
    · next after equal =>
      rw [equal] at cut
      simp only [List.length_cons] at cut
      split
      · simp only [List.length_cons]
        omega
      · rw [equal]
        simpa using cut
    · exact cut

theorem readSign_shorter {c : Char} {rest after : List Char} {lexeme : Lexeme}
    (read : readSign c rest = .ok (lexeme, after)) : after.length ≤ rest.length := by
  unfold readSign at read
  split at read
  · simp only [Except.ok.injEq, Prod.mk.injEq] at read
    simp [← read.2]
  · split at read
    · simp only [Except.ok.injEq, Prod.mk.injEq] at read
      simp [read.2]
    · cases read

theorem isNameChar_of_isLower {c : Char} (lower : c.isLower = true) :
    Text.isNameChar c = true := by
  have alphabetic : (c.isUpper || c.isLower) = true := by rw [lower, Bool.or_true]
  exact Bool.or_eq_true_iff.mpr (.inl (Bool.or_eq_true_iff.mpr (.inl alphabetic)))

theorem readQuoted_shorter {quote : Char} {rest after : List Char} {lexeme : Lexeme}
    (read : readQuoted quote rest = .ok (lexeme, after)) : after.length ≤ rest.length := by
  unfold readQuoted at read
  split at read
  · next found =>
    simp only [Except.ok.injEq, Prod.mk.injEq] at read
    have shorter := readString?_shorter found
    rw [← read.2]
    omega
  · cases read

theorem readLiteral_shorter {chars after : List Char} {lexeme : Lexeme}
    (read : readLiteral chars = .ok (lexeme, after)) : after.length < chars.length := by
  unfold readLiteral at read
  split at read
  · next found =>
    simp only [Except.ok.injEq, Prod.mk.injEq] at read
    rw [← read.2]
    exact splitBalanced?_shorter found
  · cases read

theorem readPattern_shorter {rest after : List Char} {lexeme : Lexeme}
    (read : readPattern rest = .ok (lexeme, after)) : after.length ≤ rest.length := by
  unfold readPattern at read
  split at read
  · next source flags found =>
    simp only [Except.ok.injEq, Prod.mk.injEq] at read
    have shorter := readRegex?_shorter found
    have flagsShorter : (flags.dropWhile Char.isAlpha).length ≤ flags.length :=
      (List.dropWhile_sublist _).length_le
    rw [← read.2]
    omega
  · cases read

theorem readCapture_shorter {rest after : List Char} {lexeme : Lexeme}
    (read : readCapture rest = .ok (lexeme, after)) : after.length ≤ rest.length := by
  unfold readCapture at read
  dsimp only at read
  split at read
  · cases read
  · simp only [Except.ok.injEq, Prod.mk.injEq] at read
    rw [← read.2]
    exact (List.dropWhile_sublist _).length_le

theorem readNumber_shorter {c : Char} {rest after : List Char} {lexeme : Lexeme}
    (read : readNumber c rest = .ok (lexeme, after)) : after.length ≤ rest.length := by
  unfold readNumber at read
  split at read
  · next found =>
    simp only [Except.ok.injEq, Prod.mk.injEq] at read
    have shorter := Decimal.Numeral.scan?_shorter found
    rw [← read.2]
    exact Nat.le_of_lt_succ shorter
  · exact readSign_shorter read

/-- What the outcome can be where a lexeme starts with a given character. -/
inductive LexemeAt (arity? : String → Option Nat) (mode : LexMode) (c : Char) (rest : List Char) :
    Except Error (Lexeme × List Char) → Prop
  | quoted : LexemeAt arity? mode c rest (readQuoted c rest)
  | openIndex (after : mode.afterOperand = true) :
      LexemeAt arity? mode c rest (.ok (openIndex, rest))
  | misplaced : LexemeAt arity? mode c rest (.error (.unexpected (.mark c)))
  | literal : LexemeAt arity? mode c rest (readLiteral (c :: rest))
  | closeIndex : LexemeAt arity? mode c rest (.ok (closeIndex c, rest))
  | pattern (awaited : mode.inPattern = true) (before : mode.afterOperand = false) :
      LexemeAt arity? mode c rest (readPattern rest)
  | openGroup : LexemeAt arity? mode c rest (.ok (openGroup, rest))
  | closeGroup : LexemeAt arity? mode c rest (.ok (closeGroup, rest))
  | comma : LexemeAt arity? mode c rest (.ok (comma, rest))
  | capture : LexemeAt arity? mode c rest (readCapture rest)
  | name (lower : c.isLower = true) :
      LexemeAt arity? mode c rest (.ok (readName arity? (c :: rest)))
  | number : LexemeAt arity? mode c rest (readNumber c rest)

theorem lexemeAt_readAt (arity? : String → Option Nat) (mode : LexMode) (c : Char)
    (rest : List Char) : LexemeAt arity? mode c rest (readAt arity? mode c rest) := by
  unfold readAt
  refine iteInduction (fun _ => .quoted) fun _ => ?_
  refine iteInduction (fun opens => .openIndex opens.2) fun _ => ?_
  refine iteInduction (fun _ => .misplaced) fun _ => ?_
  refine iteInduction (fun _ => .literal) fun _ => ?_
  refine iteInduction (fun _ => .closeIndex) fun _ => ?_
  refine iteInduction (fun opens => .pattern opens.2.1 (by simpa using opens.2.2)) fun _ => ?_
  refine iteInduction (fun _ => .openGroup) fun _ => ?_
  refine iteInduction (fun _ => .closeGroup) fun _ => ?_
  refine iteInduction (fun _ => .comma) fun _ => ?_
  refine iteInduction (fun _ => .capture) fun _ => ?_
  exact iteInduction (fun lower => .name lower) fun _ => .number

/-- Every lexeme takes its first character and perhaps more. -/
theorem readAt_shorter {arity? : String → Option Nat} {mode : LexMode} {c : Char}
    {rest after : List Char} {lexeme : Lexeme}
    (read : readAt arity? mode c rest = .ok (lexeme, after)) : after.length ≤ rest.length := by
  have found := lexemeAt_readAt arity? mode c rest
  generalize readAt arity? mode c rest = outcome at found read
  cases found with
  | quoted => exact readQuoted_shorter read
  | literal => exact Nat.le_of_lt_succ (readLiteral_shorter read)
  | pattern => exact readPattern_shorter read
  | capture => exact readCapture_shorter read
  | number => exact readNumber_shorter read
  | name lower =>
      have shorter := readName_shorter arity? rest (isNameChar_of_isLower lower)
      rw [Except.ok.inj read] at shorter
      exact Nat.le_of_lt_succ shorter
  | misplaced => cases read
  | openIndex | closeIndex | openGroup | closeGroup | comma =>
      cases read
      exact Nat.le_refl _

/-- Reading a lexeme moves on: it leaves less text than there was. -/
theorem next_shorter {arity? : String → Option Nat} {mode : LexMode}
    {chars source after : List Char} {lexeme : Lexeme}
    (read : next arity? mode chars = .ok (some (lexeme, source, after))) :
    after.length < chars.length := by
  have blanksShorter : (Text.skipBlanks chars).length ≤ chars.length :=
    (List.dropWhile_sublist _).length_le
  unfold next at read
  split at read
  · cases read
  · next c rest equal =>
    rw [equal] at blanksShorter
    split at read
    · cases read
    · next found =>
      simp only [Except.ok.injEq, Option.some.injEq, Prod.mk.injEq] at read
      have shorter := readAt_shorter found
      simp only [List.length_cons] at blanksShorter
      rw [← read.2.2]
      omega

end Lexeme

end Calculator
