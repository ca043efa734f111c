import Calculator.Proofs.ByteOffsets
import Calculator.Proofs.Numerals

/-!
# Reading with a cursor

The lexemes of an expression can be read without copying what is left of the text: a cursor holds
the byte offset of the next character, and the text of a lexeme is the slice between two positions
of the cursor.  A reader that steps into the middle of a character, or asks for a slice between
offsets that are no boundaries, stops with a fault of its own.  The main statement is that none ever
does: with a cursor every lexeme is read as it is from the list of the characters.
-/

namespace Calculator

namespace Cursor

open Text (IsBoundary StandsBefore byteAt? byteLength)

/-- Why a reader stops. -/
inductive Halt
  /-- A slice between these offsets does not exist. -/
  | brokenSlice (first last : Nat)
  /-- The cursor was moved to an offset that is not between two characters of the text. -/
  | strayCursor (offset : Nat)
  /-- What was taken for a number is none. -/
  | unexpectedNumber (text : String)
  | failed (error : Error)

/-- The slice between two offsets. -/
def slice (text : String) (first last : Nat) : Except Halt String :=
  match Text.slice? text first last with
  | some part => .ok part
  | none => .error (.brokenSlice first last)

/-- Move the cursor.  Every place that the cursor ever takes is checked here. -/
def moveTo (text : String) (offset : Nat) : Except Halt Nat :=
  if IsBoundary text offset then .ok offset else .error (.strayCursor offset)

/-- The text after the cursor. -/
def remaining (text : String) (cursor : Nat) : Except Halt (List Char) :=
  (slice text cursor text.utf8ByteSize).map String.toList

/-- The character after the cursor. -/
def peek (text : String) (cursor : Nat) : Except Halt (Option Char) :=
  (remaining text cursor).map List.head?

/-- The second character after the cursor. -/
def peekSecond (text : String) (cursor : Nat) : Except Halt (Option Char) :=
  (remaining text cursor).map fun chars => chars[1]?

/-- Take the character after the cursor. -/
def advance (text : String) (cursor : Nat) : Except Halt (Option (Char × Nat)) :=
  match peek text cursor with
  | .error halt => .error halt
  | .ok none => .ok none
  | .ok (some c) => (moveTo text (cursor + c.utf8Size)).map fun next => some (c, next)

theorem moveTo_eq_ok {text : String} {offset next : Nat} (moved : moveTo text offset = .ok next) :
    next = offset ∧ next ≤ text.utf8ByteSize := by
  unfold moveTo at moved
  split at moved
  · next isBoundary =>
    cases moved
    exact ⟨rfl, isBoundary.le⟩
  · cases moved

theorem advance_forward {text : String} {cursor next : Nat} {c : Char}
    (taken : advance text cursor = .ok (some (c, next))) :
    cursor < next ∧ next ≤ text.utf8ByteSize := by
  unfold advance at taken
  split at taken
  · cases taken
  · cases taken
  · next first _ =>
    cases moved : moveTo text (cursor + first.utf8Size) with
    | error halt =>
        rw [moved] at taken
        cases taken
    | ok offset =>
        rw [moved] at taken
        cases taken
        have sized := c.utf8Size_pos
        have place := moveTo_eq_ok moved
        omega

/-- Move the cursor past the characters that satisfy a test. -/
def skipWhile (text : String) (test : Char → Bool) (cursor : Nat) : Except Halt Nat :=
  match peek text cursor with
  | .error halt => .error halt
  | .ok none => .ok cursor
  | .ok (some c) =>
    if test c then
      match _moved : moveTo text (cursor + c.utf8Size) with
      | .error halt => .error halt
      | .ok next => skipWhile text test next
    else .ok cursor
termination_by text.utf8ByteSize - cursor
decreasing_by
  have sized := c.utf8Size_pos
  have place := moveTo_eq_ok _moved
  omega

/-- Read a string after its opening quotation mark. -/
def readString (text : String) (quote : Char) (cursor : Nat) : Except Halt (List Char × Nat) :=
  match _first : advance text cursor with
  | .error halt => .error halt
  | .ok none => .error (.failed (.unterminated .string))
  | .ok (some (c, next)) =>
    if c = '\\' then
      match _second : advance text next with
      | .error halt => .error halt
      | .ok none => .error (.failed (.unterminated .string))
      | .ok (some (escaped, later)) =>
        (readString text quote later).map fun (chars, stop) =>
          (Lexeme.unescape escaped :: chars, stop)
    else if c = quote then .ok ([], next)
    else (readString text quote next).map fun (chars, stop) => (c :: chars, stop)
termination_by text.utf8ByteSize - cursor
decreasing_by
  · have first := advance_forward _first
    have second := advance_forward _second
    omega
  · have first := advance_forward _first
    omega

/-- Read a regular expression after its opening slash. -/
def readRegex (text : String) (cursor : Nat) : Except Halt (List Char × Nat) :=
  match _first : advance text cursor with
  | .error halt => .error halt
  | .ok none => .error (.failed (.unterminated .regex))
  | .ok (some (c, next)) =>
    if c = '\\' then
      match _second : advance text next with
      | .error halt => .error halt
      | .ok none => (readRegex text next).map fun (chars, stop) => (c :: chars, stop)
      | .ok (some (escaped, later)) =>
        (readRegex text later).map fun (chars, stop) =>
          (if escaped = '/' then escaped :: chars else c :: escaped :: chars, stop)
    else if c = '/' then .ok ([], next)
    else (readRegex text next).map fun (chars, stop) => (c :: chars, stop)
termination_by text.utf8ByteSize - cursor
decreasing_by
  · have first := advance_forward _first
    omega
  · have first := advance_forward _first
    have second := advance_forward _second
    omega
  · have first := advance_forward _first
    omega

/-- The offset after the bracket that balances all brackets before it. -/
def balancedEnd? (state : Lexeme.QuoteState) (depth offset : Nat) : List Char → Option Nat
  | [] => none
  | c :: rest =>
    let continued (depth : Nat) := balancedEnd? (state.next c) depth (offset + c.utf8Size) rest
    if state = .outside ∧ (c = '[' ∨ c = '\x7b') then continued (depth + 1)
    else if state = .outside ∧ (c = ']' ∨ c = '\x7d') then
      if depth ≤ 1 then some (offset + c.utf8Size) else continued (depth - 1)
    else continued depth

/-- Move the cursor past a point and the digits after it, if it stands before a point. -/
def skipFraction (text : String) (cursor : Nat) : Except Halt Nat := do
  if (← peek text cursor) = some '.' then
    skipWhile text Char.isDigit (← moveTo text (cursor + 1))
  else .ok cursor

/-- The offset of the digits of an exponent whose letter the cursor stands before.  Only bytes are
looked at here. -/
def exponentDigits? (text : String) (cursor : Nat) : Option Nat :=
  let isSigned := byteAt? text (cursor + 1) = some '+'.toUInt8 ∨
    byteAt? text (cursor + 1) = some '-'.toUInt8
  let ahead := if isSigned then cursor + 2 else cursor + 1
  if (byteAt? text ahead).any Text.isDigitByte then some ahead else none

/-- Move the cursor past an exponent, if it stands before one. -/
def skipExponent (text : String) (cursor : Nat) : Except Halt Nat := do
  let letter ← peek text cursor
  if letter = some 'e' ∨ letter = some 'E' then
    match exponentDigits? text cursor with
    | some digits => skipWhile text Char.isDigit (← moveTo text digits)
    | none => .ok cursor
  else .ok cursor

/-- Read a number. -/
def readNumber (text : String) (start : Nat) : Except Halt (Float × Nat) := do
  let stop ← skipExponent text (← skipFraction text (← skipWhile text Char.isDigit start))
  let spelling ← slice text start stop
  match Decimal.number? spelling.toList with
  | some x => .ok (x, stop)
  | none => .error (.unexpectedNumber spelling)

/-- Read a name that starts at one offset and goes on at another one. -/
def readName (text : String) (arity? : String → Option Nat) (start next : Nat) :
    Except Halt (Lexeme × Nat) := do
  let stop ← skipWhile text Text.isNameChar next
  let name ← slice text start stop
  match Lexeme.keyword? name with
  | some value => .ok (.operand (.value value), stop)
  | none =>
    if (← peek text stop) = some '(' ∧ (arity? name).isSome then
      .ok (.openCall name, ← moveTo text (stop + 1))
    else .ok (.operand (.var name), stop)

/-- Read a capture variable that starts at one offset and goes on at another one. -/
def readCapture (text : String) (start next : Nat) : Except Halt (Lexeme × Nat) := do
  let stop ← skipWhile text Text.isNameChar next
  if stop = start + 1 then .error (.failed (.illegalCharacter '$'))
  else .ok (.operand (.capture (← slice text start stop)), stop)

/-- Read an array or object literal at its opening bracket. -/
def readLiteral (text : String) (start : Nat) : Except Halt (Lexeme × Nat) := do
  match balancedEnd? .outside 0 start (← remaining text start) with
  | some stop => .ok (.operand (.literal (← slice text start stop)), ← moveTo text stop)
  | none => .error (.failed (.unterminated .literal))

/-- Read a string literal after its opening quotation mark. -/
def readQuoted (text : String) (quote : Char) (next : Nat) : Except Halt (Lexeme × Nat) := do
  let (chars, stop) ← readString text quote next
  .ok (.operand (.string (String.ofList chars)), stop)

/-- Read a regular expression with its flag letters after its opening slash. -/
def readPattern (text : String) (next : Nat) : Except Halt (Lexeme × Nat) := do
  let (source, start) ← readRegex text next
  let stop ← skipWhile text Char.isAlpha start
  .ok (.operand (.regex (String.ofList source) (← slice text start stop)), stop)

/-- Read the operator that starts with a character. -/
def readSign (text : String) (c : Char) (start : Nat) : Except Halt (Lexeme × Nat) := do
  match Lexeme.doubleSign? c (← peekSecond text start) with
  | some op => .ok (.operator (.binary op), ← moveTo text (start + 2))
  | none =>
    match Lexeme.singleSign? c with
    | some sign => .ok (.operator sign, ← moveTo text (start + 1))
    | none => .error (.failed (if c = '=' then .unexpected (.mark c) else .illegalCharacter c))

/-- Read a number or an operator that starts with a character. -/
def readNumberOrSign (text : String) (c : Char) (start : Nat) : Except Halt (Lexeme × Nat) := do
  if c.isDigit ∨ c = '.' ∧ (← peekSecond text start).any Char.isDigit then
    let (x, stop) ← readNumber text start
    .ok (.operand (.number x), stop)
  else readSign text c start

/-- Read the lexeme that starts with a character, after which the cursor stands. -/
def readAt (text : String) (arity? : String → Option Nat) (mode : LexMode) (c : Char)
    (start next : Nat) : Except Halt (Lexeme × Nat) :=
  if c = '"' ∨ c = '\x27' then readQuoted text c next
  else if c = '[' ∧ mode.afterOperand then .ok (.openIndex, next)
  else if c = '\x7b' ∧ mode.afterOperand then .error (.failed (.unexpected (.mark c)))
  else if c = '[' ∨ c = '\x7b' then readLiteral text start
  else if c = ']' ∨ c = '\x7d' then .ok (.closeIndex c, next)
  else if c = '/' ∧ mode.inPattern ∧ !mode.afterOperand then readPattern text next
  else if c = '(' then .ok (.openGroup, next)
  else if c = ')' then .ok (.closeGroup, next)
  else if c = ',' then .ok (.comma, next)
  else if c = '$' then readCapture text start next
  else if c.isLower then readName text arity? start next
  else readNumberOrSign text c start

/-! ## Moves of the cursor -/

section Moves

variable {text : String} {cursor first last : Nat} {c : Char} {chars rest before after : List Char}

theorem slice_eq (stands : StandsBefore text first (before ++ after))
    (later : StandsBefore text last after) :
    slice text first last = .ok (String.ofList before) := by
  rw [slice, stands.eq_add later, stands.slice?_add]

theorem slice_takeWhile {test : Char → Bool} (stands : StandsBefore text first chars)
    (later : StandsBefore text last (chars.dropWhile test)) :
    slice text first last = .ok (String.ofList (chars.takeWhile test)) :=
  slice_eq (by rwa [List.takeWhile_append_dropWhile]) later

theorem moveTo_eq (stands : StandsBefore text cursor chars) : moveTo text cursor = .ok cursor :=
  if_pos stands.isBoundary

theorem remaining_eq (stands : StandsBefore text cursor chars) :
    remaining text cursor = .ok chars := by
  rw [remaining, slice, stands.slice?_end]
  exact congrArg Except.ok String.toList_ofList

theorem peek_eq (stands : StandsBefore text cursor chars) :
    peek text cursor = .ok chars.head? := by
  rw [peek, remaining_eq stands]
  rfl

theorem peekSecond_eq (stands : StandsBefore text cursor (c :: chars)) :
    peekSecond text cursor = .ok chars.head? := by
  rw [peekSecond, remaining_eq stands, List.head?_eq_getElem?]
  rfl

theorem advance_nil (stands : StandsBefore text cursor []) : advance text cursor = .ok none := by
  rw [advance, peek_eq stands]
  rfl

theorem advance_cons (stands : StandsBefore text cursor (c :: chars)) :
    advance text cursor = .ok (some (c, cursor + c.utf8Size)) := by
  rw [advance, peek_eq stands]
  dsimp only [List.head?_cons]
  rw [moveTo_eq stands.next]
  rfl

/-- The cursor was moved to a place before the given text. -/
def MovesBefore (text : String) (rest : List Char) (outcome : Except Halt Nat) : Prop :=
  ∃ stop, outcome = .ok stop ∧ StandsBefore text stop rest

/-- The cursor moves past the longest run of characters that satisfy the test. -/
theorem skipWhile_moves (stands : StandsBefore text cursor chars) (test : Char → Bool) :
    MovesBefore text (chars.dropWhile test) (skipWhile text test cursor) := by
  induction chars generalizing cursor with
  | nil =>
      rw [skipWhile, peek_eq stands]
      exact ⟨cursor, rfl, stands⟩
  | cons c rest ih =>
      rw [skipWhile, peek_eq stands]
      dsimp only [List.head?_cons]
      by_cases holds : test c = true
      · rw [if_pos holds, moveTo_eq stands.next, List.dropWhile_cons_of_pos holds]
        exact ih stands.next
      · rw [if_neg holds, List.dropWhile_cons_of_neg holds]
        exact ⟨cursor, rfl, stands⟩

end Moves

/-! ## Readers -/

variable {text : String} {cursor start next : Nat} {c : Char} {chars rest : List Char}

/-- With a cursor the same is read as from a list of characters, up to the same place. -/
inductive Agrees (text : String) {α : Type} :
    Except Halt (α × Nat) → Except Error (α × List Char) → Prop
  | read {value : α} {cursor : Nat} {rest : List Char} (stands : StandsBefore text cursor rest) :
      Agrees text (.ok (value, cursor)) (.ok (value, rest))
  | failed (error : Error) : Agrees text (.error (.failed error)) (.error error)

theorem Agrees.cases {α : Type} {outcome : Except Halt (α × Nat)}
    {expected : Except Error (α × List Char)} (agrees : Agrees text outcome expected) :
    (∃ error, outcome = .error (.failed error) ∧ expected = .error error) ∨
      ∃ value cursor rest, outcome = .ok (value, cursor) ∧ expected = .ok (value, rest) ∧
        StandsBefore text cursor rest := by
  cases agrees with
  | failed error => exact Or.inl ⟨error, rfl, rfl⟩
  | read stands => exact Or.inr ⟨_, _, _, rfl, rfl, stands⟩

theorem ok_bind {ε α β : Type} (value : α) (next : α → Except ε β) :
    (Except.ok value >>= next) = next value :=
  rfl

section Delimited

/-- What was read, or else an error. -/
def orFail {α : Type} (error : Error) (read : Option α) : Except Error α :=
  read.elim (.error error) .ok

variable {error : Error} {found : Except Halt (List Char × Nat)}
  {read : Option (List Char × List Char)}

theorem Agrees.cases_orFail (agrees : Agrees text found (orFail error read)) :
    (read = none ∧ found = .error (.failed error)) ∨
      ∃ chars rest stop, read = some (chars, rest) ∧ found = .ok (chars, stop) ∧
        StandsBefore text stop rest := by
  cases read with
  | none =>
      cases agrees
      exact Or.inl ⟨rfl, rfl⟩
  | some result =>
      cases agrees with
      | read stands => exact Or.inr ⟨_, _, _, rfl, rfl, stands⟩

theorem Agrees.map_orFail (agrees : Agrees text found (orFail error read))
    (extend : List Char → List Char) :
    Agrees text (found.map fun (chars, stop) => (extend chars, stop))
      (orFail error (read.map fun (chars, rest) => (extend chars, rest))) := by
  rcases agrees.cases_orFail with ⟨rfl, rfl⟩ | ⟨chars, rest, stop, rfl, rfl, stands⟩
  · exact .failed error
  · exact .read stands

theorem readString_cons (quote : Char) (stands : StandsBefore text cursor (c :: rest))
    (notBackslash : c ≠ '\\') :
    readString text quote cursor =
      if c = quote then .ok ([], cursor + c.utf8Size)
      else (readString text quote (cursor + c.utf8Size)).map fun (chars, stop) =>
        (c :: chars, stop) := by
  rw [readString, advance_cons stands]
  exact if_neg notBackslash

theorem readRegex_cons (stands : StandsBefore text cursor (c :: rest)) (notBackslash : c ≠ '\\') :
    readRegex text cursor =
      if c = '/' then .ok ([], cursor + c.utf8Size)
      else (readRegex text (cursor + c.utf8Size)).map fun (chars, stop) => (c :: chars, stop) := by
  rw [readRegex, advance_cons stands]
  exact if_neg notBackslash

theorem readString_agrees (quote : Char) (stands : StandsBefore text cursor chars) :
    Agrees text (readString text quote cursor)
      (orFail (.unterminated .string) (Lexeme.readString? quote chars)) := by
  induction chars using Lexeme.readString?.induct quote generalizing cursor with
  | case1 =>
      rw [readString, advance_nil stands]
      exact .failed _
  | case2 =>
      rw [readString, advance_cons stands]
      dsimp only
      rw [if_pos rfl, advance_nil stands.next]
      exact .failed _
  | case3 c rest ih =>
      rw [readString, advance_cons stands]
      dsimp only
      rw [if_pos rfl, advance_cons stands.next, Lexeme.readString?]
      exact (ih stands.next.next).map_orFail (Lexeme.unescape c :: ·)
  | case4 rest notLone notEscape =>
      have notBackslash := Lexeme.ne_backslash notLone notEscape
      rw [readString_cons _ stands notBackslash, readString?_cons notBackslash, if_pos rfl,
        if_pos rfl]
      exact .read stands.next
  | case5 c rest notLone notEscape notQuote ih =>
      have notBackslash := Lexeme.ne_backslash notLone notEscape
      rw [readString_cons _ stands notBackslash, readString?_cons notBackslash, if_neg notQuote,
        if_neg notQuote]
      exact (ih stands.next).map_orFail (c :: ·)

theorem readRegex_agrees (stands : StandsBefore text cursor chars) :
    Agrees text (readRegex text cursor)
      (orFail (.unterminated .regex) (Lexeme.readRegex? chars)) := by
  induction chars using Lexeme.readRegex?.induct generalizing cursor with
  | case1 =>
      rw [readRegex, advance_nil stands]
      exact .failed _
  | case2 =>
      rw [readRegex, advance_cons stands]
      dsimp only
      rw [if_pos rfl, advance_nil stands.next, readRegex, advance_nil stands.next]
      exact .failed _
  | case3 c rest ih =>
      rw [readRegex, advance_cons stands]
      dsimp only
      rw [if_pos rfl, advance_cons stands.next, Lexeme.readRegex?]
      exact (ih stands.next.next).map_orFail fun chars =>
        if c = '/' then c :: chars else '\\' :: c :: chars
  | case4 rest notLone notEscape =>
      have notBackslash := Lexeme.ne_backslash notLone notEscape
      rw [readRegex_cons stands notBackslash, readRegex?_cons notBackslash, if_pos rfl, if_pos rfl]
      exact .read stands.next
  | case5 c rest notLone notEscape notSlash ih =>
      have notBackslash := Lexeme.ne_backslash notLone notEscape
      rw [readRegex_cons stands notBackslash, readRegex?_cons notBackslash, if_neg notSlash,
        if_neg notSlash]
      exact (ih stands.next).map_orFail (c :: ·)

theorem readQuoted_agrees (quote : Char) (stands : StandsBefore text next rest) :
    Agrees text (readQuoted text quote next) (Lexeme.readQuoted quote rest) := by
  unfold readQuoted Lexeme.readQuoted
  rcases (readString_agrees quote stands).cases_orFail with
    ⟨unread, stopped⟩ | ⟨chars, after, stop, read, found, later⟩
  · rw [unread, stopped]
    exact .failed _
  · rw [read, found]
    exact .read later

theorem readPattern_agrees (stands : StandsBefore text next rest) :
    Agrees text (readPattern text next) (Lexeme.readPattern rest) := by
  unfold readPattern Lexeme.readPattern
  rcases (readRegex_agrees stands).cases_orFail with
    ⟨unread, stopped⟩ | ⟨source, after, stop, read, found, flags⟩
  · rw [unread, stopped]
    exact .failed _
  · obtain ⟨last, moved, later⟩ := skipWhile_moves flags Char.isAlpha
    simp only [read, found, ok_bind, moved, slice_takeWhile flags later]
    exact .read later

end Delimited

section Literals

open Lexeme (splitBalanced? QuoteState)

variable {offset : Nat}

theorem append_of_splitBalanced? {state : QuoteState} {depth : Nat} {raw after : List Char}
    (split : splitBalanced? state depth chars = some (raw, after)) : chars = raw ++ after := by
  induction chars generalizing state depth raw with
  | nil => cases split
  | cons c rest ih =>
      have continued {depth : Nat}
          (found : (splitBalanced? (state.next c) depth rest).map
            (fun (raw, after) => (c :: raw, after)) = some (raw, after)) :
          c :: rest = raw ++ after := by
        obtain ⟨⟨later, remaining⟩, laterSplit, ⟨⟩⟩ := Option.map_eq_some_iff.mp found
        rw [List.cons_append, ← ih laterSplit]
      simp only [splitBalanced?] at split
      split at split
      · exact continued split
      · split at split
        · split at split
          · cases split
            rfl
          · exact continued split
        · exact continued split

/-- A scan for the end of a literal finds the offset where the text is cut. -/
theorem balancedEnd?_eq (state : QuoteState) (depth offset : Nat) (chars : List Char) :
    balancedEnd? state depth offset chars =
      (splitBalanced? state depth chars).map fun (raw, _) => offset + byteLength raw := by
  induction chars generalizing state depth offset with
  | nil => rfl
  | cons c rest ih =>
      have continued (depth : Nat) :
          balancedEnd? (state.next c) depth (offset + c.utf8Size) rest =
            ((splitBalanced? (state.next c) depth rest).map fun (raw, after) =>
              (c :: raw, after)).map fun (raw, _) => offset + byteLength raw := by
        rw [ih, Option.map_map]
        simp [Function.comp_def, Nat.add_assoc]
      simp only [balancedEnd?, splitBalanced?, continued, apply_ite (Option.map _)]
      simp

theorem readLiteral_agrees (stands : StandsBefore text start chars) :
    Agrees text (readLiteral text start) (Lexeme.readLiteral chars) := by
  unfold readLiteral Lexeme.readLiteral
  rw [remaining_eq stands]
  simp only [ok_bind, balancedEnd?_eq]
  cases found : splitBalanced? .outside 0 chars with
  | none => exact .failed _
  | some result =>
      obtain ⟨raw, after⟩ := result
      rw [append_of_splitBalanced? found] at stands
      simp only [Option.map_some, slice_eq stands stands.add, ok_bind, moveTo_eq stands.add]
      exact .read stands.add

end Literals

section Numbers

open Decimal

theorem skipFraction_moves (stands : StandsBefore text cursor chars) :
    MovesBefore text (readFraction chars).2 (skipFraction text cursor) := by
  rw [skipFraction, peek_eq stands, ok_bind]
  cases chars with
  | nil => exact ⟨cursor, rfl, stands⟩
  | cons c rest =>
      by_cases isPoint : c = '.'
      · subst isPoint
        have later : StandsBefore text (cursor + 1) rest := stands.next
        rw [List.head?_cons, if_pos rfl, moveTo_eq later]
        exact skipWhile_moves later Char.isDigit
      · have notPoint : ¬(c :: rest).head? = some '.' := by
          simpa using isPoint
        rw [if_neg notPoint, readFraction, if_neg isPoint]
        exact ⟨cursor, rfl, stands⟩

theorem readDigits?_eq (chars : List Char) :
    readDigits? chars =
      if chars.head?.any Char.isDigit then
        some (chars.takeWhile Char.isDigit, chars.dropWhile Char.isDigit)
      else none := by
  cases chars with
  | nil => rfl
  | cons c rest => cases digit : c.isDigit <;> simp [readDigits?, digit]

/-- The places where the digits of an exponent can begin: after its letter, and after its sign. -/
theorem exists_exponentDigits (stands : StandsBefore text (cursor + 1) rest) :
    ∃ ahead after, StandsBefore text ahead after ∧
      exponentDigits? text cursor =
        (if after.head?.any Char.isDigit then some ahead else none) ∧
      (readExponent? rest).map Prod.snd =
        if after.head?.any Char.isDigit then some (after.dropWhile Char.isDigit) else none := by
  -- After an ASCII letter the next byte is at a boundary again, and so it is after a sign.
  have plus : byteAt? text (cursor + 1) = some '+'.toUInt8 ↔ rest.head? = some '+' :=
    stands.byteAt?_eq_some_iff (by decide)
  have minus : byteAt? text (cursor + 1) = some '-'.toUInt8 ↔ rest.head? = some '-' :=
    stands.byteAt?_eq_some_iff (by decide)
  unfold exponentDigits? readExponent?
  simp only [plus, minus]
  by_cases isPlus : rest.head? = some '+'
  · obtain ⟨after, rfl⟩ := List.head?_eq_some_iff.mp isPlus
    have later : StandsBefore text (cursor + 2) after := stands.next
    refine ⟨cursor + 2, after, later, ?_, ?_⟩
    · simp [later.any_isDigitByte]
    · simp [readDigits?_eq, apply_ite]
  · by_cases isMinus : rest.head? = some '-'
    · obtain ⟨after, rfl⟩ := List.head?_eq_some_iff.mp isMinus
      have later : StandsBefore text (cursor + 2) after := stands.next
      refine ⟨cursor + 2, after, later, ?_, ?_⟩
      · simp [later.any_isDigitByte]
      · simp [readDigits?_eq, apply_ite]
    · refine ⟨cursor + 1, rest, stands, ?_, ?_⟩
      · simp [isPlus, isMinus, stands.any_isDigitByte]
      · simp [isPlus, isMinus, readDigits?_eq, apply_ite]

theorem skipExponent_moves (stands : StandsBefore text cursor chars) :
    MovesBefore text (readScale chars).2 (skipExponent text cursor) := by
  rw [skipExponent, peek_eq stands, ok_bind]
  cases chars with
  | nil => exact ⟨cursor, rfl, stands⟩
  | cons letter rest =>
      by_cases isLetter : letter = 'e' ∨ letter = 'E'
      · have oneByte : letter.utf8Size = 1 := by
          rcases isLetter with rfl | rfl <;> rfl
        obtain ⟨ahead, after, later, found, read⟩ := exists_exponentDigits (oneByte ▸ stands.next)
        have isHead : (letter :: rest).head? = some 'e' ∨ (letter :: rest).head? = some 'E' := by
          simpa using isLetter
        rw [if_pos isHead, readScale_letter isLetter, found]
        cases digits : after.head?.any Char.isDigit with
        | false =>
            rw [digits] at read
            have unread : readExponent? rest = none := by simpa using read
            rw [unread]
            exact ⟨cursor, rfl, stands⟩
        | true =>
            rw [digits] at read
            obtain ⟨⟨exponent, last⟩, exponentRead, isLast⟩ := Option.map_eq_some_iff.mp read
            obtain rfl : last = after.dropWhile Char.isDigit := isLast
            rw [exponentRead]
            simp only [if_true, moveTo_eq later, ok_bind]
            exact skipWhile_moves later Char.isDigit
      · have notHead :
            ¬((letter :: rest).head? = some 'e' ∨ (letter :: rest).head? = some 'E') := by
          simpa using isLetter
        rw [if_neg notHead, readScale_other isLetter]
        exact ⟨cursor, rfl, stands⟩

/-- A number that starts at the cursor is the numeral that the text begins with. -/
theorem readNumber_moves {numeral : Numeral} (stands : StandsBefore text start chars)
    (scanned : Numeral.scan? chars = some (numeral, rest)) :
    ∃ stop, readNumber text start = .ok (numeral.value, stop) ∧ StandsBefore text stop rest := by
  obtain ⟨whole, wholeMoved, afterWhole⟩ := skipWhile_moves stands Char.isDigit
  obtain ⟨fraction, fractionMoved, afterFraction⟩ := skipFraction_moves afterWhole
  obtain ⟨stop, moved, later⟩ := skipExponent_moves afterFraction
  have isRest : (readScale (readFraction (chars.dropWhile Char.isDigit)).2).2 = rest := by
    unfold Numeral.scan? at scanned
    dsimp only at scanned
    split at scanned
    · cases scanned
    · cases scanned
      rfl
  rw [isRest] at later
  obtain ⟨number, rfl, rfl⟩ := exists_numberText_of_scan? scanned
  refine ⟨stop, ?_, later⟩
  simp only [readNumber, wholeMoved, fractionMoved, moved, ok_bind, slice_eq stands later,
    String.toList_ofList, number?_numberText number]

end Numbers

section Names

theorem readName_agrees (arity? : String → Option Nat)
    (stands : StandsBefore text start (c :: rest)) (nameStart : Text.isNameChar c = true) :
    Agrees text (readName text arity? start (start + c.utf8Size))
      (.ok (Lexeme.readName arity? (c :: rest))) := by
  obtain ⟨stop, moved, later⟩ := skipWhile_moves stands.next Text.isNameChar
  rw [← List.dropWhile_cons_of_pos nameStart] at later
  simp only [readName, Lexeme.readName, moved, slice_takeWhile stands later, ok_bind]
  generalize String.ofList ((c :: rest).takeWhile Text.isNameChar) = name
  cases Lexeme.keyword? name with
  | some value => exact .read later
  | none =>
      simp only [peek_eq later, ok_bind]
      generalize (c :: rest).dropWhile Text.isNameChar = afterName at later
      split
      · next isCall =>
        obtain ⟨after, rfl⟩ := List.head?_eq_some_iff.mp isCall.1
        have afterCall : StandsBefore text (stop + 1) after := later.next
        simp only [if_pos isCall.2, moveTo_eq afterCall, ok_bind]
        exact .read afterCall
      · next noCall =>
        split
        · have noFunction : ¬(arity? name).isSome := fun isFunction => noCall ⟨rfl, isFunction⟩
          rw [if_neg noFunction]
          exact .read later
        · exact .read later

theorem readCapture_agrees (stands : StandsBefore text start ('$' :: rest)) :
    Agrees text (readCapture text start (start + 1)) (Lexeme.readCapture rest) := by
  obtain ⟨stop, moved, later⟩ := skipWhile_moves stands.next Text.isNameChar
  rw [← List.takeWhile_append_dropWhile (p := Text.isNameChar) (l := rest),
    ← List.cons_append] at stands
  have isStop : stop = start + (1 + byteLength (rest.takeWhile Text.isNameChar)) := by
    rw [stands.eq_add later, Text.byteLength_cons]
    rfl
  have moved : skipWhile text Text.isNameChar (start + 1) = .ok stop := moved
  simp only [readCapture, Lexeme.readCapture, moved, slice_eq stands later, ok_bind]
  cases named : rest.takeWhile Text.isNameChar with
  | nil =>
      rw [named, Text.byteLength_nil] at isStop
      rw [if_pos (by omega)]
      exact .failed _
  | cons first others =>
      have filled := Text.byteLength_pos (List.cons_ne_nil first others)
      rw [named] at isStop
      rw [if_neg (by omega)]
      exact .read later

end Names

section Signs

theorem ascii_of_doubleSign? {first : Char} {second : Option Char} {op : BinaryOp}
    (found : Lexeme.doubleSign? first second = some op) :
    ∃ c, second = some c ∧ c.utf8Size = 1 := by
  have isMark : second = some '&' ∨ second = some '|' ∨ second = some '~' ∨ second = some '=' := by
    by_contra noMark
    simp only [not_or] at noMark
    simp [Lexeme.doubleSign?, noMark] at found
  rcases isMark with rfl | rfl | rfl | rfl <;> exact ⟨_, rfl, rfl⟩

theorem ascii_of_readSign {lexeme : Lexeme} (read : Lexeme.readSign c chars = .ok (lexeme, rest)) :
    c.utf8Size = 1 := by
  have table : Lexeme.signs.all (·.utf8Size == 1) = true := by decide
  exact beq_iff_eq.mp (List.all_eq_true.mp table c (Lexeme.mem_signs_of_readSign read))

theorem readSign_agrees (stands : StandsBefore text start (c :: rest)) :
    Agrees text (readSign text c start) (Lexeme.readSign c rest) := by
  rw [readSign, peekSecond_eq stands, ok_bind]
  cases double : Lexeme.doubleSign? c rest.head? with
  | some op =>
      have read : Lexeme.readSign c rest = .ok (.operator (.binary op), rest.tail) := by
        rw [Lexeme.readSign, double]
      obtain ⟨second, isHead, oneByte⟩ := ascii_of_doubleSign? double
      have places : start + 2 = start + c.utf8Size + second.utf8Size := by
        rw [ascii_of_readSign read, oneByte]
      rw [read, places]
      obtain ⟨after, rfl⟩ := List.head?_eq_some_iff.mp isHead
      have later := stands.next.next
      simp only [moveTo_eq later, ok_bind]
      exact .read later
  | none =>
      cases single : Lexeme.singleSign? c with
      | some sign =>
          have read : Lexeme.readSign c rest = .ok (.operator sign, rest) := by
            rw [Lexeme.readSign, double, single]
          rw [read, ← ascii_of_readSign read]
          have later := stands.next
          simp only [moveTo_eq later, ok_bind]
          exact .read later
      | none =>
          rw [Lexeme.readSign, double, single]
          exact .failed _

theorem readNumberOrSign_agrees (stands : StandsBefore text start (c :: rest)) :
    Agrees text (readNumberOrSign text c start) (Lexeme.readNumber c rest) := by
  unfold readNumberOrSign Lexeme.readNumber
  rw [peekSecond_eq stands, ok_bind]
  cases scanned : Decimal.Numeral.scan? (c :: rest) with
  | some result =>
      have starts : StartsNumeral (c :: rest) := by
        rw [← Decimal.scan?_isSome_iff, scanned]
        rfl
      obtain ⟨stop, read, later⟩ := readNumber_moves stands scanned
      rw [StartsNumeral] at starts
      rw [if_pos starts, read]
      exact .read later
  | none =>
      have noStart : ¬StartsNumeral (c :: rest) := by
        rw [← Decimal.scan?_isSome_iff, scanned]
        exact Bool.false_ne_true
      rw [StartsNumeral] at noStart
      rw [if_neg noStart]
      exact readSign_agrees stands

end Signs

theorem Agrees.ite {α : Type} {condition : Prop} [Decidable condition]
    {first second : Except Halt (α × Nat)} {one other : Except Error (α × List Char)}
    (holds : condition → Agrees text first one) (fails : ¬condition → Agrees text second other) :
    Agrees text (if condition then first else second) (if condition then one else other) := by
  by_cases decided : condition
  · rw [if_pos decided, if_pos decided]
    exact holds decided
  · rw [if_neg decided, if_neg decided]
    exact fails decided

/-- A lexeme that starts at the cursor is read as it is from the list of the characters. -/
theorem readAt_agrees (arity? : String → Option Nat) (mode : LexMode)
    (stands : StandsBefore text start (c :: rest)) :
    Agrees text (readAt text arity? mode c start (start + c.utf8Size))
      (Lexeme.readAt arity? mode c rest) := by
  unfold readAt Lexeme.readAt
  refine .ite (fun _ => readQuoted_agrees c stands.next) fun _ => ?_
  refine .ite (fun _ => .read stands.next) fun _ => ?_
  refine .ite (fun _ => .failed _) fun _ => ?_
  refine .ite (fun _ => readLiteral_agrees stands) fun _ => ?_
  refine .ite (fun _ => .read stands.next) fun _ => ?_
  refine .ite (fun _ => readPattern_agrees stands.next) fun _ => ?_
  refine .ite (fun _ => .read stands.next) fun _ => ?_
  refine .ite (fun _ => .read stands.next) fun _ => ?_
  refine .ite (fun _ => .read stands.next) fun _ => ?_
  refine .ite (fun isDollar => ?_) fun _ => ?_
  · subst isDollar
    exact readCapture_agrees stands
  · exact .ite
      (fun lower => readName_agrees arity? stands (Lexeme.isNameChar_of_isLower lower))
      fun _ => readNumberOrSign_agrees stands

end Cursor

end Calculator
