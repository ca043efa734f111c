import Calculator.Literal.Number
import Calculator.Value.Basic

/-!
# Reading array and object literals

The text of a literal is JSON.  Arrays and objects may nest 127 deep, and the last entry for a key
wins.  Every reader takes the text that is left and returns a value with what follows it.
-/

namespace Calculator.Literal

/-- How deep arrays and objects may nest. -/
def deepestNesting : Nat := 127

/-- Decide whether a character is a blank between the parts of a literal. -/
def isSeparatorBlank (c : Char) : Bool :=
  c == ' ' || c == '\n' || c == '\t' || c == '\r'

/-- Remove blanks between the parts of a literal. -/
def skip (chars : List Char) : List Char :=
  chars.dropWhile isSeparatorBlank

def hexValue? (c : Char) : Option Nat :=
  if c.isDigit then some (c.toNat - 48)
  else if 'a' ≤ c ∧ c ≤ 'f' then some (c.toNat - 87)
  else if 'A' ≤ c ∧ c ≤ 'F' then some (c.toNat - 55)
  else none

/-- Read the four hexadecimal digits of an escape. -/
def readHex (chars : List Char) : Except Stop (Nat × List Char) :=
  if byteLength (chars.take 4) < 4 then .error (stopBefore .endInString [])
  else
    match chars with
    | first :: second :: third :: fourth :: rest =>
      match hexValue? first, hexValue? second, hexValue? third, hexValue? fourth with
      | some a, some b, some c, some d => .ok (((a * 16 + b) * 16 + c) * 16 + d, rest)
      | _, _, _, _ => .error (stopAfter 4 .invalidEscape chars)
    | _ => .error (stopAfter 4 .invalidEscape chars)

/-- Read the second half of a surrogate pair. -/
def readLowSurrogate (high : Nat) (chars : List Char) : Except Stop (Char × List Char) :=
  match chars with
  | [] => .error (stopBefore .endInString [])
  | '\\' :: [] => .error (stopBefore .endInString [])
  | '\\' :: 'u' :: rest =>
    match readHex rest with
    | .error stop => .error stop
    | .ok (low, remaining) =>
      if 0xdc00 ≤ low ∧ low ≤ 0xdfff then
        .ok (Char.ofNat (0x10000 + (high - 0xd800) * 0x400 + (low - 0xdc00)), remaining)
      else .error (stopBefore .loneSurrogate remaining)
  | '\\' :: rest => .error (stopAt .unfinishedSurrogatePair rest)
  | rest => .error (stopAt .unfinishedSurrogatePair rest)

/-- The character that a letter after a backslash stands for. -/
def escapedChar? (c : Char) : Option Char :=
  if c = '"' ∨ c = '\\' ∨ c = '/' then some c
  else if c = 'b' then some '\x08'
  else if c = 'f' then some '\x0c'
  else if c = 'n' then some '\n'
  else if c = 'r' then some '\r'
  else if c = 't' then some '\t'
  else none

/-- Read an escape after its backslash. -/
def readEscape (chars : List Char) : Except Stop (Char × List Char) :=
  match chars with
  | [] => .error (stopBefore .endInString [])
  | c :: rest =>
    if c = 'u' then
      match readHex rest with
      | .error stop => .error stop
      | .ok (code, remaining) =>
        if 0xdc00 ≤ code ∧ code ≤ 0xdfff then .error (stopBefore .loneSurrogate remaining)
        else if 0xd800 ≤ code ∧ code ≤ 0xdbff then readLowSurrogate code remaining
        else .ok (Char.ofNat code, remaining)
    else
      match escapedChar? c with
      | some escaped => .ok (escaped, rest)
      | none => .error (stopAt .invalidEscape chars)

theorem readHex_shorter {chars rest : List Char} {code : Nat}
    (read : readHex chars = .ok (code, rest)) : rest.length < chars.length := by
  unfold readHex at read
  split at read
  · cases read
  · split at read
    · split at read
      · cases read
        simp only [List.length_cons]
        omega
      · cases read
    · cases read

theorem readLowSurrogate_shorter {high : Nat} {chars rest : List Char} {c : Char}
    (read : readLowSurrogate high chars = .ok (c, rest)) : rest.length < chars.length := by
  unfold readLowSurrogate at read
  split at read
  · cases read
  · cases read
  · split at read
    · cases read
    · next equal =>
      have shorter := readHex_shorter equal
      split at read
      · simp only [Except.ok.injEq, Prod.mk.injEq] at read
        simp only [← read.2, List.length_cons]
        omega
      · cases read
  · cases read
  · cases read

theorem readEscape_shorter {chars rest : List Char} {c : Char}
    (read : readEscape chars = .ok (c, rest)) : rest.length < chars.length := by
  unfold readEscape at read
  split at read
  · cases read
  · split at read
    · split at read
      · cases read
      · next equal =>
        have shorter := readHex_shorter equal
        split at read
        · cases read
        · split at read
          · have shorterLow := readLowSurrogate_shorter read
            simp only [List.length_cons]
            omega
          · simp only [Except.ok.injEq, Prod.mk.injEq] at read
            simp only [← read.2, List.length_cons]
            omega
    · split at read
      · cases read
        simp
      · cases read

/-- Read the characters of a string after its opening quotation mark. -/
def readChars (chars : List Char) : Except Stop (List Char × List Char) :=
  match chars with
  | [] => .error (stopBefore .endInString [])
  | '"' :: rest => .ok ([], rest)
  | '\\' :: rest =>
    match _read : readEscape rest with
    | .error stop => .error stop
    | .ok (c, remaining) =>
      match readChars remaining with
      | .error stop => .error stop
      | .ok (later, after) => .ok (c :: later, after)
  | c :: rest =>
    if c.toNat < 32 then .error (stopAt .controlCharacter (c :: rest))
    else
      match readChars rest with
      | .error stop => .error stop
      | .ok (later, after) => .ok (c :: later, after)
termination_by chars.length
decreasing_by
  · have shorter := readEscape_shorter _read
    simp only [List.length_cons]
    omega
  · simp

def readKeyword (value : Value) : List Char → List Char → Except Stop (Value × List Char)
  | [], rest => .ok (value, rest)
  | _ :: _, [] => .error (stopBefore .endInValue [])
  | expected :: later, c :: rest =>
    if c = expected then readKeyword value later rest
    else .error (stopAt .keywordExpected (c :: rest))

/-- Read a key and the colon after it, at the key's opening quotation mark. -/
def readKey (chars : List Char) : Except Stop (String × List Char) :=
  match chars with
  | '"' :: rest =>
    match readChars rest with
    | .error stop => .error stop
    | .ok (key, after) =>
      match skip after with
      | [] => .error (stopBefore .endInObject [])
      | ':' :: remaining => .ok (String.ofList key, remaining)
      | other => .error (stopAt .colonExpected other)
  | [] => .error (stopBefore .endInValue [])
  | other => .error (stopAt .keyExpected other)

mutual

/-- Read a value.  The first argument bounds the number of nested reads, the second is the number
of arrays and objects that may still be opened. -/
def readValue : Nat → Nat → List Char → Except Stop (Value × List Char)
  | 0, _, chars => .error (stopBefore .endInValue chars)
  | fuel + 1, depth, chars =>
    match skip chars with
    | [] => .error (stopBefore .endInValue [])
    | 'n' :: rest => readKeyword .null ['u', 'l', 'l'] rest
    | 't' :: rest => readKeyword (.boolean true) ['r', 'u', 'e'] rest
    | 'f' :: rest => readKeyword (.boolean false) ['a', 'l', 's', 'e'] rest
    | '-' :: rest => (readNumber true rest).map fun (x, after) => (.number x, after)
    | '"' :: rest =>
      (readChars rest).map fun (text, after) => (.string (String.ofList text), after)
    | '[' :: rest =>
      match depth with
      | 0 => .error (stopAt .nestedTooDeep ('[' :: rest))
      | inner + 1 =>
        match skip rest with
        | [] => .error (stopBefore .endInArray [])
        | ']' :: after => .ok (.array [], after)
        | items =>
          (readItems fuel inner items).map fun (items, after) => (.array items, after)
    | '\x7b' :: rest =>
      match depth with
      | 0 => .error (stopAt .nestedTooDeep ('\x7b' :: rest))
      | inner + 1 =>
        match skip rest with
        | [] => .error (stopBefore .endInObject [])
        | '\x7d' :: after => .ok (.object [], after)
        | entries =>
          (readEntries fuel inner entries).map fun (bindings, after) =>
            (.object (Entries.ofList bindings), after)
    | c :: rest =>
      if c.isDigit then
        (readNumber false (c :: rest)).map fun (x, after) => (.number x, after)
      else .error (stopAt .valueExpected (c :: rest))

/-- Read the items of an array, at the first of them, and the closing bracket. -/
def readItems : Nat → Nat → List Char → Except Stop (List Value × List Char)
  | 0, _, chars => .error (stopBefore .endInArray chars)
  | fuel + 1, depth, chars =>
    match readValue fuel depth chars with
    | .error stop => .error stop
    | .ok (item, after) =>
      match skip after with
      | [] => .error (stopBefore .endInArray [])
      | ']' :: rest => .ok ([item], rest)
      | ',' :: rest =>
        match skip rest with
        | [] => .error (stopBefore .endInValue [])
        | ']' :: others => .error (stopAt .trailingComma (']' :: others))
        | next => (readItems fuel depth next).map fun (items, rest) => (item :: items, rest)
      | other => .error (stopAt .itemSeparatorExpected other)

/-- Read the entries of an object, at the first key, and the closing brace. -/
def readEntries : Nat → Nat → List Char → Except Stop (List (String × Value) × List Char)
  | 0, _, chars => .error (stopBefore .endInObject chars)
  | fuel + 1, depth, chars =>
    match readKey chars with
    | .error stop => .error stop
    | .ok (key, afterKey) =>
      match readValue fuel depth afterKey with
      | .error stop => .error stop
      | .ok (value, after) =>
        match skip after with
        | [] => .error (stopBefore .endInObject [])
        | '\x7d' :: rest => .ok ([(key, value)], rest)
        | ',' :: rest =>
          match skip rest with
          | '\x7d' :: others => .error (stopAt .trailingComma ('\x7d' :: others))
          | next =>
            (readEntries fuel depth next).map fun (bindings, rest) =>
              ((key, value) :: bindings, rest)
        | other => .error (stopAt .entrySeparatorExpected other)

end

/-- Read a whole text as one value.  Every two nested reads take a character, which bounds their
number. -/
def readWhole (chars : List Char) : Except Stop Value :=
  match readValue (2 * chars.length + 2) deepestNesting chars with
  | .error stop => .error stop
  | .ok (value, after) =>
    match skip after with
    | [] => .ok value
    | other => .error (stopAt .trailingCharacters other)

def read (text : String) : Except Fault Value :=
  (readWhole text.toList).mapError fun stop => stop.fault text.toList

end Calculator.Literal
