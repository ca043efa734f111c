import Calculator.Proofs.LexemeSequence
import Calculator.SymbolTable

/-!
# How operands are written

An operand is written as a number, a quoted string, a balanced text in brackets, a keyword, a name,
a capture or a regular expression.  The descriptions here do not mention how lexemes are read.  The
main statement is that a written operand is read back, where a blank or the end of the text follows
it.
-/

namespace Calculator

section Runs

variable {test : Char → Bool} {chars rest : List Char}

theorem takeWhile_of_stop (all : ∀ c ∈ chars, test c = true)
    (stops : ∀ c ∈ rest.head?, test c = false) : (chars ++ rest).takeWhile test = chars := by
  rw [List.takeWhile_append_of_pos all]
  cases rest with
  | nil => simp
  | cons c later => simp [stops c rfl]

theorem dropWhile_of_stop (all : ∀ c ∈ chars, test c = true)
    (stops : ∀ c ∈ rest.head?, test c = false) : (chars ++ rest).dropWhile test = rest := by
  rw [List.dropWhile_append_of_pos all]
  cases rest with
  | nil => rfl
  | cons c later => simp [stops c rfl]

end Runs

/-- A lexeme may end before a blank or at the end of the text. -/
def EndsLexeme (rest : List Char) : Prop :=
  ∀ c ∈ rest.head?, c = ' '

/-- A number may end before anything but a point and the characters of names. -/
def EndsNumber (rest : List Char) : Prop :=
  ∀ c ∈ rest.head?, Text.isNameChar c = false ∧ c ≠ '.'

theorem EndsNumber.not_isDigit {rest : List Char} (ends : EndsNumber rest) :
    ∀ c ∈ rest.head?, c.isDigit = false := by
  intro c isHead
  have noNameChar := (ends c isHead).1
  simp only [Text.isNameChar, Char.isAlphanum, Bool.or_eq_false_iff] at noNameChar
  exact noNameChar.1.2

theorem EndsLexeme.endsNumber {rest : List Char} (ends : EndsLexeme rest) : EndsNumber rest := by
  intro c isHead
  rw [ends c isHead]
  decide

theorem EndsLexeme.stops {rest : List Char} (ends : EndsLexeme rest) {test : Char → Bool}
    (blank : test ' ' = false) : ∀ c ∈ rest.head?, test c = false := by
  intro c isHead
  rw [ends c isHead]
  exact blank

/-- The decimal exponent of a number. -/
structure Scale where
  letter : Char
  sign : List Char
  digits : List Char
  isLetter : letter = 'e' ∨ letter = 'E'
  isSign : sign = [] ∨ sign = ['+'] ∨ sign = ['-']
  areDigits : ∀ c ∈ digits, c.isDigit = true
  nonempty : digits ≠ []

/-- A number: digits, perhaps with a point among them, and perhaps an exponent. -/
structure NumberText where
  whole : List Char
  fraction : Option (List Char)
  scale : Option Scale
  wholeDigits : ∀ c ∈ whole, c.isDigit = true
  fractionDigits : ∀ digits ∈ fraction, ∀ c ∈ digits, c.isDigit = true
  nonempty : whole ≠ [] ∨ fraction.getD [] ≠ []

namespace Scale

def chars (scale : Scale) : List Char :=
  scale.letter :: (scale.sign ++ scale.digits)

def value (scale : Scale) : Int :=
  if scale.sign = ['-'] then -(Decimal.digitsValue scale.digits : Int)
  else Decimal.digitsValue scale.digits

theorem letter_ne (scale : Scale) : scale.letter.isDigit = false ∧ scale.letter ≠ '.' := by
  rcases scale.isLetter with isLetter | isLetter <;>
    (rw [isLetter]; decide)

end Scale

namespace NumberText

/-- The point and the digits after it. -/
def fractionChars (text : NumberText) : List Char :=
  match text.fraction with
  | some digits => '.' :: digits
  | none => []

def scaleChars (text : NumberText) : List Char :=
  match text.scale with
  | some scale => scale.chars
  | none => []

def chars (text : NumberText) : List Char :=
  text.whole ++ (text.fractionChars ++ text.scaleChars)

/-- The number that is written. -/
def numeral (text : NumberText) : Decimal.Numeral :=
  { whole := text.whole
    fraction := text.fraction.getD []
    exponent := (text.scale.map Scale.value).getD 0 }

end NumberText

section Numbers

open Decimal

variable {rest : List Char}

theorem readDigits?_of_stop {digits : List Char} (areDigits : ∀ c ∈ digits, c.isDigit = true)
    (nonempty : digits ≠ []) (stops : ∀ c ∈ rest.head?, c.isDigit = false) :
    readDigits? (digits ++ rest) = some (digits, rest) := by
  unfold readDigits?
  rw [takeWhile_of_stop areDigits stops, dropWhile_of_stop areDigits stops]
  cases digits with
  | nil => exact absurd rfl nonempty
  | cons first later => rfl

theorem readExponent?_of_scale (scale : Scale) (stops : ∀ c ∈ rest.head?, c.isDigit = false) :
    readExponent? (scale.sign ++ (scale.digits ++ rest)) = some (scale.value, rest) := by
  have digitsRead := readDigits?_of_stop scale.areDigits scale.nonempty stops
  unfold readExponent? Scale.value
  rcases scale.isSign with noSign | plus | minus
  · obtain ⟨first, later, digitsEqual⟩ := List.exists_cons_of_ne_nil scale.nonempty
    have isDigit : first.isDigit = true :=
      scale.areDigits first (by rw [digitsEqual]; exact List.mem_cons_self)
    have notMinus : first ≠ '-' := by
      rintro rfl
      cases isDigit
    have notPlus : first ≠ '+' := by
      rintro rfl
      cases isDigit
    rw [digitsEqual, List.cons_append] at digitsRead
    simp [noSign, digitsEqual, notMinus, notPlus, digitsRead]
  · simp [plus, digitsRead]
  · simp [minus, digitsRead]

theorem readScale_of_endsNumber (ends : EndsNumber rest) : readScale rest = (0, rest) := by
  cases rest with
  | nil => rfl
  | cons c later =>
      have noLetter : ¬(c = 'e' ∨ c = 'E') := by
        have noNameChar := (ends c rfl).1
        rintro (rfl | rfl) <;> cases noNameChar
      exact if_neg noLetter

section Stops

variable (text : NumberText) (stops : ∀ c ∈ rest.head?, c.isDigit = false ∧ c ≠ '.')

include stops

theorem readScale_of_stop (unscaled : text.scale = none → readScale rest = (0, rest)) :
    readScale (text.scaleChars ++ rest) = ((text.scale.map Scale.value).getD 0, rest) := by
  unfold NumberText.scaleChars
  cases hasScale : text.scale with
  | none => exact unscaled hasScale
  | some scale =>
      have exponentRead := readExponent?_of_scale scale fun c isHead => (stops c isHead).1
      simp only [Scale.chars, List.cons_append, List.append_assoc, readScale, if_pos scale.isLetter,
        exponentRead]
      rfl

/-- The digits of a number end before its exponent. -/
theorem scaleChars_stops :
    ∀ c ∈ (text.scaleChars ++ rest).head?, c.isDigit = false ∧ c ≠ '.' := by
  intro c isHead
  unfold NumberText.scaleChars at isHead
  cases hasScale : text.scale with
  | none =>
      rw [hasScale] at isHead
      exact stops c isHead
  | some scale =>
      rw [hasScale] at isHead
      cases isHead
      exact scale.letter_ne

theorem readFraction_of_stop :
    readFraction (text.fractionChars ++ (text.scaleChars ++ rest)) =
      (text.fraction.getD [], text.scaleChars ++ rest) := by
  have stops := scaleChars_stops text stops
  unfold NumberText.fractionChars
  cases hasFraction : text.fraction with
  | none =>
      unfold readFraction
      split
      · next c later equal =>
        have isHead : c ∈ (text.scaleChars ++ rest).head? := by
          rw [List.nil_append] at equal
          rw [equal]
          rfl
        rw [if_neg (stops c isHead).2]
        rfl
      · next equal =>
        rw [List.nil_append] at equal
        rw [equal]
        rfl
  | some digits =>
      have areDigits := text.fractionDigits digits hasFraction
      simp only [List.cons_append, readFraction, if_true,
        takeWhile_of_stop areDigits fun c isHead => (stops c isHead).1,
        dropWhile_of_stop areDigits fun c isHead => (stops c isHead).1]
      rfl

/-- A number is read up to where neither its digits nor an exponent go on. -/
theorem scan?_of_stop (unscaled : text.scale = none → readScale rest = (0, rest)) :
    Numeral.scan? (text.chars ++ rest) = some (text.numeral, rest) := by
  have wholeStops : ∀ c ∈ (text.fractionChars ++ (text.scaleChars ++ rest)).head?,
      c.isDigit = false := by
    intro c isHead
    unfold NumberText.fractionChars at isHead
    cases hasFraction : text.fraction with
    | none =>
        rw [hasFraction] at isHead
        exact (scaleChars_stops text stops c isHead).1
    | some digits =>
        rw [hasFraction] at isHead
        cases isHead
        rfl
  have filled : (text.whole.isEmpty && (text.fraction.getD []).isEmpty) = false := by
    rcases text.nonempty with hasWhole | hasFraction
    · simp [hasWhole]
    · simp [hasFraction]
  simp only [NumberText.chars, List.append_assoc, Numeral.scan?,
    takeWhile_of_stop text.wholeDigits wholeStops, dropWhile_of_stop text.wholeDigits wholeStops,
    readFraction_of_stop text stops, readScale_of_stop text stops unscaled, filled]
  rfl

end Stops

theorem scan?_numberText (text : NumberText) (ends : EndsNumber rest) :
    Numeral.scan? (text.chars ++ rest) = some (text.numeral, rest) :=
  scan?_of_stop text (fun c isHead => ⟨ends.not_isDigit c isHead, (ends c isHead).2⟩)
    fun _ => readScale_of_endsNumber ends

/-- A number begins with a digit or with its point. -/
theorem NumberText.exists_chars_eq_cons (text : NumberText) :
    ∃ c tail, text.chars = c :: tail ∧ (c.isDigit = true ∨ c = '.') := by
  unfold NumberText.chars NumberText.fractionChars
  cases whole : text.whole with
  | cons first later =>
      exact ⟨first, _, rfl,
        Or.inl (text.wholeDigits first (by rw [whole]; exact List.mem_cons_self))⟩
  | nil =>
      cases hasFraction : text.fraction with
      | some digits => exact ⟨'.', _, rfl, Or.inr rfl⟩
      | none =>
          have nonempty := text.nonempty
          simp [whole, hasFraction] at nonempty

end Numbers

/-- A character of a delimited text, perhaps behind a backslash. -/
inductive Glyph
  | plain (c : Char)
  | escaped (c : Char)

namespace Glyph

def chars : Glyph → List Char
  | plain c => [c]
  | escaped c => ['\\', c]

/-- A glyph does not end the text that it stands in. -/
def FitsIn (delimiter : Char) : Glyph → Prop
  | plain c => c ≠ delimiter ∧ c ≠ '\\'
  | escaped _ => True

/-- The character that a glyph of a string stands for. -/
def meaning : Glyph → Char
  | plain c => c
  | escaped c => Lexeme.unescape c

/-- What a glyph of a regular expression stands for: only an escaped slash loses its backslash. -/
def source : Glyph → List Char
  | plain c => [c]
  | escaped c => if c = '/' then [c] else ['\\', c]

end Glyph

/-- The text of several glyphs. -/
def glyphChars (glyphs : List Glyph) : List Char :=
  glyphs.flatMap Glyph.chars

theorem glyphChars_cons (glyph : Glyph) (later : List Glyph) :
    glyphChars (glyph :: later) = glyph.chars ++ glyphChars later :=
  rfl

section Delimited

variable {glyphs : List Glyph} {rest : List Char}

theorem readString?_cons {c : Char} (notBackslash : c ≠ '\\') (quote : Char) (rest : List Char) :
    Lexeme.readString? quote (c :: rest) =
      if c = quote then some ([], rest)
      else (Lexeme.readString? quote rest).map fun (text, after) => (c :: text, after) := by
  rw [Lexeme.readString?]
  · exact fun isBackslash _ => notBackslash isBackslash
  · exact fun _ _ isBackslash _ => notBackslash isBackslash

theorem readRegex?_cons {c : Char} (notBackslash : c ≠ '\\') (rest : List Char) :
    Lexeme.readRegex? (c :: rest) =
      if c = '/' then some ([], rest)
      else (Lexeme.readRegex? rest).map fun (source, after) => (c :: source, after) := by
  rw [Lexeme.readRegex?]
  · exact fun isBackslash _ => notBackslash isBackslash
  · exact fun _ _ isBackslash _ => notBackslash isBackslash

theorem readString?_glyphs {quote : Char} (notEscape : quote ≠ '\\')
    (fits : ∀ glyph ∈ glyphs, glyph.FitsIn quote) :
    Lexeme.readString? quote (glyphChars glyphs ++ quote :: rest) =
      some (glyphs.map Glyph.meaning, rest) := by
  induction glyphs with
  | nil =>
      rw [glyphChars, List.flatMap_nil, List.nil_append, readString?_cons notEscape, if_pos rfl]
      rfl
  | cons glyph later ih =>
      have laterRead := ih fun other isOther => fits other (List.mem_cons_of_mem _ isOther)
      rw [glyphChars_cons]
      cases glyph with
      | escaped c =>
          simp only [Glyph.chars, List.cons_append, List.nil_append, Lexeme.readString?, laterRead]
          rfl
      | plain c =>
          obtain ⟨notQuote, notBackslash⟩ : c ≠ quote ∧ c ≠ '\\' :=
            fits (.plain c) List.mem_cons_self
          rw [Glyph.chars, List.append_assoc, List.singleton_append,
            readString?_cons notBackslash, if_neg notQuote, laterRead]
          rfl

theorem readRegex?_glyphs (fits : ∀ glyph ∈ glyphs, glyph.FitsIn '/') :
    Lexeme.readRegex? (glyphChars glyphs ++ '/' :: rest) =
      some (glyphs.flatMap Glyph.source, rest) := by
  induction glyphs with
  | nil =>
      rw [glyphChars, List.flatMap_nil, List.nil_append, readRegex?_cons (by decide), if_pos rfl]
      rfl
  | cons glyph later ih =>
      have laterRead := ih fun other isOther => fits other (List.mem_cons_of_mem _ isOther)
      rw [glyphChars_cons]
      cases glyph with
      | escaped c =>
          simp only [Glyph.chars, List.cons_append, List.nil_append, Lexeme.readRegex?, laterRead,
            Option.map_some, List.flatMap_cons, Glyph.source]
          split <;> rfl
      | plain c =>
          obtain ⟨notSlash, notBackslash⟩ : c ≠ '/' ∧ c ≠ '\\' :=
            fits (.plain c) List.mem_cons_self
          rw [Glyph.chars, List.append_assoc, List.singleton_append,
            readRegex?_cons notBackslash, if_neg notSlash, laterRead]
          rfl

end Delimited

def IsQuote (c : Char) : Prop :=
  c = '"' ∨ c = '\x27'

def IsOpening (c : Char) : Prop :=
  c = '[' ∨ c = '\x7b'

def IsClosing (c : Char) : Prop :=
  c = ']' ∨ c = '\x7d'

/-- A text in which brackets outside of quotation marks match.  Brackets of either kind match each
other. -/
inductive Balanced : List Char → Prop
  | nil : Balanced []
  | plain {c : Char} {rest : List Char}
      (ordinary : ¬IsQuote c ∧ ¬IsOpening c ∧ ¬IsClosing c) (after : Balanced rest) :
      Balanced (c :: rest)
  | quoted {quote : Char} {glyphs : List Glyph} {rest : List Char} (isQuote : IsQuote quote)
      (fits : ∀ glyph ∈ glyphs, glyph.FitsIn quote) (after : Balanced rest) :
      Balanced (quote :: (glyphChars glyphs ++ quote :: rest))
  | nested {opening closing : Char} {inside rest : List Char} (opens : IsOpening opening)
      (closes : IsClosing closing) (within : Balanced inside) (after : Balanced rest) :
      Balanced (opening :: (inside ++ closing :: rest))

section Literals

open Lexeme (splitBalanced? QuoteState)

variable {depth : Nat} {rest : List Char}

/-- Put characters before the first part of a cut. -/
def prepend (chars : List Char) (cut : Option (List Char × List Char)) :
    Option (List Char × List Char) :=
  cut.map fun (raw, after) => (chars ++ raw, after)

theorem prepend_prepend (first second : List Char) (cut : Option (List Char × List Char)) :
    prepend first (prepend second cut) = prepend (first ++ second) cut := by
  cases cut <;> simp [prepend]

theorem prepend_nil (cut : Option (List Char × List Char)) : prepend [] cut = cut := by
  cases cut <;> rfl

/-- A character that is no bracket outside of quotation marks only changes the state. -/
theorem splitBalanced?_step {state : QuoteState} {c : Char}
    (noBracket : state = .outside → ¬IsOpening c ∧ ¬IsClosing c) :
    splitBalanced? state depth (c :: rest) =
      prepend [c] (splitBalanced? (state.next c) depth rest) := by
  have notOpening : ¬(state = .outside ∧ (c = '[' ∨ c = '\x7b')) :=
    fun opens => (noBracket opens.1).1 opens.2
  have notClosing : ¬(state = .outside ∧ (c = ']' ∨ c = '\x7d')) :=
    fun closes => (noBracket closes.1).2 closes.2
  rw [splitBalanced?, if_neg notOpening, if_neg notClosing]
  rfl

theorem splitBalanced?_inside {quote c : Char} :
    splitBalanced? (.inside quote) depth (c :: rest) =
      prepend [c] (splitBalanced? ((QuoteState.inside quote).next c) depth rest) :=
  splitBalanced?_step nofun

theorem splitBalanced?_escaped {quote c : Char} :
    splitBalanced? (.escaped quote) depth (c :: rest) =
      prepend [c] (splitBalanced? (.inside quote) depth rest) :=
  splitBalanced?_step nofun

theorem splitBalanced?_opening {c : Char} (opens : IsOpening c) :
    splitBalanced? .outside depth (c :: rest) =
      prepend [c] (splitBalanced? .outside (depth + 1) rest) := by
  have stays : QuoteState.outside.next c = .outside := by
    rcases opens with rfl | rfl <;> rfl
  rw [splitBalanced?, if_pos ⟨rfl, opens⟩, stays]
  rfl

theorem splitBalanced?_closing {c : Char} (closes : IsClosing c) :
    splitBalanced? .outside (depth + 2) (c :: rest) =
      prepend [c] (splitBalanced? .outside (depth + 1) rest) := by
  have stays : QuoteState.outside.next c = .outside := by
    rcases closes with rfl | rfl <;> rfl
  have notOpening : ¬(QuoteState.outside = .outside ∧ (c = '[' ∨ c = '\x7b')) := by
    rcases closes with rfl | rfl <;> decide
  rw [splitBalanced?, if_neg notOpening, if_pos ⟨rfl, closes⟩,
    if_neg (by omega : ¬depth + 2 ≤ 1), stays]
  rfl

theorem splitBalanced?_last {c : Char} (closes : IsClosing c) :
    splitBalanced? .outside 1 (c :: rest) = some ([c], rest) := by
  have notOpening : ¬(QuoteState.outside = .outside ∧ (c = '[' ∨ c = '\x7b')) := by
    rcases closes with rfl | rfl <;> decide
  rw [splitBalanced?, if_neg notOpening, if_pos ⟨rfl, closes⟩, if_pos (Nat.le_refl 1)]

theorem splitBalanced?_glyphs {quote : Char} {glyphs : List Glyph}
    (fits : ∀ glyph ∈ glyphs, glyph.FitsIn quote) :
    splitBalanced? (.inside quote) depth (glyphChars glyphs ++ rest) =
      prepend (glyphChars glyphs) (splitBalanced? (.inside quote) depth rest) := by
  induction glyphs with
  | nil =>
      rw [glyphChars, List.flatMap_nil, List.nil_append, prepend_nil]
  | cons glyph later ih =>
      have laterSplit := ih fun other isOther => fits other (List.mem_cons_of_mem _ isOther)
      rw [glyphChars_cons]
      cases glyph with
      | escaped c =>
          have escapes : (QuoteState.inside quote).next '\\' = .escaped quote := rfl
          simp only [Glyph.chars, List.cons_append, List.nil_append]
          rw [splitBalanced?_inside, escapes, splitBalanced?_escaped, laterSplit, prepend_prepend,
            prepend_prepend]
          rfl
      | plain c =>
          obtain ⟨notQuote, notBackslash⟩ : c ≠ quote ∧ c ≠ '\\' :=
            fits (.plain c) List.mem_cons_self
          have stays : (QuoteState.inside quote).next c = .inside quote := by
            simp [QuoteState.next, notQuote, notBackslash]
          simp only [Glyph.chars, List.cons_append, List.nil_append]
          rw [splitBalanced?_inside, stays, laterSplit, prepend_prepend]
          rfl

theorem splitBalanced?_balanced {inside : List Char} (balanced : Balanced inside) :
    splitBalanced? .outside (depth + 1) (inside ++ rest) =
      prepend inside (splitBalanced? .outside (depth + 1) rest) := by
  induction balanced generalizing depth rest with
  | nil => rw [List.nil_append, prepend_nil]
  | @plain c later ordinary after ih =>
      have stays : QuoteState.outside.next c = .outside := if_neg ordinary.1
      rw [List.cons_append, splitBalanced?_step fun _ => ordinary.2, stays, ih, prepend_prepend]
      rfl
  | @quoted quote glyphs later isQuote fits after ih =>
      have enters : QuoteState.outside.next quote = .inside quote := if_pos isQuote
      have noBracket : ¬IsOpening quote ∧ ¬IsClosing quote := by
        rcases isQuote with rfl | rfl <;> simp [IsOpening, IsClosing]
      have leaves : (QuoteState.inside quote).next quote = .outside := by
        rcases isQuote with rfl | rfl <;> rfl
      rw [List.cons_append, List.append_assoc, List.cons_append,
        splitBalanced?_step fun _ => noBracket, enters, splitBalanced?_glyphs fits,
        splitBalanced?_inside, leaves, ih, prepend_prepend, prepend_prepend, prepend_prepend]
      simp
  | @nested opening closing inner later opens closes within after innerIH laterIH =>
      rw [List.cons_append, List.append_assoc, List.cons_append, splitBalanced?_opening opens,
        innerIH, splitBalanced?_closing closes, laterIH, prepend_prepend, prepend_prepend,
        prepend_prepend]
      simp

/-- A text in brackets is cut off after the bracket that matches the first one. -/
theorem splitBalanced?_literal {opening closing : Char} {inside : List Char}
    (opens : IsOpening opening) (balanced : Balanced inside) (closes : IsClosing closing) :
    splitBalanced? .outside 0 (opening :: (inside ++ closing :: rest)) =
      some (opening :: (inside ++ [closing]), rest) := by
  rw [splitBalanced?_opening opens, splitBalanced?_balanced balanced, splitBalanced?_last closes]
  rfl

end Literals

/-- A text is an operand as it can be written. -/
inductive Spells : List Char → Leaf → Prop
  | number (text : NumberText) : Spells text.chars (.number text.numeral.value)
  | string {quote : Char} {glyphs : List Glyph} (isQuote : IsQuote quote)
      (fits : ∀ glyph ∈ glyphs, glyph.FitsIn quote) :
      Spells (quote :: (glyphChars glyphs ++ [quote]))
        (.string (String.ofList (glyphs.map Glyph.meaning)))
  | literal {opening closing : Char} {inside : List Char} (opens : IsOpening opening)
      (balanced : Balanced inside) (closes : IsClosing closing) :
      Spells (opening :: (inside ++ [closing]))
        (.literal (String.ofList (opening :: (inside ++ [closing]))))
  | keyword {name : String} {value : Value} (means : Lexeme.keyword? name = some value) :
      Spells name.toList (.value value)
  | var {name : String} (identifier : isIdentifier name = true)
      (free : Lexeme.keyword? name = none) : Spells name.toList (.var name)
  | capture {name : List Char} (nonempty : name ≠ [])
      (nameChars : ∀ c ∈ name, Text.isNameChar c = true) :
      Spells ('$' :: name) (.capture (String.ofList ('$' :: name)))
  | regex {glyphs : List Glyph} {flags : List Char} (fits : ∀ glyph ∈ glyphs, glyph.FitsIn '/')
      (letters : ∀ c ∈ flags, c.isAlpha = true) :
      Spells ('/' :: (glyphChars glyphs ++ '/' :: flags))
        (.regex (String.ofList (glyphs.flatMap Glyph.source)) (String.ofList flags))

/-- Decide whether an operand is a regular expression. -/
def Leaf.isRegex : Leaf → Bool
  | regex _ _ => true
  | _ => false

theorem Text.skipBlanks_cons_of_not_isBlank {c : Char} (solid : isBlank c = false)
    (rest : List Char) : skipBlanks (c :: rest) = c :: rest :=
  List.dropWhile_cons_of_neg (by rw [solid]; exact Bool.false_ne_true)

namespace Lexeme

/-- A text is read as a lexeme where a blank or the end follows it. -/
def ReadsAs (arity? : String → Option Nat) (mode : LexMode) (word : List Char)
    (lexeme : Lexeme) : Prop :=
  ∀ rest, EndsLexeme rest →
    next arity? mode (word ++ rest) = .ok (some (lexeme, word ++ rest, rest))

section FirstCharacters

variable {arity? : String → Option Nat} {mode : LexMode} {c : Char} {chars rest : List Char}

theorem not_isBlank_of_ascii (low : 33 ≤ c.toNat) (high : c.toNat < 128) :
    Text.isBlank c = false := by
  simp only [Text.isBlank, Text.blankRanges, Text.RangeTable.contains]
  simp
  omega

theorem toNat_of_isLower (lower : c.isLower = true) : 97 ≤ c.toNat ∧ c.toNat ≤ 122 := by
  have bounds : (decide ('a'.val ≤ c.val) && decide (c.val ≤ 'z'.val)) = true := lower
  simpa [UInt32.le_iff_toNat_le] using bounds

theorem toNat_of_isDigit (digit : c.isDigit = true) : 48 ≤ c.toNat ∧ c.toNat ≤ 57 := by
  have bounds : (decide ('0'.val ≤ c.val) && decide (c.val ≤ '9'.val)) = true := digit
  simpa [UInt32.le_iff_toNat_le] using bounds

theorem not_isBlank_of_isLower (lower : c.isLower = true) : Text.isBlank c = false := by
  have code := toNat_of_isLower lower
  exact not_isBlank_of_ascii (by omega) (by omega)

theorem not_isBlank_of_isDigit (digit : c.isDigit = true) : Text.isBlank c = false := by
  have code := toNat_of_isDigit digit
  exact not_isBlank_of_ascii (by omega) (by omega)

theorem not_isBlank_of_isNameChar (nameChar : Text.isNameChar c = true) :
    Text.isBlank c = false := by
  have kinds : (c.isUpper || c.isLower || c.isDigit || c == '_') = true := nameChar
  simp only [Bool.or_eq_true, beq_iff_eq] at kinds
  rcases kinds with ((upper | lower) | digit) | rfl
  · have bounds : 'A'.val ≤ c.val ∧ c.val ≤ 'Z'.val := of_decide_eq_true upper
    have code : 65 ≤ c.toNat ∧ c.toNat ≤ 90 := by
      simpa [UInt32.le_iff_toNat_le] using bounds
    exact not_isBlank_of_ascii (by omega) (by omega)
  · exact not_isBlank_of_isLower lower
  · exact not_isBlank_of_isDigit digit
  · rfl

theorem next_of_readAt {lexeme : Lexeme} (notBlank : Text.isBlank c = false)
    (read : readAt arity? mode c chars = .ok (lexeme, rest)) :
    next arity? mode (c :: chars) = .ok (some (lexeme, c :: chars, rest)) := by
  rw [next, Text.skipBlanks_cons_of_not_isBlank notBlank]
  simp only [read]

/-- The characters with which no number, name or operator but the division sign starts. -/
def marks : List Char :=
  ['"', '\x27', '[', '\x7b', ']', '\x7d', '/', '(', ')', ',', '$']

theorem readAt_of_not_mem_marks (ordinary : c ∉ marks) :
    readAt arity? mode c chars =
      if c.isLower then .ok (readName arity? (c :: chars)) else readNumber c chars := by
  simp only [marks, List.mem_cons, List.not_mem_nil, or_false, not_or] at ordinary
  simp [readAt, ordinary]

theorem not_isLower_of_mem_marks (isMark : c ∈ marks) : c.isLower = false := by
  simp only [marks, List.mem_cons, List.not_mem_nil, or_false] at isMark
  rcases isMark with rfl | rfl | rfl | rfl | rfl | rfl | rfl | rfl | rfl | rfl | rfl <;> rfl

theorem not_isDigit_of_mem_marks (isMark : c ∈ marks) : c.isDigit = false := by
  simp only [marks, List.mem_cons, List.not_mem_nil, or_false] at isMark
  rcases isMark with rfl | rfl | rfl | rfl | rfl | rfl | rfl | rfl | rfl | rfl | rfl <;> rfl

theorem readAt_of_isLower (lower : c.isLower = true) :
    readAt arity? mode c chars = .ok (readName arity? (c :: chars)) := by
  have ordinary : c ∉ marks := by
    intro isMark
    rw [not_isLower_of_mem_marks isMark] at lower
    cases lower
  rw [readAt_of_not_mem_marks ordinary, if_pos lower]

theorem readAt_of_isDigit (digit : c.isDigit = true ∨ c = '.') :
    readAt arity? mode c chars = readNumber c chars := by
  have ordinary : c ∉ marks := by
    intro isMark
    rcases digit with isDigit | rfl
    · rw [not_isDigit_of_mem_marks isMark] at isDigit
      cases isDigit
    · simp [marks] at isMark
  have notLower : c.isLower = false := by
    rcases digit with isDigit | rfl
    · cases isLower : c.isLower with
      | false => rfl
      | true =>
          have digitCode := toNat_of_isDigit isDigit
          have letterCode := toNat_of_isLower isLower
          omega
    · rfl
  rw [readAt_of_not_mem_marks ordinary, notLower]
  rfl

end FirstCharacters

section Words

variable {arity? : String → Option Nat} {mode : LexMode}

/-- Where a numeral is taken from the start of a text, it is the next lexeme. -/
theorem next_of_scan? {rest : List Char} (text : NumberText)
    (scanned : Decimal.Numeral.scan? (text.chars ++ rest) = some (text.numeral, rest)) :
    next arity? mode (text.chars ++ rest) =
      .ok (some (.operand (.number text.numeral.value), text.chars ++ rest, rest)) := by
  obtain ⟨c, tail, charsEqual, starts⟩ := text.exists_chars_eq_cons
  have notBlank : Text.isBlank c = false := by
    rcases starts with digit | rfl
    · exact not_isBlank_of_isDigit digit
    · rfl
  rw [charsEqual, List.cons_append] at scanned ⊢
  refine next_of_readAt notBlank ?_
  rw [readAt_of_isDigit starts, readNumber, scanned]

theorem readsAs_number (text : NumberText) :
    ReadsAs arity? mode text.chars (.operand (.number text.numeral.value)) :=
  fun _ ends => next_of_scan? text (scan?_numberText text ends.endsNumber)

theorem readsAs_string {quote : Char} {glyphs : List Glyph} (isQuote : IsQuote quote)
    (fits : ∀ glyph ∈ glyphs, glyph.FitsIn quote) :
    ReadsAs arity? mode (quote :: (glyphChars glyphs ++ [quote]))
      (.operand (.string (String.ofList (glyphs.map Glyph.meaning)))) := by
  intro rest ends
  have notBlank : Text.isBlank quote = false := by
    rcases isQuote with rfl | rfl <;> rfl
  have notEscape : quote ≠ '\\' := by
    rcases isQuote with rfl | rfl <;> decide
  rw [List.cons_append, List.append_assoc, List.singleton_append]
  refine next_of_readAt notBlank ?_
  have quoted : quote = '"' ∨ quote = '\x27' := isQuote
  rw [readAt, if_pos quoted, readQuoted, readString?_glyphs notEscape fits]

theorem readsAs_literal (before : mode.afterOperand = false) {opening closing : Char}
    {inside : List Char} (opens : IsOpening opening) (balanced : Balanced inside)
    (closes : IsClosing closing) :
    ReadsAs arity? mode (opening :: (inside ++ [closing]))
      (.operand (.literal (String.ofList (opening :: (inside ++ [closing]))))) := by
  intro rest ends
  have split : splitBalanced? .outside 0 (opening :: (inside ++ closing :: rest)) = _ :=
    splitBalanced?_literal opens balanced closes
  rw [List.cons_append, List.append_assoc, List.singleton_append]
  rcases opens with rfl | rfl
  · refine next_of_readAt rfl ?_
    simp [readAt, before, readLiteral, split]
  · refine next_of_readAt rfl ?_
    simp [readAt, before, readLiteral, split]

theorem readsAs_capture {name : List Char} (nonempty : name ≠ [])
    (nameChars : ∀ c ∈ name, Text.isNameChar c = true) :
    ReadsAs arity? mode ('$' :: name)
      (.operand (.capture (String.ofList ('$' :: name)))) := by
  intro rest ends
  have stops := ends.stops (show Text.isNameChar ' ' = false by decide)
  rw [List.cons_append]
  refine next_of_readAt rfl ?_
  simp [readAt, readCapture, takeWhile_of_stop nameChars stops, dropWhile_of_stop nameChars stops,
    nonempty]

theorem readsAs_regex (before : mode.afterOperand = false) (inPattern : mode.inPattern = true)
    {glyphs : List Glyph} {flags : List Char} (fits : ∀ glyph ∈ glyphs, glyph.FitsIn '/')
    (letters : ∀ c ∈ flags, c.isAlpha = true) :
    ReadsAs arity? mode ('/' :: (glyphChars glyphs ++ '/' :: flags))
      (.operand (.regex (String.ofList (glyphs.flatMap Glyph.source)) (String.ofList flags))) := by
  intro rest ends
  have stops := ends.stops (show ' '.isAlpha = false by decide)
  rw [List.cons_append, List.append_assoc, List.cons_append]
  refine next_of_readAt rfl ?_
  simp [readAt, before, inPattern, readPattern, readRegex?_glyphs fits,
    takeWhile_of_stop letters stops, dropWhile_of_stop letters stops]

/-- The characters of a name, of which the first is a lower-case letter. -/
theorem exists_cons_of_isIdentifier {name : String} (identifier : isIdentifier name = true) :
    (∃ first later, name.toList = first :: later ∧ first.isLower = true) ∧
      ∀ c ∈ name.toList, Text.isNameChar c = true := by
  unfold isIdentifier at identifier
  split at identifier
  · cases identifier
  · next first later equal =>
    rw [Bool.and_eq_true, List.all_eq_true] at identifier
    refine ⟨⟨first, later, equal, identifier.1⟩, ?_⟩
    rw [equal]
    exact List.forall_mem_cons.mpr ⟨isNameChar_of_isLower identifier.1, identifier.2⟩

theorem isIdentifier_takeWhile {first : Char} (lower : first.isLower = true) (rest : List Char) :
    isIdentifier (String.ofList ((first :: rest).takeWhile Text.isNameChar)) = true := by
  rw [List.takeWhile_cons_of_pos (isNameChar_of_isLower lower), isIdentifier, String.toList_ofList]
  simp [lower, List.all_takeWhile]

theorem isIdentifier_of_keyword {name : String} {value : Value}
    (means : keyword? name = some value) : isIdentifier name = true := by
  unfold keyword? at means
  split at means
  · next equal => rw [equal]; decide
  · split at means
    · next equal => rw [equal]; decide
    · split at means
      · next equal => rw [equal]; decide
      · cases means

theorem next_identifier {name : String} (identifier : isIdentifier name = true)
    {rest after : List Char} {lexeme : Lexeme}
    (read : readName arity? (name.toList ++ rest) = (lexeme, after)) :
    next arity? mode (name.toList ++ rest) =
      .ok (some (lexeme, name.toList ++ rest, after)) := by
  obtain ⟨⟨first, later, equal, lower⟩, -⟩ := exists_cons_of_isIdentifier identifier
  rw [equal, List.cons_append] at read ⊢
  refine next_of_readAt (not_isBlank_of_isLower lower) ?_
  rw [readAt_of_isLower lower, read]

section Names

variable {name : String} {rest : List Char} (identifier : isIdentifier name = true)
  (stops : ∀ c ∈ rest.head?, Text.isNameChar c = false)

include identifier stops

theorem readName_keyword {value : Value} (means : keyword? name = some value) :
    readName arity? (name.toList ++ rest) = (.operand (.value value), rest) := by
  have nameChars := (exists_cons_of_isIdentifier identifier).2
  simp only [readName, takeWhile_of_stop nameChars stops, dropWhile_of_stop nameChars stops,
    String.ofList_toList, means]

theorem readName_var (free : keyword? name = none)
    (noCall : (arity? name).isSome = true → ∀ c ∈ rest.head?, c ≠ '(') :
    readName arity? (name.toList ++ rest) = (.operand (.var name), rest) := by
  have nameChars := (exists_cons_of_isIdentifier identifier).2
  simp only [readName, takeWhile_of_stop nameChars stops, dropWhile_of_stop nameChars stops,
    String.ofList_toList, free]
  split
  · exact if_neg fun known => noCall known '(' rfl rfl
  · rfl

end Names

theorem readsAs_keyword {name : String} {value : Value} (means : keyword? name = some value) :
    ReadsAs arity? mode name.toList (.operand (.value value)) := by
  intro rest ends
  have identifier := isIdentifier_of_keyword means
  exact next_identifier identifier
    (readName_keyword identifier (ends.stops (by decide)) means)

theorem readsAs_var {name : String} (identifier : isIdentifier name = true)
    (free : keyword? name = none) : ReadsAs arity? mode name.toList (.operand (.var name)) := by
  intro rest ends
  refine next_identifier identifier (readName_var identifier (ends.stops (by decide)) free ?_)
  intro _ c isHead
  rw [ends c isHead]
  decide

/-- The name of a function is read with its parenthesis, whatever follows. -/
theorem readName_openCall {name : String} (identifier : isIdentifier name = true)
    (free : keyword? name = none) (known : (arity? name).isSome = true) (rest : List Char) :
    readName arity? (name.toList ++ '(' :: rest) = (.openCall name, rest) := by
  have nameChars := (exists_cons_of_isIdentifier identifier).2
  have stops : ∀ c ∈ ('(' :: rest).head?, Text.isNameChar c = false := by
    intro c isHead
    cases isHead
    decide
  simp only [readName, takeWhile_of_stop nameChars stops, dropWhile_of_stop nameChars stops,
    String.ofList_toList, free, if_pos known]

theorem next_openCall {name : String} (identifier : isIdentifier name = true)
    (free : keyword? name = none) (known : (arity? name).isSome = true) (rest : List Char) :
    next arity? mode (name.toList ++ '(' :: rest) =
      .ok (some (.openCall name, name.toList ++ '(' :: rest, rest)) :=
  next_identifier identifier (readName_openCall identifier free known rest)

theorem readsAs_openCall {name : String} (identifier : isIdentifier name = true)
    (free : keyword? name = none) (known : (arity? name).isSome = true) :
    ReadsAs arity? mode (name.toList ++ ['(']) (.openCall name) := by
  intro rest _
  rw [List.append_assoc, List.singleton_append]
  exact next_openCall identifier free known rest

/-- A written operand is read back.  A bracketed text is no operand after an operand, and a
regular expression is one only on the right of the match operator. -/
theorem readsAs_of_spells {chars : List Char} {leaf : Leaf} (spells : Spells chars leaf)
    (before : mode.afterOperand = false) (inPattern : leaf.isRegex = true → mode.inPattern = true) :
    ReadsAs arity? mode chars (.operand leaf.token) := by
  cases spells with
  | number text => exact readsAs_number text
  | string isQuote fits => exact readsAs_string isQuote fits
  | literal opens balanced closes => exact readsAs_literal before opens balanced closes
  | keyword means => exact readsAs_keyword means
  | var identifier free => exact readsAs_var identifier free
  | capture nonempty nameChars => exact readsAs_capture nonempty nameChars
  | regex fits letters => exact readsAs_regex before (inPattern rfl) fits letters

end Words

section Punctuation

variable {arity? : String → Option Nat} {mode : LexMode}

theorem readsAs_openGroup : ReadsAs arity? mode ['('] .openGroup :=
  fun _ _ => rfl

theorem readsAs_closeGroup : ReadsAs arity? mode [')'] .closeGroup :=
  fun _ _ => rfl

theorem readsAs_comma : ReadsAs arity? mode [','] .comma :=
  fun _ _ => rfl

theorem readsAs_closeIndex : ReadsAs arity? mode [']'] (.closeIndex ']') :=
  fun _ _ => rfl

theorem readsAs_openIndex (after : mode.afterOperand = true) :
    ReadsAs arity? mode ['['] .openIndex := by
  intro rest _
  refine next_of_readAt rfl ?_
  simp [readAt, after]

/-- An operator is read as a whole, because no operator goes on with a blank.  Where a slash may
open a regular expression, no binary operator can stand. -/
theorem readsAs_operator {sign : OperatorSign}
    (binary : ∀ op, sign = .binary op → op ≠ .subtract → mode.afterOperand = true) :
    ReadsAs arity? mode sign.symbol.toList (.operator sign) := by
  intro rest ends
  have blank : rest = [] ∨ ∃ later, rest = ' ' :: later := by
    cases rest with
    | nil => exact Or.inl rfl
    | cons c later => exact Or.inr ⟨later, by rw [ends c rfl]⟩
  cases sign with
  | bang => rcases blank with rfl | ⟨later, rfl⟩ <;> rfl
  | binary op =>
      by_cases divides : op = .divide
      · have after := binary op rfl (by rw [divides]; decide)
        obtain ⟨afterOperand, inPattern⟩ := mode
        cases after
        rcases blank with rfl | ⟨later, rfl⟩ <;> (cases divides; cases inPattern <;> rfl)
      · rcases blank with rfl | ⟨later, rfl⟩ <;>
          cases op <;> first | rfl | exact absurd rfl divides

end Punctuation

end Lexeme

end Calculator
