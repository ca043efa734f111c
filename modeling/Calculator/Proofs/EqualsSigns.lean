import Calculator.Proofs.LexemeSequence
import Mathlib.Data.List.TakeWhile

/-!
# The equals signs of an expression

An equals sign of an expression is part of an operator, or of a string, a regular expression or a
literal.  The description of such texts does not mention how lexemes are read.  The main statement
is that it is true of every text that can be cut into lexemes, and so of every text that can be
converted.
-/

namespace Calculator

namespace Statement

/-- Every equals sign of a text is part of an operator, or of a string, a regular expression or a
literal.  Whether a slash divides or opens a regular expression, and whether a bracket opens an
index or a literal, depends on what comes before it; here it may do either. -/
inductive EqualsEnclosed : List Char → Prop
  | nil : EqualsEnclosed []
  | plain {c : Char} {rest : List Char} (noEquals : c ≠ '=') (noQuote : c ≠ '"' ∧ c ≠ '\x27')
      (later : EqualsEnclosed rest) : EqualsEnclosed (c :: rest)
  | operator {first second : Char} {rest : List Char} {op : BinaryOp}
      (isOperator : Lexeme.doubleSign? first (some second) = some op)
      (later : EqualsEnclosed rest) : EqualsEnclosed (first :: second :: rest)
  | string {quote : Char} {rest text after : List Char} (isQuote : quote = '"' ∨ quote = '\x27')
      (read : Lexeme.readString? quote rest = some (text, after))
      (later : EqualsEnclosed after) : EqualsEnclosed (quote :: rest)
  | regex {rest source after : List Char}
      (read : Lexeme.readRegex? rest = some (source, after))
      (later : EqualsEnclosed after) : EqualsEnclosed ('/' :: rest)
  | literal {bracket : Char} {rest raw after : List Char}
      (isBracket : bracket = '[' ∨ bracket = '\x7b')
      (cut : Lexeme.splitBalanced? .outside 0 (bracket :: rest) = some (raw, after))
      (later : EqualsEnclosed after) : EqualsEnclosed (bracket :: rest)

section Lexemes

open Lexeme

variable {arity? : String → Option Nat} {mode : LexMode} {chars middle after rest : List Char}
  {c : Char}

/-- Decide whether a character is neither an equals sign nor a quotation mark. -/
def isPlain (c : Char) : Bool :=
  c != '=' && c != '"' && c != '\x27'

/-- A text begins with plain characters, after which another text is left. -/
def TakesPlain (chars after : List Char) : Prop :=
  ∃ taken, (∀ c ∈ taken, isPlain c = true) ∧ chars = taken ++ after

theorem EqualsEnclosed.cons_of_isPlain (plain : isPlain c = true) (later : EqualsEnclosed rest) :
    EqualsEnclosed (c :: rest) := by
  simp only [isPlain, Bool.and_eq_true, bne_iff_ne] at plain
  exact .plain plain.1.1 ⟨plain.1.2, plain.2⟩ later

theorem EqualsEnclosed.of_takesPlain (takes : TakesPlain chars after)
    (later : EqualsEnclosed after) : EqualsEnclosed chars := by
  obtain ⟨taken, plain, rfl⟩ := takes
  induction taken with
  | nil => exact later
  | cons c taken ih =>
      rw [List.forall_mem_cons] at plain
      exact .cons_of_isPlain plain.1 (ih plain.2)

namespace TakesPlain

theorem refl (chars : List Char) : TakesPlain chars chars :=
  ⟨[], nofun, rfl⟩

theorem trans (first : TakesPlain chars middle) (second : TakesPlain middle after) :
    TakesPlain chars after := by
  obtain ⟨taken, plain, rfl⟩ := first
  obtain ⟨later, laterPlain, rfl⟩ := second
  exact ⟨taken ++ later, List.forall_mem_append.mpr ⟨plain, laterPlain⟩,
    (List.append_assoc _ _ _).symm⟩

theorem cons (plain : isPlain c = true) (later : TakesPlain rest after) :
    TakesPlain (c :: rest) after :=
  trans ⟨[c], List.forall_mem_singleton.mpr plain, rfl⟩ later

theorem dropWhile {test : Char → Bool} (plain : ∀ c, test c = true → isPlain c = true)
    (chars : List Char) : TakesPlain chars (chars.dropWhile test) :=
  ⟨chars.takeWhile test, fun c member => plain c (List.mem_takeWhile_imp member),
    List.takeWhile_append_dropWhile.symm⟩

end TakesPlain

theorem isPlain_of_isBlank (blank : Text.isBlank c = true) : isPlain c = true := by
  by_contra mark
  simp only [isPlain, Bool.and_eq_true, bne_iff_ne, not_and_or, not_not] at mark
  rcases mark with (rfl | rfl) | rfl <;> cases blank

theorem isPlain_of_isNameChar (nameChar : Text.isNameChar c = true) : isPlain c = true := by
  by_contra mark
  simp only [isPlain, Bool.and_eq_true, bne_iff_ne, not_and_or, not_not] at mark
  rcases mark with (rfl | rfl) | rfl <;> cases nameChar

theorem isPlain_of_isAlpha (alpha : c.isAlpha = true) : isPlain c = true := by
  have alphanumeric : (c.isAlpha || c.isDigit) = true := Bool.or_eq_true_iff.mpr (.inl alpha)
  exact isPlain_of_isNameChar (Bool.or_eq_true_iff.mpr (.inl alphanumeric))

theorem isPlain_of_isDigit (digit : c.isDigit = true) : isPlain c = true := by
  have alphanumeric : (c.isAlpha || c.isDigit) = true := Bool.or_eq_true_iff.mpr (.inr digit)
  exact isPlain_of_isNameChar (Bool.or_eq_true_iff.mpr (.inl alphanumeric))

theorem readDigits?_takesPlain {digits : List Char}
    (read : Decimal.readDigits? chars = some (digits, after)) : TakesPlain chars after := by
  unfold Decimal.readDigits? at read
  split at read
  · cases read
  · cases read
    exact .dropWhile (fun _ => isPlain_of_isDigit) chars

theorem takesPlain_of_tail {sign : Char} (isHead : chars.head? = some sign)
    (plain : isPlain sign = true) (later : TakesPlain chars.tail after) :
    TakesPlain chars after := by
  cases chars with
  | nil => cases isHead
  | cons c rest =>
      cases isHead
      exact .cons plain later

theorem readExponent?_takesPlain {exponent : Int}
    (read : Decimal.readExponent? chars = some (exponent, after)) : TakesPlain chars after := by
  unfold Decimal.readExponent? at read
  split at read
  · next isMinus =>
    obtain ⟨⟨digits, later⟩, digitsRead, ⟨⟩⟩ := Option.map_eq_some_iff.mp read
    exact takesPlain_of_tail isMinus rfl (readDigits?_takesPlain digitsRead)
  · split at read
    · next isPlus =>
      obtain ⟨⟨digits, later⟩, digitsRead, ⟨⟩⟩ := Option.map_eq_some_iff.mp read
      exact takesPlain_of_tail isPlus rfl (readDigits?_takesPlain digitsRead)
    · obtain ⟨⟨digits, later⟩, digitsRead, ⟨⟩⟩ := Option.map_eq_some_iff.mp read
      exact readDigits?_takesPlain digitsRead

theorem readScale_takesPlain (chars : List Char) :
    TakesPlain chars (Decimal.readScale chars).2 := by
  unfold Decimal.readScale
  split
  · next letter rest =>
    split
    · next isLetter =>
      have plain : isPlain letter = true := by
        rcases isLetter with rfl | rfl <;> rfl
      cases read : Decimal.readExponent? rest with
      | none => exact .refl _
      | some scale => exact .cons plain (readExponent?_takesPlain read)
    · exact .refl _
  · exact .refl _

theorem readFraction_takesPlain (chars : List Char) :
    TakesPlain chars (Decimal.readFraction chars).2 := by
  unfold Decimal.readFraction
  split
  · next c rest =>
    split
    · next isPoint =>
      rw [isPoint]
      exact .cons rfl (.dropWhile (fun _ => isPlain_of_isDigit) rest)
    · exact .refl _
  · exact .refl _

theorem scan?_takesPlain {numeral : Decimal.Numeral}
    (read : Decimal.Numeral.scan? chars = some (numeral, after)) : TakesPlain chars after := by
  unfold Decimal.Numeral.scan? at read
  dsimp only at read
  split at read
  · cases read
  · cases read
    exact (TakesPlain.dropWhile (fun _ => isPlain_of_isDigit) chars).trans
      ((readFraction_takesPlain _).trans (readScale_takesPlain _))

/-- If a lexeme can be read, its equals signs are enclosed: all are, if those after it are. -/
def KeepsEnclosed (c : Char) (rest : List Char)
    (outcome : Except Error (Lexeme × List Char)) : Prop :=
  ∀ lexeme after, outcome = .ok (lexeme, after) → EqualsEnclosed after →
    EqualsEnclosed (c :: rest)

namespace KeepsEnclosed

theorem error (error : Error) : KeepsEnclosed c rest (.error error) :=
  nofun

theorem of_isPlain (plain : isPlain c = true) (lexeme : Lexeme) :
    KeepsEnclosed c rest (.ok (lexeme, rest)) := by
  rintro _ _ ⟨⟩ later
  exact .cons_of_isPlain plain later

theorem readQuoted (isQuote : c = '"' ∨ c = '\x27') :
    KeepsEnclosed c rest (Lexeme.readQuoted c rest) := by
  intro lexeme after read later
  unfold Lexeme.readQuoted at read
  split at read
  · next found =>
    cases read
    exact .string isQuote found later
  · cases read

theorem readLiteral (isBracket : c = '[' ∨ c = '\x7b') :
    KeepsEnclosed c rest (Lexeme.readLiteral (c :: rest)) := by
  intro lexeme after read later
  unfold Lexeme.readLiteral at read
  split at read
  · next found =>
    cases read
    exact .literal isBracket found later
  · cases read

theorem readPattern : KeepsEnclosed '/' rest (Lexeme.readPattern rest) := by
  intro lexeme after read later
  unfold Lexeme.readPattern at read
  split at read
  · next source flags found =>
    cases read
    exact .regex found (.of_takesPlain (.dropWhile (fun _ => isPlain_of_isAlpha) flags) later)
  · cases read

theorem readCapture : KeepsEnclosed '$' rest (Lexeme.readCapture rest) := by
  intro lexeme after read later
  unfold Lexeme.readCapture at read
  dsimp only at read
  split at read
  · cases read
  · cases read
    exact .of_takesPlain (.cons rfl (.dropWhile (fun _ => isPlain_of_isNameChar) rest)) later

theorem readName : KeepsEnclosed c rest (.ok (Lexeme.readName arity? (c :: rest))) := by
  intro lexeme after read later
  have name : TakesPlain (c :: rest) ((c :: rest).dropWhile Text.isNameChar) :=
    .dropWhile (fun _ => isPlain_of_isNameChar) (c :: rest)
  refine .of_takesPlain (name.trans ?_) later
  have left : after = (Lexeme.readName arity? (c :: rest)).2 := by rw [Except.ok.inj read]
  rw [left]
  unfold Lexeme.readName
  dsimp only
  split
  · exact .refl _
  · split
    · next opens =>
      split
      · rw [opens]
        exact .cons rfl (.refl _)
      · exact .refl _
    · exact .refl _

theorem readSign (notQuote : c ≠ '"' ∧ c ≠ '\x27') :
    KeepsEnclosed c rest (Lexeme.readSign c rest) := by
  intro lexeme after read later
  unfold Lexeme.readSign at read
  split at read
  · next op isDouble =>
    cases read
    cases rest with
    | nil => simp [doubleSign?] at isDouble
    | cons second rest => exact .operator isDouble later
  · split at read
    · next sign isSingle =>
      cases read
      refine .plain ?_ notQuote later
      rintro rfl
      cases isSingle
    · cases read

theorem readNumber (notQuote : c ≠ '"' ∧ c ≠ '\x27') :
    KeepsEnclosed c rest (Lexeme.readNumber c rest) := by
  unfold Lexeme.readNumber
  split
  · next found =>
    rintro _ _ ⟨⟩ later
    exact .of_takesPlain (scan?_takesPlain found) later
  · exact readSign notQuote

theorem readAt : KeepsEnclosed c rest (Lexeme.readAt arity? mode c rest) := by
  unfold Lexeme.readAt
  refine iteInduction (fun isQuote => readQuoted isQuote) fun notQuote => ?_
  refine iteInduction (fun opens => of_isPlain (by rw [opens.1]; rfl) _) fun _ => ?_
  refine iteInduction (fun _ => error _) fun _ => ?_
  refine iteInduction (fun isBracket => readLiteral isBracket) fun _ => ?_
  refine iteInduction (fun closes => of_isPlain (by rcases closes with rfl | rfl <;> rfl) _)
    fun _ => ?_
  refine iteInduction (fun isSlash => by rw [isSlash.1]; exact readPattern) fun _ => ?_
  refine iteInduction (fun isOpen => of_isPlain (by rw [isOpen]; rfl) _) fun _ => ?_
  refine iteInduction (fun isClose => of_isPlain (by rw [isClose]; rfl) _) fun _ => ?_
  refine iteInduction (fun isComma => of_isPlain (by rw [isComma]; rfl) _) fun _ => ?_
  refine iteInduction (fun isDollar => by rw [isDollar]; exact readCapture) fun _ => ?_
  exact iteInduction (fun _ => readName) fun _ => readNumber (not_or.mp notQuote)

end KeepsEnclosed

theorem skipBlanks_takesPlain (chars : List Char) : TakesPlain chars (Text.skipBlanks chars) :=
  .dropWhile (fun _ => isPlain_of_isBlank) chars

theorem equalsEnclosed_of_next_none (read : next arity? mode chars = .ok none) :
    EqualsEnclosed chars := by
  unfold next at read
  split at read
  · next noneLeft =>
    refine .of_takesPlain (skipBlanks_takesPlain chars) ?_
    rw [noneLeft]
    exact .nil
  · split at read <;> cases read

theorem equalsEnclosed_of_next_some {lexeme : Lexeme} {source : List Char}
    (read : next arity? mode chars = .ok (some (lexeme, source, after)))
    (later : EqualsEnclosed after) : EqualsEnclosed chars := by
  unfold next at read
  split at read
  · cases read
  · next c rest left =>
    split at read
    · cases read
    · next found =>
      cases read
      refine .of_takesPlain (skipBlanks_takesPlain chars) ?_
      rw [left]
      exact KeepsEnclosed.readAt lexeme after found later

/-- A text that can be cut into lexemes has its equals signs enclosed. -/
theorem equalsEnclosed_of_locate {located : List Located}
    (cut : locate arity? mode chars = .ok located) : EqualsEnclosed chars := by
  induction located generalizing mode chars with
  | nil => exact equalsEnclosed_of_next_none (locate_nil cut)
  | cons first later ih =>
      obtain ⟨read, laterCut⟩ := locate_cons cut
      exact equalsEnclosed_of_next_some read (ih laterCut)

theorem equalsEnclosed_of_convert {source : String} {program : Program}
    (converted : convert arity? source = .ok program) : EqualsEnclosed source.toList := by
  obtain ⟨located, -, cut, -⟩ := Conversion.convert_eq_ok_iff.mp converted
  exact equalsEnclosed_of_locate cut

end Lexemes

end Statement

end Calculator
