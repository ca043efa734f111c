import Calculator.Proofs.ExpressionLines
import Calculator.Proofs.FrontEnds
import Calculator.Proofs.StringLiterals

/-!
# Assignments and definitions as lines

An assignment is written as a name, an equals sign and an expression, and a definition as a name
with its parameters in parentheses, an equals sign and a body.  Blanks may stand around the names,
the parentheses and the commas, and a semicolon at the end.  The first equals sign that stands alone
is the one after the name, whatever signs the expression contains.  The main statement is that such
a line does what the requests to define a function, or to compile, to run and to assign, would do
one after another.
-/

namespace Calculator

namespace Text

variable {chars before after padded : List Char} {c : Char}

/-- A text of blanks only. -/
def AreBlank (chars : List Char) : Prop :=
  ∀ c ∈ chars, isBlank c = true

instance (chars : List Char) : Decidable (AreBlank chars) :=
  decidable_of_iff (chars.all isBlank = true) List.all_eq_true

/-- A text with blanks around it. -/
def Padded (chars padded : List Char) : Prop :=
  ∃ before after, AreBlank before ∧ AreBlank after ∧ padded = before ++ chars ++ after

theorem skipBlanks_append_of_areBlank (areBlank : AreBlank before) (chars : List Char) :
    skipBlanks (before ++ chars) = skipBlanks chars :=
  List.dropWhile_append_of_pos areBlank

theorem Padded.trimChars_eq (isPadded : Padded chars padded) :
    trimChars padded = trimChars chars := by
  obtain ⟨before, after, blankBefore, blankAfter, rfl⟩ := isPadded
  rw [trimChars_append_blanks blankAfter, trimChars, skipBlanks_append_of_areBlank blankBefore]
  rfl

theorem trimChars_dropTrailingBlanks (chars : List Char) :
    trimChars (dropTrailingBlanks chars) = trimChars chars := by
  obtain ⟨blanks, areBlank, split⟩ := exists_dropTrailingBlanks_append chars
  calc trimChars (dropTrailingBlanks chars)
      = trimChars (dropTrailingBlanks chars ++ blanks) := (trimChars_append_blanks areBlank).symm
    _ = trimChars chars := by rw [split]

/-- Blanks are dropped only after the last solid character. -/
theorem dropTrailingBlanks_append_cons (solid : isBlank c = false) (before after : List Char) :
    dropTrailingBlanks (before ++ c :: after) = before ++ c :: dropTrailingBlanks after := by
  have reversed : (before ++ c :: after).reverse = after.reverse ++ (c :: before.reverse) := by
    simp
  have stays : (c :: before.reverse).dropWhile isBlank = c :: before.reverse :=
    List.dropWhile_cons_of_neg (by simp [solid])
  rw [dropTrailingBlanks, reversed, List.dropWhile_append, stays]
  split
  · next isEmpty =>
    rw [dropTrailingBlanks, List.isEmpty_iff.mp isEmpty]
    simp
  · simp [dropTrailingBlanks]

theorem dropTrailingBlanks_idem (chars : List Char) :
    dropTrailingBlanks (dropTrailingBlanks chars) = dropTrailingBlanks chars := by
  obtain ⟨blanks, areBlank, split⟩ := exists_dropTrailingBlanks_append chars
  calc dropTrailingBlanks (dropTrailingBlanks chars)
      = dropTrailingBlanks (dropTrailingBlanks chars ++ blanks) :=
        (dropTrailingBlanks_append_blanks areBlank).symm
    _ = dropTrailingBlanks chars := by rw [split]

theorem trimChars_of_solid (solid : ∀ c ∈ chars, isBlank c = false) :
    trimChars chars = chars := by
  have stays : chars.dropWhile isBlank = chars := by
    rw [List.dropWhile_eq_self_iff]
    intro nonempty
    simp [solid]
  have kept := dropTrailingBlanks_append solid (show ∀ c ∈ [], isBlank c = true from nofun)
  rw [List.append_nil] at kept
  rw [trimChars, skipBlanks, stays, kept]

/-- Trimming keeps a solid last character. -/
theorem getLast?_trimChars (solid : isBlank c = false) (isLast : chars.getLast? = some c) :
    (trimChars chars).getLast? = some c := by
  obtain ⟨initial, rfl⟩ := List.getLast?_eq_some_iff.mp isLast
  have skipped : ∃ middle, skipBlanks (initial ++ [c]) = middle ++ [c] := by
    rw [skipBlanks, List.dropWhile_append]
    split
    · exact ⟨[], List.dropWhile_cons_of_neg (by simp [solid])⟩
    · exact ⟨_, rfl⟩
  obtain ⟨middle, isMiddle⟩ := skipped
  rw [trimChars, isMiddle, dropTrailingBlanks_concat solid, List.getLast?_concat]

/-- A text without blanks at its ends, and without a semicolon at its end. -/
structure IsTrimmed (chars : List Char) : Prop where
  trimmed : trimChars chars = chars
  noSemicolon : chars.getLast? ≠ some ';'

end Text

namespace Statement

open Text (AreBlank Padded IsTrimmed)

/-- What may follow the expression of a line: blanks, and one semicolon among them. -/
inductive EndsLine : List Char → Prop
  | blanks {ending : List Char} (areBlank : AreBlank ending) : EndsLine ending
  | semicolon {before after : List Char} (blankBefore : AreBlank before)
      (blankAfter : AreBlank after) : EndsLine (before ++ ';' :: after)

/-- A text spells parameters: they stand between commas, with blanks around them. -/
inductive SpellsParameters : List String → List Char → Prop
  | none {blanks : List Char} (areBlank : AreBlank blanks) : SpellsParameters [] blanks
  | last {param : String} {padded : List Char} (isPadded : Padded param.toList padded) :
      SpellsParameters [param] padded
  | cons {param next : String} {params : List String} {padded list : List Char}
      (isPadded : Padded param.toList padded) (later : SpellsParameters (next :: params) list) :
      SpellsParameters (param :: next :: params) (padded ++ ',' :: list)

/-- A line spells the assignment of an expression to a name. -/
def SpellsAssignment (name expression : String) (line : List Char) : Prop :=
  ∃ left gap ending, AreBlank left ∧ AreBlank gap ∧ EndsLine ending ∧
    line = left ++ (name.toList ++ gap) ++ '=' :: ' ' :: (expression.toList ++ ending)

/-- A line spells the definition of a function. -/
def SpellsDefinition (name : String) (params : List String) (body : String)
    (line : List Char) : Prop :=
  ∃ left inner list right ending, AreBlank left ∧ AreBlank inner ∧
    SpellsParameters params list ∧ AreBlank right ∧ EndsLine ending ∧
    line = left ++ (name.toList ++ inner ++ '(' :: (list ++ ')' :: right)) ++
      '=' :: ' ' :: (body.toList ++ ending)

section Parts

variable {name body list padded front rest : List Char} {c : Char} {param : String}
  {params : List String}

theorem trimChars_of_isWord (word : isWord name = true) : Text.trimChars name = name :=
  Text.trimChars_of_solid fun c member =>
    Lexeme.not_isBlank_of_isNameChar (forall_isNameChar_of_isWord word c member)

theorem splitAt_append_cons {isCut : Char → Bool} (uncut : ∀ c ∈ front, isCut c = false)
    (cuts : isCut c = true) (rest : List Char) :
    Text.splitAt isCut (front ++ c :: rest) = front :: Text.splitAt isCut rest := by
  induction front with
  | nil => simp [Text.splitAt, cuts]
  | cons first front ih =>
      rw [List.forall_mem_cons] at uncut
      simp [Text.splitAt, uncut.1, ih uncut.2]

theorem splitAt_of_uncut {isCut : Char → Bool} (uncut : ∀ c ∈ front, isCut c = false) :
    Text.splitAt isCut front = [front] := by
  induction front with
  | nil => rfl
  | cons first front ih =>
      rw [List.forall_mem_cons] at uncut
      simp [Text.splitAt, uncut.1, ih uncut.2]

theorem noComma_of_padded (word : isWord param.toList = true)
    (isPadded : Padded param.toList padded) : ∀ c ∈ padded, (c == ',') = false := by
  obtain ⟨before, after, blankBefore, blankAfter, rfl⟩ := isPadded
  intro c member
  rw [beq_eq_false_iff_ne]
  rintro rfl
  simp only [List.mem_append] at member
  rcases member with (inBefore | inParam) | inAfter
  · cases blankBefore _ inBefore
  · cases forall_isNameChar_of_isWord word _ inParam
  · cases blankAfter _ inAfter

theorem ofList_trimChars_of_padded (word : isWord param.toList = true)
    (isPadded : Padded param.toList padded) :
    String.ofList (Text.trimChars padded) = param := by
  rw [isPadded.trimChars_eq, trimChars_of_isWord word, String.ofList_toList]

theorem SpellsParameters.map_splitAt (spell : SpellsParameters params list)
    (words : ∀ param ∈ params, isWord param.toList = true) (filled : params ≠ []) :
    (Text.splitAt (· == ',') list).map (fun param => String.ofList (Text.trimChars param)) =
      params := by
  induction spell with
  | none => exact absurd rfl filled
  | last isPadded =>
      have word := words _ List.mem_cons_self
      rw [splitAt_of_uncut (noComma_of_padded word isPadded), List.map_singleton,
        ofList_trimChars_of_padded word isPadded]
  | cons isPadded later ih =>
      rw [List.forall_mem_cons] at words
      rw [splitAt_append_cons (noComma_of_padded words.1 isPadded) rfl, List.map_cons,
        ofList_trimChars_of_padded words.1 isPadded, ih words.2 (List.cons_ne_nil _ _)]

/-- Some character of a list of parameters is solid. -/
theorem SpellsParameters.exists_solid (spell : SpellsParameters params list)
    (words : ∀ param ∈ params, isWord param.toList = true) (filled : params ≠ []) :
    ∃ c ∈ list, Text.isBlank c = false := by
  have fromFirst {param : String} {padded : List Char} (word : isWord param.toList = true)
      (isPadded : Padded param.toList padded) : ∃ c ∈ padded, Text.isBlank c = false := by
    obtain ⟨before, after, -, -, rfl⟩ := isPadded
    have nonempty : param.toList ≠ [] := by
      intro isNil
      rw [isNil] at word
      cases word
    obtain ⟨c, member⟩ := List.exists_mem_of_ne_nil _ nonempty
    exact ⟨c, by simp [member],
      Lexeme.not_isBlank_of_isNameChar (forall_isNameChar_of_isWord word c member)⟩
  cases spell with
  | none => exact absurd rfl filled
  | last isPadded => exact fromFirst (words _ List.mem_cons_self) isPadded
  | cons isPadded later =>
      obtain ⟨c, member, solid⟩ := fromFirst (words _ List.mem_cons_self) isPadded
      exact ⟨c, List.mem_append_left _ member, solid⟩

/-- Parameters are read back from their text. -/
theorem SpellsParameters.parametersOf_eq (spell : SpellsParameters params list)
    (words : ∀ param ∈ params, isWord param.toList = true) : parametersOf list = params := by
  by_cases filled : params = []
  · subst filled
    cases spell with
    | none areBlank =>
        have trimmed : Text.trimChars list = [] := by
          rw [Text.trimChars, Text.skipBlanks, List.dropWhile_eq_nil_iff.mpr areBlank]
          rfl
        rw [parametersOf, trimmed]
        rfl
  · obtain ⟨c, member, solid⟩ := spell.exists_solid words filled
    have kept : Text.trimChars list ≠ [] := List.ne_nil_of_mem (Text.mem_trimChars member solid)
    rw [parametersOf, if_neg (by simpa using kept), spell.map_splitAt words filled]

end Parts

section Cutting

variable {front body ending left : List Char} {first : Char} {previous : Option Char}

/-- Decide whether a character joins an equals sign after it to an operator. -/
def joinsEquals (c : Char) : Bool :=
  c == '=' || c == '!' || c == '<' || c == '>'

theorem isAssignment_of_not_joinsEquals (alone : ∀ c ∈ previous, joinsEquals c = false)
    {next : Option Char} (apart : next = none ∨ next = some ' ') :
    isAssignment previous next = true := by
  cases previous with
  | none => rcases apart with rfl | rfl <;> rfl
  | some c =>
      have plain := alone c rfl
      simp only [joinsEquals, Bool.or_eq_false_iff, beq_eq_false_iff_ne] at plain
      rcases apart with rfl | rfl <;> simp [isAssignment, plain]

/-- A line is cut at an equals sign before which there is none that could be part of it. -/
theorem splitAssignment?_append (alone : ∀ c ∈ previous, joinsEquals c = false)
    (plain : ∀ c ∈ front, joinsEquals c = false) {rest : List Char}
    (apart : rest.head? = none ∨ rest.head? = some ' ') :
    splitAssignment? previous (front ++ '=' :: rest) = some (front, rest) := by
  induction front generalizing previous with
  | nil =>
      rw [List.nil_append, splitAssignment?,
        if_pos ⟨rfl, isAssignment_of_not_joinsEquals alone apart⟩]
  | cons c front ih =>
      rw [List.forall_mem_cons] at plain
      have noEquals : c ≠ '=' := by
        rintro rfl
        cases plain.1
      have joined : ∀ other ∈ some c, joinsEquals other = false := by
        rintro _ ⟨⟩
        exact plain.1
      rw [List.cons_append, splitAssignment?_cons_of_ne noEquals, ih joined plain.2,
        Option.map_some]

theorem not_joinsEquals_of_isBlank {c : Char} (blank : Text.isBlank c = true) :
    joinsEquals c = false := by
  by_contra joins
  simp only [joinsEquals, Bool.not_eq_false, Bool.or_eq_true, beq_iff_eq] at joins
  rcases joins with ((rfl | rfl) | rfl) | rfl <;> cases blank

theorem not_joinsEquals_of_isNameChar {c : Char} (nameChar : Text.isNameChar c = true) :
    joinsEquals c = false := by
  by_contra joins
  simp only [joinsEquals, Bool.not_eq_false, Bool.or_eq_true, beq_iff_eq] at joins
  rcases joins with ((rfl | rfl) | rfl) | rfl <;> cases nameChar

end Cutting

section Lines

variable {left front body ending list : List Char} {first : Char}

theorem head?_dropTrailingBlanks_space (body : List Char) :
    (Text.dropTrailingBlanks (' ' :: body)).head? = none ∨
      (Text.dropTrailingBlanks (' ' :: body)).head? = some ' ' := by
  obtain ⟨blanks, -, split⟩ := Text.exists_dropTrailingBlanks_append (' ' :: body)
  cases kept : Text.dropTrailingBlanks (' ' :: body) with
  | nil => exact Or.inl rfl
  | cons c rest =>
      rw [kept] at split
      cases split
      exact Or.inr rfl

theorem trimChars_space (isTrimmed : IsTrimmed body) :
    Text.trimChars (Text.dropTrailingBlanks (' ' :: body)) = body := by
  have isPadded : Padded body (' ' :: body) :=
    ⟨[' '], [], by simp [AreBlank]; decide, nofun, by simp⟩
  rw [Text.trimChars_dropTrailingBlanks, isPadded.trimChars_eq, isTrimmed.trimmed]

/-- Without its last blanks, a statement does not end with a semicolon. -/
theorem getLast?_statement (isTrimmed : IsTrimmed body) (front : List Char) :
    (front ++ '=' :: Text.dropTrailingBlanks (' ' :: body)).getLast? ≠ some ';' := by
  intro isLast
  have trimmed := trimChars_space isTrimmed
  rcases List.eq_nil_or_concat (Text.dropTrailingBlanks (' ' :: body)) with
    isNil | ⟨initial, last, isConcat⟩
  · rw [isNil, List.getLast?_concat] at isLast
    cases isLast
  · rw [isConcat, List.concat_eq_append] at isLast trimmed
    rw [← List.cons_append, ← List.append_assoc, List.getLast?_concat] at isLast
    cases isLast
    apply isTrimmed.noSemicolon
    rw [← trimmed]
    exact Text.getLast?_trimChars (by decide) List.getLast?_concat

/-- What is left of a line that spells a statement. -/
theorem normalize_statement (blankLeft : AreBlank left) (solid : Text.isBlank first = false)
    (isTrimmed : IsTrimmed body) (ends : EndsLine ending) :
    normalize (String.ofList
        (left ++ first :: front ++ '=' :: ' ' :: (body ++ ending))) =
      first :: front ++ '=' :: Text.dropTrailingBlanks (' ' :: body) := by
  have cut : Text.dropTrailingBlanks (first :: front ++ '=' :: ' ' :: body) =
      first :: front ++ '=' :: Text.dropTrailingBlanks (' ' :: body) :=
    Text.dropTrailingBlanks_append_cons (by decide) _ _
  have noSemicolon := getLast?_statement isTrimmed (first :: front)
  rw [← cut] at noSemicolon ⊢
  generalize isStatement : first :: front ++ '=' :: ' ' :: body = statement at noSemicolon ⊢
  have starts : ∀ rest, Text.skipBlanks (statement ++ rest) = statement ++ rest := by
    intro rest
    rw [← isStatement]
    exact Text.skipBlanks_cons_of_not_isBlank solid _
  have isLine : left ++ first :: front ++ '=' :: ' ' :: (body ++ ending) =
      left ++ statement ++ ending := by
    simp [← isStatement]
  rw [normalize, String.toList_ofList, isLine]
  cases ends with
  | blanks areBlank =>
      have isPadded : Padded statement (left ++ statement ++ ending) :=
        ⟨left, ending, blankLeft, areBlank, rfl⟩
      have starts := starts []
      rw [List.append_nil] at starts
      rw [isPadded.trimChars_eq, Text.trimChars, starts, dropSemicolon, if_neg noSemicolon,
        Text.dropTrailingBlanks_idem]
  | @semicolon before after blankBefore blankAfter =>
      have isPadded : Padded (statement ++ before ++ [';'])
          (left ++ statement ++ (before ++ ';' :: after)) :=
        ⟨left, after, blankLeft, blankAfter, by simp⟩
      have semicolonKept : Text.trimChars (statement ++ before ++ [';']) =
          statement ++ before ++ [';'] := by
        rw [Text.trimChars, List.append_assoc, starts, ← List.append_assoc]
        exact Text.dropTrailingBlanks_concat (by decide) _
      rw [isPadded.trimChars_eq, semicolonKept, dropSemicolon, List.getLast?_concat, if_pos rfl,
        List.dropLast_concat, Text.dropTrailingBlanks_append_blanks blankBefore]

/-- A line that spells a statement is cut at its equals sign, and the expression is what comes after
it. -/
theorem splitAssignment?_statement (blankLeft : AreBlank left) (solid : Text.isBlank first = false)
    (plain : ∀ c ∈ first :: front, joinsEquals c = false) (isTrimmed : IsTrimmed body)
    (ends : EndsLine ending) :
    ∃ rest, splitAssignment? none (normalize (String.ofList
        (left ++ first :: front ++ '=' :: ' ' :: (body ++ ending)))) =
          some (first :: front, rest) ∧ Text.trimChars rest = body := by
  refine ⟨Text.dropTrailingBlanks (' ' :: body), ?_, trimChars_space isTrimmed⟩
  rw [normalize_statement blankLeft solid isTrimmed ends]
  exact splitAssignment?_append (by simp) plain (head?_dropTrailingBlanks_space body)

variable {name expression : String} {params : List String} {line : List Char}

theorem exists_cons_of_isWord (word : isWord list = true) :
    ∃ first rest, list = first :: rest ∧ Text.isBlank first = false := by
  cases list with
  | nil => cases word
  | cons first rest =>
      exact ⟨first, rest, rfl, Lexeme.not_isBlank_of_isNameChar
        (forall_isNameChar_of_isWord word first List.mem_cons_self)⟩

theorem SpellsAssignment.ofLine_eq (spells : SpellsAssignment name expression line)
    (word : isWord name.toList = true) (isTrimmed : IsTrimmed expression.toList) :
    ofLine (String.ofList line) = .assign name expression := by
  obtain ⟨left, gap, ending, blankLeft, blankGap, ends, rfl⟩ := spells
  have trimmed : Text.trimChars (name.toList ++ gap) = name.toList := by
    rw [Text.trimChars_append_blanks blankGap, trimChars_of_isWord word]
  have plain : ∀ c ∈ name.toList ++ gap, joinsEquals c = false := by
    intro c member
    rcases List.mem_append.mp member with inName | inGap
    · exact not_joinsEquals_of_isNameChar (forall_isNameChar_of_isWord word c inName)
    · exact not_joinsEquals_of_isBlank (blankGap c inGap)
  obtain ⟨first, rest, isCons, solid⟩ := exists_cons_of_isWord word
  have isFront : name.toList ++ gap = first :: (rest ++ gap) := by rw [isCons, List.cons_append]
  rw [isFront] at plain trimmed ⊢
  obtain ⟨after, cut, isAfter⟩ := splitAssignment?_statement blankLeft solid plain isTrimmed ends
  simp only [ofLine, ofChars, cut, trimmed, isAfter, word, if_true, String.ofList_toList]

theorem SpellsParameters.not_joinsEquals (spell : SpellsParameters params list)
    (words : ∀ param ∈ params, isWord param.toList = true) :
    ∀ c ∈ list, joinsEquals c = false := by
  have inPadded {param : String} {padded : List Char} (word : isWord param.toList = true)
      (isPadded : Padded param.toList padded) : ∀ c ∈ padded, joinsEquals c = false := by
    obtain ⟨before, after, blankBefore, blankAfter, rfl⟩ := isPadded
    intro c member
    simp only [List.mem_append] at member
    rcases member with (inBefore | inParam) | inAfter
    · exact not_joinsEquals_of_isBlank (blankBefore c inBefore)
    · exact not_joinsEquals_of_isNameChar (forall_isNameChar_of_isWord word c inParam)
    · exact not_joinsEquals_of_isBlank (blankAfter c inAfter)
  induction spell with
  | none areBlank => exact fun c member => not_joinsEquals_of_isBlank (areBlank c member)
  | last isPadded => exact inPadded (words _ List.mem_cons_self) isPadded
  | cons isPadded later ih =>
      rw [List.forall_mem_cons] at words
      intro c member
      rcases List.mem_append.mp member with inFirst | inLater
      · exact inPadded words.1 isPadded c inFirst
      · rcases List.mem_cons.mp inLater with rfl | inList
        · rfl
        · exact ih words.2 c inList

theorem SpellsDefinition.ofLine_eq (spells : SpellsDefinition name params expression line)
    (word : isWord name.toList = true) (words : ∀ param ∈ params, isWord param.toList = true)
    (isTrimmed : IsTrimmed expression.toList) :
    ofLine (String.ofList line) = .define name params expression := by
  obtain ⟨left, inner, list, right, ending, blankLeft, blankInner, spell, blankRight, ends, rfl⟩ :=
    spells
  obtain ⟨first, rest, isCons, solid⟩ := exists_cons_of_isWord word
  have plain : ∀ c ∈ name.toList ++ inner ++ '(' :: (list ++ ')' :: right),
      joinsEquals c = false := by
    intro c member
    simp only [List.mem_append, List.mem_cons] at member
    rcases member with (inName | inInner) | rfl | inList | rfl | inRight
    · exact not_joinsEquals_of_isNameChar (forall_isNameChar_of_isWord word c inName)
    · exact not_joinsEquals_of_isBlank (blankInner c inInner)
    · rfl
    · exact spell.not_joinsEquals words c inList
    · rfl
    · exact not_joinsEquals_of_isBlank (blankRight c inRight)
  have trimmed : Text.trimChars (name.toList ++ inner ++ '(' :: (list ++ ')' :: right)) =
      name.toList ++ inner ++ '(' :: (list ++ [')']) := by
    have regrouped : name.toList ++ inner ++ '(' :: (list ++ ')' :: right) =
        first :: (rest ++ inner ++ '(' :: list) ++ [')'] ++ right := by simp [isCons]
    rw [regrouped, Text.trimChars_append_blanks blankRight, Text.trimChars, List.cons_append,
      Text.skipBlanks_cons_of_not_isBlank solid, ← List.cons_append,
      Text.dropTrailingBlanks_concat (by decide)]
    simp [isCons]
  have noWord : isWord (name.toList ++ inner ++ '(' :: (list ++ [')'])) = false := by
    by_contra isName
    rw [Bool.not_eq_false] at isName
    cases forall_isNameChar_of_isWord isName '(' (by simp)
  have signed := signature?_append word blankInner list
  rw [spell.parametersOf_eq words] at signed
  have isFront : name.toList ++ inner ++ '(' :: (list ++ ')' :: right) =
      first :: (rest ++ inner ++ '(' :: (list ++ ')' :: right)) := by simp [isCons]
  rw [isFront] at plain trimmed ⊢
  obtain ⟨after, cut, isAfter⟩ := splitAssignment?_statement blankLeft solid plain isTrimmed ends
  simp only [ofLine, ofChars, cut, trimmed, noWord, signed, isAfter, Bool.false_eq_true, if_false,
    String.ofList_toList]

end Lines

end Statement

namespace Interpreter

open Statement

/-- Compile an expression, run its program and assign the value to a name, one request after
another. -/
def assignExpression (engine : Pattern.Engine) (name source : String) (interpreter : Interpreter) :
    Except Error Value × Interpreter :=
  match interpreter.compile source with
  | .error error => (.error error, interpreter)
  | .ok program =>
    match interpreter.run engine program with
    | (.error error, after) => (.error error, after)
    | (.ok value, after) =>
      match after.assign name value with
      | (.error error, final) => (.error error, final)
      | (.ok (), final) => (.ok value, final)

theorem perform_assign (engine : Pattern.Engine) (name source : String)
    (interpreter : Interpreter) :
    interpreter.perform engine (.assign name source) =
      interpreter.assignExpression engine name source := by
  rw [perform, evaluateExpression, assignExpression]
  cases interpreter.compile source with
  | error error => rfl
  | ok program =>
      dsimp only
      rcases interpreter.run engine program with ⟨error | value, after⟩
      · rfl
      · dsimp only
        rcases after.assign name value with ⟨error | _, final⟩ <;> rfl

/-- A line that spells a definition does what the request to define the function does, and gives
true if it succeeds; a line that spells an assignment does what the requests to compile, to run and
to assign do. -/
theorem evaluate_statementLine (engine : Pattern.Engine) (interpreter : Interpreter)
    {name expression : String} (word : isWord name.toList = true)
    (isTrimmed : Text.IsTrimmed expression.toList) (line : String) :
    (∀ params : List String, (∀ param ∈ params, isWord param.toList = true) →
      SpellsDefinition name params expression line.toList →
      let defined := interpreter.define name params expression
      (interpreter.evaluate engine line).1 = defined.1.map (fun _ => .boolean true) ∧
        (interpreter.evaluate engine line).2.table = defined.2.table) ∧
    (SpellsAssignment name expression line.toList →
      let assigned := interpreter.assignExpression engine name expression
      (interpreter.evaluate engine line).1 = assigned.1 ∧
        (interpreter.evaluate engine line).2.table = assigned.2.table) := by
  constructor
  · intro params words spells defined
    have isDefinition := spells.ofLine_eq word words isTrimmed
    rw [String.ofList_toList] at isDefinition
    rw [evaluate, isDefinition]
    exact ⟨rfl, rfl⟩
  · intro spells assigned
    have isAssignment := spells.ofLine_eq word isTrimmed
    rw [String.ofList_toList] at isAssignment
    rw [evaluate, isAssignment, perform_assign]
    exact ⟨rfl, rfl⟩

theorem define_equalsSigns :
    SymbolTable.initial.define "f" ["x", "y"] "x==\"=\"" =
      .ok
        { SymbolTable.initial with
          functions := [("f",
            { params := ["x", "y"]
              body := [.var "x", .string "=", .op (.binary .equal)] })] } := by
  with_unfolding_all rfl

theorem assignExpression_equalsSigns (engine : Pattern.Engine) :
    initial.assignExpression engine "f" "x==\"=\"" =
      (.error (.undefinedVariable "x"), initial) := by
  with_unfolding_all rfl

/-- Both kinds of line, with blanks and a semicolon, for an expression that has equals signs in an
operator and in a string.  The definition succeeds, and the assignment fails because the expression
names a variable that is not bound. -/
theorem evaluate_statementLine_equalsSigns :
    let engine : Pattern.Engine := fun _ _ => .error "none"
    let expression : String := "x==\"=\""
    let definition : String := " f ( x , y\t) = x==\"=\" ;"
    let assignment : String := "f= x==\"=\""
    isWord "f".toList = true ∧ Text.IsTrimmed expression.toList ∧
      SpellsDefinition "f" ["x", "y"] expression definition.toList ∧
      SpellsAssignment "f" expression assignment.toList ∧
      (initial.evaluate engine definition).1 = .ok (.boolean true) ∧
      (initial.evaluate engine definition).2.table =
        (initial.define "f" ["x", "y"] expression).2.table ∧
      (initial.evaluate engine assignment).1 = .error (.undefinedVariable "x") ∧
      (initial.evaluate engine assignment).2.table = SymbolTable.initial := by
  intro engine expression definition assignment
  have word : isWord "f".toList = true := by decide
  have words : ∀ param ∈ ["x", "y"], isWord param.toList = true := by decide
  have isTrimmed : Text.IsTrimmed expression.toList := ⟨by decide, by decide⟩
  have parameters : SpellsParameters ["x", "y"] " x , y\t".toList := by
    have first : Text.Padded "x".toList " x ".toList := ⟨[' '], [' '], by decide, by decide, rfl⟩
    have second : Text.Padded "y".toList " y\t".toList :=
      ⟨[' '], ['\t'], by decide, by decide, rfl⟩
    exact .cons first (.last second)
  have spellsDefinition : SpellsDefinition "f" ["x", "y"] expression definition.toList := by
    have ends : EndsLine [' ', ';'] := @EndsLine.semicolon [' '] [] (by decide) (by decide)
    exact ⟨[' '], [' '], " x , y\t".toList, [' '], [' ', ';'], by decide, by decide, parameters,
      by decide, ends, by decide⟩
  have spellsAssignment : SpellsAssignment "f" expression assignment.toList :=
    ⟨[], [], [], nofun, nofun, .blanks nofun, by decide⟩
  obtain ⟨defines, -⟩ := evaluate_statementLine engine initial word isTrimmed definition
  obtain ⟨-, assigns⟩ := evaluate_statementLine engine initial word isTrimmed assignment
  obtain ⟨defined, definedTable⟩ := defines ["x", "y"] words spellsDefinition
  obtain ⟨assigned, assignedTable⟩ := assigns spellsAssignment
  refine ⟨word, isTrimmed, spellsDefinition, spellsAssignment, ?_, definedTable, ?_, ?_⟩
  · rw [defined, Interpreter.define, initial, define_equalsSigns]
    rfl
  · rw [assigned, assignExpression_equalsSigns]
  · rw [assignedTable, assignExpression_equalsSigns]
    rfl

end Interpreter

end Calculator
