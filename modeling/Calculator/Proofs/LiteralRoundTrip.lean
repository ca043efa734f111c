import Calculator.Proofs.Spelling
import Calculator.Proofs.WholeNumbers
import Calculator.Value.Operations

/-!
# Literals read back

What is written for an array or an object is read as an equal value, whatever text its strings
and keys contain, if its numbers are integers below `10 ^ 15` and its nesting is not too deep.
Strings come back character by character, numbers up to the sign of zero, and the entries of an
object in their order.  Each reader is shown to stop where its part of the text ends, so that the
parts can be put together.
-/

namespace Calculator.Decimal

theorem isDigit_digitChar {digit : Nat} (small : digit < 10) :
    (digitChar digit).isDigit = true := by
  have table : ∀ digit < 10, (digitChar digit).isDigit = true := by decide
  exact table digit small

theorem isDigit_naturalChars (n : Nat) : ∀ c ∈ naturalChars n, c.isDigit = true := by
  intro c member
  obtain ⟨digit, isDigit, rfl⟩ := List.mem_map.mp member
  exact isDigit_digitChar (digitsOf_lt_ten n digit isDigit)

/-- The digits of a number start with a zero only if the number is zero. -/
theorem naturalChars_cons (n : Nat) :
    ∃ first later, naturalChars n = first :: later ∧ first.isDigit = true ∧
      (0 < n → first ≠ '0') := by
  induction n using digitsOf.induct with
  | case1 n small =>
    refine ⟨digitChar n, [], ?_, isDigit_digitChar small, fun positive => ?_⟩
    · rw [naturalChars, digitsOf, if_pos small]
      rfl
    · have table : ∀ digit < 10, 0 < digit → digitChar digit ≠ '0' := by decide
      exact table n small positive
  | case2 n large ih =>
    obtain ⟨first, later, equal, isDigit, nonzero⟩ := ih
    refine ⟨first, later ++ [digitChar (n % 10)], ?_, isDigit, fun _ => nonzero (by omega)⟩
    rw [naturalChars, digitsOf, if_neg large, List.map_append, ← naturalChars, equal]
    rfl

end Calculator.Decimal

namespace Calculator.Literal

open Decimal

/-! ## Numbers -/

/-- What may follow a value inside a literal, or the end of the text. -/
def Delimits (rest : List Char) : Prop :=
  ∀ c ∈ rest.head?, c = ',' ∨ c = ']' ∨ c = '\x7d'

theorem Delimits.not_isDigit {rest : List Char} (delimits : Delimits rest) :
    ∀ c ∈ rest.head?, c.isDigit = false := by
  intro c isHead
  rcases delimits c isHead with rfl | rfl | rfl <;> decide

def appendDigit (value : Nat) (digit : Char) : Nat :=
  10 * value + digitValue digit

theorem le_foldl_appendDigit (digits : List Char) (value : Nat) :
    value ≤ digits.foldl appendDigit value := by
  induction digits generalizing value with
  | nil => exact le_rfl
  | cons digit later ih =>
    have step : value ≤ appendDigit value digit := by
      unfold appendDigit
      omega
    exact step.trans (ih _)

theorem gather_append {bound value : Nat} {digits rest : List Char}
    (all : ∀ c ∈ digits, c.isDigit = true) (fits : digits.foldl appendDigit value < bound)
    (stops : ∀ c ∈ rest.head?, c.isDigit = false) :
    gather bound value (digits ++ rest) = (digits.foldl appendDigit value, rest) := by
  induction digits generalizing value with
  | nil =>
    cases rest with
    | nil => rfl
    | cons c rest =>
      have noDigit : c.isDigit = false := stops c rfl
      simp [gather, noDigit]
  | cons digit later ih =>
    obtain ⟨isDigit, laterDigits⟩ := List.forall_mem_cons.mp all
    have next : value * 10 + digitValue digit = appendDigit value digit := by
      rw [appendDigit, Nat.mul_comm]
    have below : appendDigit value digit < bound :=
      (le_foldl_appendDigit later _).trans_lt fits
    rw [List.cons_append, gather, next]
    simpa [isDigit, below] using ih laterDigits fits

theorem gather_naturalChars {n : Nat} (fits : n < significandBound) {rest : List Char}
    (stops : ∀ c ∈ rest.head?, c.isDigit = false) :
    gather significandBound 0 (naturalChars n ++ rest) = (n, rest) := by
  have value : (naturalChars n).foldl appendDigit 0 = n := digitsValue_naturalChars n
  have below : (naturalChars n).foldl appendDigit 0 < significandBound := by rwa [value]
  rw [gather_append (isDigit_naturalChars n) below stops, value]

theorem readTail_of_delimits (negative : Bool) (significand : Nat) {rest : List Char}
    (delimits : Delimits rest) :
    readTail negative significand 0 rest = finishNumber negative significand 0 rest := by
  cases rest with
  | nil => rfl
  | cons c rest => rcases delimits c rfl with rfl | rfl | rfl <;> rfl

theorem readNumber_zero (negative : Bool) {rest : List Char} (delimits : Delimits rest) :
    readNumber negative ('0' :: rest) = readTail negative 0 0 rest := by
  cases rest with
  | nil => rfl
  | cons c rest =>
    have noDigit : c.isDigit = false := delimits.not_isDigit c rfl
    simp [readNumber, noDigit]

theorem readNumber_positive (negative : Bool) {n : Nat} (positive : 0 < n)
    (fits : n < significandBound) {rest : List Char} (delimits : Delimits rest) :
    readNumber negative (naturalChars n ++ rest) = readTail negative n 0 rest := by
  have stops := delimits.not_isDigit
  obtain ⟨first, later, written, isDigit, nonzero⟩ := naturalChars_cons n
  have gathered := gather_naturalChars fits stops
  have noneDropped : rest.takeWhile Char.isDigit = [] :=
    takeWhile_of_stop (List.forall_mem_nil _) stops
  have allLeft : rest.dropWhile Char.isDigit = rest :=
    dropWhile_of_stop (List.forall_mem_nil _) stops
  rw [written, List.cons_append] at gathered ⊢
  unfold readNumber
  split
  · next equal => exact absurd (List.cons.inj equal).1 (nonzero positive)
  · next equal =>
    cases equal
    simp [isDigit, gathered, noneDropped, allLeft]
  · next equal => cases equal

theorem readNumber_naturalChars {n : Int} (fits : n.natAbs < 2 ^ 53) {rest : List Char}
    (delimits : Delimits rest) :
    readNumber (decide (n < 0)) (naturalChars n.natAbs ++ rest) = .ok (Float.ofInt n, rest) := by
  rw [← finishNumber_natAbs fits rest, ← readTail_of_delimits _ _ delimits]
  by_cases positive : 0 < n.natAbs
  · exact readNumber_positive _ positive (fits.trans (by decide)) delimits
  · have zero : n.natAbs = 0 := by omega
    have written : naturalChars 0 = ['0'] := by
      rw [naturalChars, digitsOf]
      rfl
    rw [zero, written]
    exact readNumber_zero _ delimits

/-! ## Strings -/

theorem readChars_escape {rest remaining after later : List Char} {c : Char}
    (escape : readEscape rest = .ok (c, remaining))
    (following : readChars remaining = .ok (later, after)) :
    readChars ('\\' :: rest) = .ok (c :: later, after) := by
  rw [readChars]
  split
  · next error => simp [escape] at error
  · next other remains success =>
    rw [escape] at success
    cases success
    simp [following]

theorem readChars_plain {rest after later : List Char} {c : Char}
    (noQuote : c ≠ '"') (noBackslash : c ≠ '\\') (printable : ¬c.toNat < 32)
    (following : readChars rest = .ok (later, after)) :
    readChars (c :: rest) = .ok (c :: later, after) := by
  unfold readChars
  split
  · next equal => cases equal
  · next equal =>
    cases equal
    exact absurd rfl noQuote
  · next equal =>
    cases equal
    exact absurd rfl noBackslash
  · next equal =>
    cases equal
    simp [printable, following]

theorem hexValue?_hexDigit {digit : Nat} (small : digit < 16) :
    hexValue? (hexDigit digit) = some digit := by
  have table : ∀ digit < 16, hexValue? (hexDigit digit) = some digit := by decide
  exact table digit small

theorem utf8Size_hexDigit {digit : Nat} (small : digit < 16) : (hexDigit digit).utf8Size = 1 := by
  have table : ∀ digit < 16, (hexDigit digit).utf8Size = 1 := by decide
  exact table digit small

/-- An escape by number is read as the character with this number. -/
theorem readEscape_control {c : Char} (control : c.toNat < 32) (rest : List Char) :
    readEscape ('u' :: '0' :: '0' :: hexDigit (c.toNat / 16) :: hexDigit (c.toNat % 16) :: rest) =
      .ok (c, rest) := by
  have highSmall : c.toNat / 16 < 16 := by omega
  have lowSmall : c.toNat % 16 < 16 := by omega
  have zero : hexValue? '0' = some 0 := rfl
  have code : ((0 * 16 + 0) * 16 + c.toNat / 16) * 16 + c.toNat % 16 = c.toNat := by omega
  have hex : readHex ('0' :: '0' :: hexDigit (c.toNat / 16) :: hexDigit (c.toNat % 16) :: rest) =
      .ok (c.toNat, rest) := by
    have bytes : byteLength ['0', '0', hexDigit (c.toNat / 16), hexDigit (c.toNat % 16)] = 4 := by
      simp only [byteLength, List.foldl_cons, List.foldl_nil, utf8Size_hexDigit highSmall,
        utf8Size_hexDigit lowSmall]
      rfl
    simp only [readHex, List.take_succ_cons, List.take_zero, bytes, zero,
      hexValue?_hexDigit highSmall, hexValue?_hexDigit lowSmall, code]
    rfl
  have notLow : ¬(0xdc00 ≤ c.toNat ∧ c.toNat ≤ 0xdfff) := by omega
  have notHigh : ¬(0xd800 ≤ c.toNat ∧ c.toNat ≤ 0xdbff) := by omega
  simp [readEscape, hex, notLow, notHigh]

theorem readChars_escapeChar {rest after later : List Char} (c : Char)
    (following : readChars rest = .ok (later, after)) :
    readChars (escapeChar c ++ rest) = .ok (c :: later, after) := by
  -- The letters after a backslash first: each of them is read as its own character.
  by_cases named : c ∈ ['"', '\\', '\x08', '\x0c', '\n', '\r', '\t']
  · simp only [List.mem_cons, List.not_mem_nil, or_false] at named
    rcases named with rfl | rfl | rfl | rfl | rfl | rfl | rfl <;>
      exact readChars_escape rfl following
  · simp only [List.mem_cons, List.not_mem_nil, or_false, not_or] at named
    obtain ⟨noQuote, noBackslash, noBackspace, noFormFeed, noLineFeed, noReturn, noTab⟩ := named
    rw [escapeChar, if_neg noQuote, if_neg noBackslash, if_neg noBackspace, if_neg noFormFeed,
      if_neg noLineFeed, if_neg noReturn, if_neg noTab]
    by_cases control : c.toNat < 32
    · rw [if_pos control]
      exact readChars_escape (readEscape_control control rest) following
    · rw [if_neg control]
      exact readChars_plain noQuote noBackslash control following

theorem readChars_flatMap (text : List Char) (rest : List Char) :
    readChars (text.flatMap escapeChar ++ '"' :: rest) = .ok (text, rest) := by
  induction text with
  | nil => simp [readChars]
  | cons c later ih =>
    rw [List.flatMap_cons, List.append_assoc]
    exact readChars_escapeChar c ih

theorem skip_cons {c : Char} (noBlank : isSeparatorBlank c = false) (rest : List Char) :
    skip (c :: rest) = c :: rest := by
  simp [skip, noBlank]

theorem readKey_stringChars (key : String) (rest : List Char) :
    readKey (stringChars key ++ ':' :: rest) = .ok (key, rest) := by
  have body := readChars_flatMap key.toList (':' :: rest)
  simp [readKey, stringChars, body, skip_cons, isSeparatorBlank]

/-! ## Values -/

/-- A text begins like a value, and not with a blank or a closing bracket. -/
def Begins (chars : List Char) : Prop :=
  ∃ c later, chars = c :: later ∧ isSeparatorBlank c = false ∧ c ≠ ']'

theorem begins_digit {c : Char} (digit : c.isDigit = true) (later : List Char) :
    Begins (c :: later) := by
  refine ⟨c, later, rfl, ?_, ?_⟩
  · simp only [isSeparatorBlank, Bool.or_eq_false_iff, beq_eq_false_iff_ne]
    refine ⟨⟨⟨?_, ?_⟩, ?_⟩, ?_⟩ <;> rintro rfl <;> cases digit
  · rintro rfl
    cases digit

/-- A value is read back from its literal form, where so many levels of arrays and objects may
still be opened.  Every character of the form may take two nested reads. -/
structure ReadsBack (depth : Nat) (value : Value) : Prop where
  begins : Begins (chars value)
  reads : ∃ read, value.same read = true ∧ ∀ fuel rest, 2 * (chars value).length ≤ fuel →
    Delimits rest → readValue fuel depth (chars value ++ rest) = .ok (read, rest)

theorem ReadsBack.of_step {depth : Nat} {value : Value} (read : Value)
    (begins : Begins (chars value)) (same : value.same read = true)
    (step : ∀ fuel rest, 2 * (chars value).length ≤ fuel + 1 → Delimits rest →
      readValue (fuel + 1) depth (chars value ++ rest) = .ok (read, rest)) :
    ReadsBack depth value := by
  refine ⟨begins, read, same, fun fuel rest enough delimits => ?_⟩
  obtain ⟨c, later, written, -⟩ := begins
  have positive : 0 < (chars value).length := by simp [written]
  obtain ⟨smaller, rfl⟩ := Nat.exists_eq_add_one.mpr (show 0 < fuel by omega)
  exact step smaller rest enough delimits

theorem readValue_digit (fuel depth : Nat) {c : Char} (digit : c.isDigit = true)
    (rest : List Char) :
    readValue (fuel + 1) depth (c :: rest) =
      (readNumber false (c :: rest)).map fun (x, after) => (.number x, after) := by
  have other {d : Char} (noDigit : d.isDigit = false) : c ≠ d := by
    rintro rfl
    rw [digit] at noDigit
    cases noDigit
  obtain ⟨_, _, equal, noBlank, -⟩ := begins_digit digit rest
  cases equal
  rw [readValue, skip_cons noBlank]
  split
  case h_1 equal => cases equal
  case h_9 equal =>
    cases equal
    simp [digit]
  all_goals
    rename_i equal
    exact absurd (List.cons.inj equal).1 (other rfl)

theorem readsBack_null (depth : Nat) : ReadsBack depth .null :=
  .of_step .null ⟨'n', _, rfl, rfl, by decide⟩ rfl fun _ _ _ _ => rfl

theorem readsBack_boolean (depth : Nat) (truth : Bool) : ReadsBack depth (.boolean truth) := by
  cases truth
  · exact .of_step (.boolean false) ⟨'f', _, rfl, rfl, by decide⟩ rfl fun _ _ _ _ => rfl
  · exact .of_step (.boolean true) ⟨'t', _, rfl, rfl, by decide⟩ rfl fun _ _ _ _ => rfl

theorem readsBack_string (depth : Nat) (text : String) : ReadsBack depth (.string text) := by
  refine .of_step (.string text) ⟨'"', _, rfl, rfl, by decide⟩ ?_ ?_
  · simp [Value.same]
  · intro fuel rest _ _
    have body := readChars_flatMap text.toList rest
    simp [chars, stringChars, readValue, skip_cons, isSeparatorBlank, body, Except.map]

theorem readsBack_number (depth : Nat) {x : Float} {n : Int} (whole : Represents x n) :
    ReadsBack depth (.number x) := by
  have written : chars (.number x) = integerChars n := whole.numberChars_eq
  obtain ⟨first, later, digits, isDigit, -⟩ := naturalChars_cons n.natAbs
  have begins : Begins (chars (.number x)) := by
    rw [written, integerChars]
    split
    · exact ⟨'-', _, rfl, rfl, by decide⟩
    · rw [digits]
      exact begins_digit isDigit later
  refine .of_step (.number (Float.ofInt n)) begins whole.2 fun fuel rest _ delimits => ?_
  have number := readNumber_naturalChars whole.fits delimits
  rw [written, integerChars]
  by_cases negative : n < 0
  · rw [decide_eq_true negative] at number
    rw [if_pos negative, List.cons_append, readValue, skip_cons rfl]
    simp [number, Except.map]
  · rw [decide_eq_false negative] at number
    rw [if_neg negative, digits, List.cons_append, readValue_digit fuel depth isDigit,
      ← List.cons_append, ← digits, number]
    rfl

theorem Begins.append {chars : List Char} (begins : Begins chars) (suffix : List Char) :
    Begins (chars ++ suffix) := by
  obtain ⟨c, later, rfl, noBlank, notClosing⟩ := begins
  exact ⟨c, later ++ suffix, rfl, noBlank, notClosing⟩

theorem Begins.skip_eq {chars : List Char} (begins : Begins chars) : skip chars = chars := by
  obtain ⟨c, later, rfl, noBlank, -⟩ := begins
  exact skip_cons noBlank later

theorem delimits_cons {c : Char} (mark : c = ',' ∨ c = ']' ∨ c = '\x7d') (rest : List Char) :
    Delimits (c :: rest) := by
  intro d isHead
  cases isHead
  exact mark

/-! ## Arrays -/

theorem begins_itemsChars {depth : Nat} {first : Value} (back : ReadsBack depth first)
    (later : List Value) : Begins (itemsChars (first :: later)) := by
  cases later with
  | nil => exact back.begins.append _
  | cons second later => exact back.begins.append _

theorem readItems_last {fuel depth : Nat} {chars rest : List Char} {item : Value}
    (read : readValue fuel depth chars = .ok (item, ']' :: rest)) :
    readItems (fuel + 1) depth chars = .ok ([item], rest) := by
  simp [readItems, read, skip_cons, isSeparatorBlank]

theorem readItems_comma {fuel depth : Nat} {chars next rest : List Char} {item : Value}
    {items : List Value} (read : readValue fuel depth chars = .ok (item, ',' :: next))
    (begins : Begins next) (following : readItems fuel depth next = .ok (items, rest)) :
    readItems (fuel + 1) depth chars = .ok (item :: items, rest) := by
  have nextSkip := begins.skip_eq
  obtain ⟨c, later, rfl, -, notClosing⟩ := begins
  simp [readItems, read, skip_cons, isSeparatorBlank, nextSkip, notClosing, following, Except.map]

/-- The items of an array that is not empty are read back, up to the closing bracket. -/
def ItemsReadBack (depth : Nat) (items : List Value) : Prop :=
  ∃ read, Value.sameItems items read = true ∧ ∀ fuel rest, 2 * (itemsChars items).length ≤ fuel →
    readItems (fuel + 1) depth (itemsChars items ++ rest) = .ok (read, rest)

theorem itemsReadBack_last {depth : Nat} {item : Value} (back : ReadsBack depth item) :
    ItemsReadBack depth [item] := by
  obtain ⟨read, same, reads⟩ := back.reads
  refine ⟨[read], by simp [Value.sameItems, same], fun fuel rest enough => ?_⟩
  have written : itemsChars [item] ++ rest = chars item ++ ']' :: rest := by
    simp [itemsChars]
  simp only [itemsChars, List.length_append] at enough
  rw [written]
  exact readItems_last (reads fuel _ (by omega) (delimits_cons (by simp) rest))

theorem itemsReadBack_cons {depth : Nat} {first second : Value} {later : List Value}
    (back : ReadsBack depth first) (nextBack : ReadsBack depth second)
    (laterBack : ItemsReadBack depth (second :: later)) :
    ItemsReadBack depth (first :: second :: later) := by
  obtain ⟨read, same, reads⟩ := back.reads
  obtain ⟨readLater, sameLater, readsLater⟩ := laterBack
  refine ⟨read :: readLater, ?_, fun fuel rest enough => ?_⟩
  · rw [Value.sameItems, same, sameLater]
    rfl
  · have written : itemsChars (first :: second :: later) ++ rest =
        chars first ++ ',' :: (itemsChars (second :: later) ++ rest) := by
      simp [itemsChars]
    have length : (itemsChars (first :: second :: later)).length =
        (chars first).length + (itemsChars (second :: later)).length + 1 := by
      simp only [itemsChars, List.length_append, List.length_cons]
      omega
    obtain ⟨smaller, rfl⟩ := Nat.exists_eq_add_one.mpr (show 0 < fuel by omega)
    have firstRead := reads (smaller + 1) (',' :: (itemsChars (second :: later) ++ rest))
      (by omega) (delimits_cons (by simp) _)
    have begins := (begins_itemsChars nextBack later).append rest
    rw [written]
    exact readItems_comma firstRead begins (readsLater smaller rest (by omega))

theorem itemsReadBack {depth : Nat} (first : Value) (later : List Value)
    (each : ∀ item ∈ first :: later, ReadsBack depth item) :
    ItemsReadBack depth (first :: later) := by
  induction later generalizing first with
  | nil => exact itemsReadBack_last (each first List.mem_cons_self)
  | cons second later ih =>
    obtain ⟨firstBack, laterBack⟩ := List.forall_mem_cons.mp each
    exact itemsReadBack_cons firstBack (laterBack second List.mem_cons_self) (ih second laterBack)

/-- An array is read back with one level more than its items. -/
theorem readsBack_array {depth : Nat} {items : List Value}
    (each : ∀ item ∈ items, ReadsBack depth item) : ReadsBack (depth + 1) (.array items) := by
  have begins : Begins (chars (.array items)) := ⟨'[', itemsChars items, rfl, rfl, by decide⟩
  cases items with
  | nil => exact .of_step (.array []) begins rfl fun _ _ _ _ => rfl
  | cons first later =>
    obtain ⟨read, same, reads⟩ := itemsReadBack first later each
    refine .of_step (.array read) begins (by rwa [Value.same]) fun fuel rest enough _ => ?_
    rw [chars, List.length_cons] at enough
    obtain ⟨smaller, rfl⟩ := Nat.exists_eq_add_one.mpr (show 0 < fuel by omega)
    have itemsRead := reads smaller rest (by omega)
    have itemsBegin := (begins_itemsChars (each first List.mem_cons_self) later).append rest
    have itemsSkip := itemsBegin.skip_eq
    obtain ⟨c, others, equal, -, notClosing⟩ := itemsBegin
    rw [equal] at itemsRead itemsSkip
    rw [chars, List.cons_append, equal, readValue, skip_cons rfl]
    simp [itemsSkip, notClosing, itemsRead, Except.map]

/-! ## Objects -/

theorem exists_entriesChars (first : String × Value) (later : List (String × Value)) :
    ∃ tail, entriesChars (first :: later) = '"' :: tail := by
  cases later with
  | nil => exact ⟨_, rfl⟩
  | cons second later => exact ⟨_, rfl⟩

section Entries

variable {fuel depth : Nat} {key : String} {chars rest tail : List Char} {value : Value}
  {bindings : List (String × Value)}

theorem readEntries_last (read : readValue fuel depth chars = .ok (value, '\x7d' :: rest)) :
    readEntries (fuel + 1) depth (stringChars key ++ ':' :: chars) =
      .ok ([(key, value)], rest) := by
  rw [readEntries, readKey_stringChars]
  simp [read, skip_cons, isSeparatorBlank]

theorem readEntries_comma (read : readValue fuel depth chars = .ok (value, ',' :: '"' :: tail))
    (following : readEntries fuel depth ('"' :: tail) = .ok (bindings, rest)) :
    readEntries (fuel + 1) depth (stringChars key ++ ':' :: chars) =
      .ok ((key, value) :: bindings, rest) := by
  rw [readEntries, readKey_stringChars]
  simp [read, skip_cons, isSeparatorBlank, following, Except.map]

end Entries

/-- The entries of an object that is not empty are read back, up to the closing brace. -/
def EntriesReadBack (depth : Nat) (entries : List (String × Value)) : Prop :=
  ∃ read, Value.sameEntries entries read = true ∧ ∀ fuel rest,
    2 * (entriesChars entries).length ≤ fuel →
      readEntries (fuel + 1) depth (entriesChars entries ++ rest) = .ok (read, rest)

theorem entriesReadBack_last {depth : Nat} (key : String) {value : Value}
    (back : ReadsBack depth value) : EntriesReadBack depth [(key, value)] := by
  obtain ⟨read, same, reads⟩ := back.reads
  refine ⟨[(key, read)], by simp [Value.sameEntries, same], fun fuel rest enough => ?_⟩
  have written : entriesChars [(key, value)] ++ rest =
      stringChars key ++ ':' :: (chars value ++ '\x7d' :: rest) := by
    simp [entriesChars]
  have shorter : (chars value).length ≤ (entriesChars [(key, value)]).length := by
    simp only [entriesChars, List.length_append, List.length_cons]
    omega
  rw [written]
  exact readEntries_last (reads fuel _ (by omega) (delimits_cons (by simp) rest))

theorem entriesReadBack_cons {depth : Nat} (key : String) {value : Value}
    {second : String × Value} {later : List (String × Value)} (back : ReadsBack depth value)
    (laterBack : EntriesReadBack depth (second :: later)) :
    EntriesReadBack depth ((key, value) :: second :: later) := by
  obtain ⟨read, same, reads⟩ := back.reads
  obtain ⟨readLater, sameLater, readsLater⟩ := laterBack
  refine ⟨(key, read) :: readLater, ?_, fun fuel rest enough => ?_⟩
  · simp only [Value.sameEntries, beq_self_eq_true, same, sameLater, Bool.and_self]
  · have written : entriesChars ((key, value) :: second :: later) ++ rest =
        stringChars key ++ ':' ::
          (chars value ++ ',' :: (entriesChars (second :: later) ++ rest)) := by
      simp [entriesChars]
    have length : (entriesChars ((key, value) :: second :: later)).length =
        (stringChars key).length + (chars value).length +
          (entriesChars (second :: later)).length + 2 := by
      simp only [entriesChars, List.length_append, List.length_cons]
      omega
    obtain ⟨smaller, rfl⟩ := Nat.exists_eq_add_one.mpr (show 0 < fuel by omega)
    have firstRead := reads (smaller + 1) (',' :: (entriesChars (second :: later) ++ rest))
      (by omega) (delimits_cons (by simp) _)
    have laterRead := readsLater smaller rest (by omega)
    obtain ⟨tail, quoted⟩ := exists_entriesChars second later
    rw [quoted, List.cons_append] at firstRead laterRead
    rw [written, quoted, List.cons_append]
    exact readEntries_comma firstRead laterRead

theorem entriesReadBack {depth : Nat} (first : String × Value) (later : List (String × Value))
    (each : ∀ entry ∈ first :: later, ReadsBack depth entry.2) :
    EntriesReadBack depth (first :: later) := by
  induction later generalizing first with
  | nil => exact entriesReadBack_last first.1 (each first List.mem_cons_self)
  | cons second later ih =>
    obtain ⟨firstBack, laterBack⟩ := List.forall_mem_cons.mp each
    exact entriesReadBack_cons first.1 firstBack (ih second laterBack)

theorem map_fst_of_sameEntries {first second : List (String × Value)}
    (same : Value.sameEntries first second = true) : first.map Prod.fst = second.map Prod.fst := by
  induction first generalizing second with
  | nil =>
    cases second with
    | nil => rfl
    | cons entry rest => cases same
  | cons entry rest ih =>
    cases second with
    | nil => cases same
    | cons other others =>
      simp only [Value.sameEntries, Bool.and_eq_true, beq_iff_eq] at same
      simp [same.1.1, ih same.2]

theorem readsBack_object {depth : Nat} {entries : List (String × Value)}
    (sorted : Entries.Sorted entries) (each : ∀ entry ∈ entries, ReadsBack depth entry.2) :
    ReadsBack (depth + 1) (.object entries) := by
  have begins : Begins (chars (.object entries)) :=
    ⟨'\x7b', entriesChars entries, rfl, rfl, by decide⟩
  cases entries with
  | nil => exact .of_step (.object []) begins rfl fun _ _ _ _ => rfl
  | cons first later =>
    obtain ⟨read, same, reads⟩ := entriesReadBack first later each
    have readSorted : Entries.Sorted read := by
      have keysSorted := List.pairwise_map.mpr sorted
      rw [map_fst_of_sameEntries same] at keysSorted
      exact List.pairwise_map.mp keysSorted
    refine .of_step (.object read) begins (by rwa [Value.same]) fun fuel rest enough _ => ?_
    rw [chars, List.length_cons] at enough
    obtain ⟨smaller, rfl⟩ := Nat.exists_eq_add_one.mpr (show 0 < fuel by omega)
    have entriesRead := reads smaller rest (by omega)
    obtain ⟨tail, quoted⟩ := exists_entriesChars first later
    rw [quoted, List.cons_append] at entriesRead
    rw [chars, quoted, List.cons_append, List.cons_append, readValue, skip_cons rfl]
    simp [skip_cons, isSeparatorBlank, entriesRead, Entries.ofList_of_sorted readSorted,
      Except.map]

end Calculator.Literal

namespace Calculator

open Literal

namespace Value

/-- A value whose numbers are integers below `10 ^ 15` in magnitude, and whose arrays and objects
nest at most so many levels. -/
inductive Whole : Nat → Value → Prop
  | null {depth : Nat} : Whole depth null
  | boolean {depth : Nat} (truth : Bool) : Whole depth (boolean truth)
  | number {depth : Nat} {x : Float} {n : Int} (whole : Decimal.Represents x n) :
      Whole depth (number x)
  | string {depth : Nat} (text : String) : Whole depth (string text)
  | array {depth : Nat} {items : List Value} (each : ∀ item ∈ items, Whole depth item) :
      Whole (depth + 1) (array items)
  | object {depth : Nat} {entries : List (String × Value)} (sorted : Entries.Sorted entries)
      (each : ∀ entry ∈ entries, Whole depth entry.2) : Whole (depth + 1) (object entries)

theorem Whole.readsBack {depth : Nat} {value : Value} (whole : Whole depth value) :
    ReadsBack depth value := by
  induction whole with
  | null => exact readsBack_null _
  | boolean truth => exact readsBack_boolean _ truth
  | number whole => exact readsBack_number _ whole
  | string text => exact readsBack_string _ text
  | array _ ih => exact readsBack_array ih
  | object sorted _ ih => exact readsBack_object sorted ih

theorem display_of_isStructured {value : Value} (structured : value.isStructured = true) :
    value.display = Literal.text value := by
  cases value with
  | array items => rfl
  | object entries => rfl
  | _ => cases structured

/-- An array or an object of at most 127 levels is read back from the form in which it is shown,
as an equal value. -/
theorem ofLiteral_display {value : Value} (structured : value.isStructured = true)
    (whole : Whole 127 value) :
    ∃ read, ofLiteral value.display = .ok read ∧ value.same read = true := by
  obtain ⟨read, same, reads⟩ := whole.readsBack.reads
  have nothing : Delimits [] := nofun
  have wholeRead : readWhole (chars value) = .ok read := by
    have inner := reads (2 * (chars value).length + 2) [] (by omega) nothing
    rw [List.append_nil] at inner
    rw [readWhole, deepestNesting, inner]
    rfl
  refine ⟨read, ?_, same⟩
  rw [display_of_isStructured structured, ofLiteral, Literal.read, Literal.text,
    String.toList_ofList, wholeRead]
  rfl

/-- An object with a control character, escapes and letters outside ASCII in its texts, and with
a negative number in an array. -/
def mixedObject : Value :=
  object [("a\x01", array [number (Float.ofInt (-3)), null]), ("ключ", string "\"\\\n")]

theorem ofLiteral_display_mixedObject :
    mixedObject.isStructured = true ∧ Whole 127 mixedObject ∧
      ∃ read, ofLiteral mixedObject.display = .ok read ∧ mixedObject.same read = true := by
  have negative : Whole 125 (number (Float.ofInt (-3))) := .number (n := -3) ⟨by decide, rfl⟩
  have items : Whole 126 (array [number (Float.ofInt (-3)), null]) :=
    .array (by simp [negative, Whole.null])
  have sorted : ("a\x01" : String) < "ключ" := by decide
  have whole : Whole 127 mixedObject :=
    .object (List.pairwise_pair.mpr sorted) (by simp [items, Whole.string])
  exact ⟨rfl, whole, ofLiteral_display rfl whole⟩

end Value

end Calculator
