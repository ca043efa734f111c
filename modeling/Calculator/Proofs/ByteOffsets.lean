import Mathlib.Data.List.Basic
import Mathlib.Data.Nat.Bitwise

/-!
# Byte offsets in a text

A text is stored as the bytes of its characters, of which a character has up to four.  A place in
the text can be given as a byte offset, but not every offset is one between two characters.  A slice
exists only between offsets that are, and in their order.  The lemmas here say what is found at an
offset in terms of the characters after it: a slice, a character, or a byte that stands for an ASCII
character.
-/

namespace Calculator

namespace Text

/-- An offset is between two characters, or at an end of the text. -/
def IsBoundary (text : String) (offset : Nat) : Prop :=
  String.Pos.Raw.IsValid text ⟨offset⟩

instance (text : String) (offset : Nat) : Decidable (IsBoundary text offset) :=
  inferInstanceAs (Decidable (String.Pos.Raw.IsValid text ⟨offset⟩))

/-- The text between two offsets, if both are boundaries and in order. -/
def slice? (text : String) (first last : Nat) : Option String :=
  if bounds : IsBoundary text first ∧ IsBoundary text last ∧ first ≤ last then
    some (text.extract ⟨⟨first⟩, bounds.1⟩ ⟨⟨last⟩, bounds.2.1⟩)
  else none

/-- The byte at an offset. -/
def byteAt? (text : String) (offset : Nat) : Option UInt8 :=
  text.toByteArray[offset]?

/-- The number of bytes of a list of characters. -/
def byteLength (chars : List Char) : Nat :=
  (String.ofList chars).utf8ByteSize

/-- An offset is a boundary, and the given characters come after it. -/
def StandsBefore (text : String) (offset : Nat) (chars : List Char) : Prop :=
  ∃ before, text.toList = before ++ chars ∧ offset = byteLength before

variable {text : String} {offset first last : Nat} {chars rest before after : List Char} {c : Char}

@[simp]
theorem byteLength_nil : byteLength [] = 0 := by
  simp [byteLength]

@[simp]
theorem byteLength_append (before after : List Char) :
    byteLength (before ++ after) = byteLength before + byteLength after := by
  simp [byteLength]

@[simp]
theorem byteLength_cons (c : Char) (chars : List Char) :
    byteLength (c :: chars) = c.utf8Size + byteLength chars := by
  have single : byteLength [c] = c.utf8Size := by
    simp [byteLength]
  rw [← single, ← byteLength_append, List.singleton_append]

theorem byteLength_toList (text : String) : byteLength text.toList = text.utf8ByteSize := by
  rw [byteLength, String.ofList_toList]

theorem byteLength_pos (filled : chars ≠ []) : 0 < byteLength chars := by
  cases chars with
  | nil => exact absurd rfl filled
  | cons c rest =>
      have sized := c.utf8Size_pos
      rw [byteLength_cons]
      omega

theorem StandsBefore.isBoundary (stands : StandsBefore text offset chars) :
    IsBoundary text offset := by
  obtain ⟨before, split, rfl⟩ := stands
  apply String.Pos.Raw.isValid_iff_exists_append.mpr
  refine ⟨String.ofList before, String.ofList chars, ?_, rfl⟩
  rw [← String.ofList_append, ← split, String.ofList_toList]

/-- At a boundary a text is cut in two. -/
theorem IsBoundary.exists_standsBefore (isBoundary : IsBoundary text offset) :
    ∃ chars, StandsBefore text offset chars := by
  obtain ⟨before, after, split, isOffset⟩ := String.Pos.Raw.isValid_iff_exists_append.mp isBoundary
  refine ⟨after.toList, before.toList, by rw [split, String.toList_append], ?_⟩
  rw [byteLength_toList]
  exact congrArg String.Pos.Raw.byteIdx isOffset

theorem IsBoundary.le (isBoundary : IsBoundary text offset) : offset ≤ text.utf8ByteSize :=
  String.Pos.Raw.IsValid.le_utf8ByteSize isBoundary

theorem standsBefore_zero (text : String) : StandsBefore text 0 text.toList :=
  ⟨[], rfl, byteLength_nil.symm⟩

namespace StandsBefore

theorem add (stands : StandsBefore text offset (before ++ after)) :
    StandsBefore text (offset + byteLength before) after := by
  obtain ⟨earlier, split, rfl⟩ := stands
  exact ⟨earlier ++ before, by rw [split, List.append_assoc], by rw [byteLength_append]⟩

theorem next (stands : StandsBefore text offset (c :: rest)) :
    StandsBefore text (offset + c.utf8Size) rest := by
  have later : StandsBefore text (offset + byteLength [c]) rest :=
    add (by rw [List.singleton_append]; exact stands)
  rwa [byteLength_cons, byteLength_nil, Nat.add_zero] at later

theorem size_eq (stands : StandsBefore text offset chars) :
    text.utf8ByteSize = offset + byteLength chars := by
  obtain ⟨before, split, rfl⟩ := stands
  rw [← byteLength_toList, split, byteLength_append]

theorem eq_add (stands : StandsBefore text first (before ++ after))
    (later : StandsBefore text last after) : last = first + byteLength before := by
  have size := stands.size_eq
  rw [later.size_eq, byteLength_append] at size
  omega

/-- Of two places the first has more text after it. -/
theorem exists_between (stands : StandsBefore text first chars)
    (later : StandsBefore text last rest) (ordered : first ≤ last) :
    ∃ middle, chars = middle ++ rest ∧ last = first + byteLength middle := by
  obtain ⟨before, split, rfl⟩ := stands
  obtain ⟨after, otherSplit, rfl⟩ := later
  rw [split, List.append_eq_append_iff] at otherSplit
  rcases otherSplit with ⟨middle, rfl, isChars⟩ | ⟨middle, rfl, rfl⟩
  · exact ⟨middle, isChars, byteLength_append _ _⟩
  · have isNil : middle = [] := by
      by_contra filled
      have long := byteLength_pos filled
      rw [byteLength_append] at ordered
      omega
    exact ⟨[], by rw [isNil]; rfl, by simp [isNil]⟩

theorem unique (stands : StandsBefore text offset chars)
    (other : StandsBefore text offset rest) : chars = rest := by
  obtain ⟨middle, split, isOffset⟩ := stands.exists_between other (Nat.le_refl offset)
  have isNil : middle = [] := by
    by_contra filled
    have long := byteLength_pos filled
    omega
  rw [split, isNil, List.nil_append]

/-- Where less text is left, the offset is greater. -/
theorem lt_of_length_lt (stands : StandsBefore text first chars)
    (later : StandsBefore text last rest) (shorter : rest.length < chars.length) :
    first < last := by
  by_contra behind
  obtain ⟨middle, split, -⟩ := later.exists_between stands (Nat.le_of_not_lt behind)
  rw [split, List.length_append] at shorter
  omega

/-- The slice from a place to another one after it. -/
theorem slice?_add (stands : StandsBefore text offset (before ++ after)) :
    slice? text offset (offset + byteLength before) = some (String.ofList before) := by
  have bounds : IsBoundary text offset ∧ IsBoundary text (offset + byteLength before) ∧
      offset ≤ offset + byteLength before :=
    ⟨stands.isBoundary, stands.add.isBoundary, Nat.le_add_right _ _⟩
  rw [slice?, dif_pos bounds, Option.some.injEq, ← String.toByteArray_inj,
    String.toByteArray_extract]
  obtain ⟨earlier, split, rfl⟩ := stands
  have isText : text.toByteArray = (String.ofList earlier).toByteArray ++
      ((String.ofList before).toByteArray ++ (String.ofList after).toByteArray) := by
    rw [← String.toByteArray_append, ← String.toByteArray_append, ← String.ofList_append,
      ← String.ofList_append, ← split, String.ofList_toList]
  rw [isText]
  exact (ByteArray.extract_append_size_add (i := 0)).trans (ByteArray.extract_append_eq_left rfl)

/-- The slice from a place to the end. -/
theorem slice?_end (stands : StandsBefore text offset chars) :
    slice? text offset text.utf8ByteSize = some (String.ofList chars) := by
  rw [stands.size_eq]
  rw [← List.append_nil chars] at stands
  exact stands.slice?_add

end StandsBefore

section Bytes

variable {mark : Char}

/-- The first byte of an ASCII character is its code, and that of any other character is none. -/
theorem exists_firstByte (c : Char) :
    ∃ byte, (String.utf8EncodeChar c).head? = some byte ∧
      (c.toNat < 128 ∧ byte.toNat = c.toNat ∨ 128 ≤ c.toNat ∧ 128 ≤ byte.toNat) := by
  have isCode : c.val.toNat = c.toNat := rfl
  rw [String.utf8EncodeChar, isCode]
  split
  · refine ⟨_, rfl, Or.inl ⟨by omega, ?_⟩⟩
    rw [UInt8.toNat_ofNat']
    omega
  · split
    · refine ⟨_, rfl, Or.inr ⟨by omega, ?_⟩⟩
      rw [UInt8.toNat_ofNat']
      omega
    · split
      · refine ⟨_, rfl, Or.inr ⟨by omega, ?_⟩⟩
        rw [UInt8.toNat_ofNat']
        omega
      · refine ⟨_, rfl, Or.inr ⟨by omega, ?_⟩⟩
        rw [UInt8.toNat_ofNat']
        omega

theorem byteAt?_eq_getElem? (text : String) (offset : Nat) :
    byteAt? text offset = (text.toList.flatMap String.utf8EncodeChar)[offset]? := by
  have isData : text.toByteArray.data = (text.toList.flatMap String.utf8EncodeChar).toArray := by
    rw [← String.utf8Encode_toList, List.utf8Encode, List.data_toByteArray]
  have isElement : byteAt? text offset = text.toByteArray.data[offset]? := rfl
  rw [isElement, isData, List.getElem?_toArray]

theorem length_flatMap_utf8EncodeChar (chars : List Char) :
    (chars.flatMap String.utf8EncodeChar).length = byteLength chars := by
  induction chars with
  | nil => simp
  | cons c rest ih => simp [ih]

/-- At a boundary stands the first byte of the character after it. -/
theorem StandsBefore.byteAt?_eq (stands : StandsBefore text offset chars) :
    byteAt? text offset = chars.head?.bind fun c => (String.utf8EncodeChar c).head? := by
  obtain ⟨before, split, rfl⟩ := stands
  rw [byteAt?_eq_getElem?, split, List.flatMap_append, ← length_flatMap_utf8EncodeChar,
    List.getElem?_append_right (Nat.le_refl _), Nat.sub_self, ← List.head?_eq_getElem?]
  cases chars with
  | nil => rfl
  | cons c rest =>
      obtain ⟨byte, isFirst, -⟩ := exists_firstByte c
      rw [List.flatMap_cons, List.head?_append, isFirst, List.head?_cons, Option.bind_some, isFirst]
      rfl

theorem toNat_toUInt8 (ascii : mark.toNat < 128) : mark.toUInt8.toNat = mark.toNat := by
  have isCode : mark.toUInt8.toNat = mark.toNat % 256 := rfl
  omega

/-- The byte of an ASCII character stands only where the character does. -/
theorem StandsBefore.byteAt?_eq_some_iff (stands : StandsBefore text offset chars)
    (ascii : mark.toNat < 128) :
    byteAt? text offset = some mark.toUInt8 ↔ chars.head? = some mark := by
  rw [stands.byteAt?_eq]
  cases chars with
  | nil => simp
  | cons c rest =>
      obtain ⟨byte, isFirst, code⟩ := exists_firstByte c
      rw [List.head?_cons, Option.bind_some, isFirst, Option.some.injEq, Option.some.injEq,
        ← UInt8.toNat_inj, ← Char.toNat_inj, toNat_toUInt8 ascii]
      omega

/-- Decide whether a byte is that of a decimal digit. -/
def isDigitByte (byte : UInt8) : Bool :=
  '0'.toUInt8 ≤ byte && byte ≤ '9'.toUInt8

theorem StandsBefore.any_isDigitByte (stands : StandsBefore text offset chars) :
    (byteAt? text offset).any isDigitByte = chars.head?.any Char.isDigit := by
  rw [stands.byteAt?_eq]
  cases chars with
  | nil => rfl
  | cons c rest =>
      obtain ⟨byte, isFirst, code⟩ := exists_firstByte c
      rw [List.head?_cons, Option.bind_some, isFirst, Option.any_some, Option.any_some,
        Bool.eq_iff_iff]
      simp only [isDigitByte, Char.isDigit, Bool.and_eq_true, decide_eq_true_eq,
        UInt8.le_iff_toNat_le, UInt32.le_iff_toNat_le]
      have isCode : c.val.toNat = c.toNat := rfl
      have low : '0'.toUInt8.toNat = 48 ∧ '0'.val.toNat = 48 := ⟨rfl, rfl⟩
      have high : '9'.toUInt8.toNat = 57 ∧ '9'.val.toNat = 57 := ⟨rfl, rfl⟩
      omega

/-- A byte of an ASCII character never stands within another character. -/
theorem exists_standsBefore_of_byteAt? (ascii : mark.toNat < 128)
    (found : byteAt? text offset = some mark.toUInt8) :
    ∃ rest, StandsBefore text offset (mark :: rest) := by
  obtain ⟨inside, isByte⟩ := getElem?_eq_some_iff.mp found
  have firstByte : mark.toUInt8.IsUTF8FirstByte := by
    refine Or.inl ?_
    rw [← UInt8.toNat_inj, UInt8.toNat_and, toNat_toUInt8 ascii]
    have noBit : mark.toNat.testBit 7 = false := Nat.testBit_lt_two_pow ascii
    simpa [noBit] using Nat.and_two_pow mark.toNat 7
  have isBoundary : IsBoundary text offset := by
    refine String.Pos.Raw.isValid_iff_isUTF8FirstByte.mpr (Or.inr ⟨inside, ?_⟩)
    rwa [String.getUTF8Byte, isByte]
  obtain ⟨chars, stands⟩ := isBoundary.exists_standsBefore
  obtain ⟨rest, rfl⟩ := List.head?_eq_some_iff.mp ((stands.byteAt?_eq_some_iff ascii).mp found)
  exact ⟨rest, stands⟩

end Bytes

end Text

end Calculator
