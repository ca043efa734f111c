import Calculator.Statement
import Calculator.Proofs.CursorConversion

/-!
# The equals sign of a line

The equals sign at which a line is cut is looked for in the bytes of the line, where a byte of an
ASCII character stands for that character only.  So the offset that is found is the place of the
sign that stands alone first, and the slices on both sides of it exist.  The main statement puts
this together with the conversion of expressions: reading by byte offsets never fails for a reason
of its own.
-/

namespace Calculator

namespace Cursor

open Text (IsBoundary StandsBefore byteAt? byteLength)

/-- Decide by the bytes of a line whether an equals sign stands alone at an offset. -/
def isAssignmentAt (line : String) (offset : Nat) : Bool :=
  let has (place : Nat) (mark : Char) : Bool := byteAt? line place == some mark.toUInt8
  has offset '=' && !(has (offset + 1) '=' || has (offset + 1) '~') &&
    !(0 < offset && (has (offset - 1) '=' || has (offset - 1) '!' || has (offset - 1) '<' ||
      has (offset - 1) '>'))

/-- The offset of the first equals sign that stands alone. -/
def assignmentOffset? (line : String) : Option Nat :=
  (List.range line.utf8ByteSize).find? (isAssignmentAt line)

/-- What a line without blanks at its ends asks for.  The parts on both sides of its equals sign are
slices of the line. -/
def classify (line : String) : Except Halt Statement :=
  match assignmentOffset? line with
  | none => .ok (.expression line)
  | some offset => do
    let left := Text.trimChars (← slice line 0 offset).toList
    let right := String.ofList (Text.trimChars (← slice line (offset + 1) line.utf8ByteSize).toList)
    if Statement.isWord left then .ok (.assign (String.ofList left) right)
    else
      match Statement.signature? left with
      | some (name, params) => .ok (.define (String.ofList name) params right)
      | none => .ok (.expression line)

section Lines

variable {line : String} {before after rest chars : List Char} {mark c : Char} {offset : Nat}

theorem hasByte_eq (stands : StandsBefore line offset chars) (ascii : mark.toNat < 128) :
    (byteAt? line offset == some mark.toUInt8) = (chars.head? == some mark) := by
  rw [Bool.eq_iff_iff, beq_iff_eq, beq_iff_eq, stands.byteAt?_eq_some_iff ascii]

/-- The byte before a place is that of an ASCII character only if the character stands there. -/
theorem hasByte_before (split : line.toList = before ++ chars) (ascii : mark.toNat < 128) :
    (decide (0 < byteLength before) && byteAt? line (byteLength before - 1) == some mark.toUInt8) =
      (before.getLast? == some mark) := by
  have oneByte : mark.utf8Size = 1 := by
    apply Char.utf8Size_eq_one_iff.mpr
    exact UInt32.le_iff_toNat_le.mpr (Nat.le_of_lt_succ ascii)
  rw [Bool.eq_iff_iff, Bool.and_eq_true, beq_iff_eq, beq_iff_eq, decide_eq_true_eq]
  constructor
  · rintro ⟨filled, isByte⟩
    obtain ⟨rest, stands⟩ := Text.exists_standsBefore_of_byteAt? ascii isByte
    have isPlace : byteLength before - 1 + mark.utf8Size = byteLength before := by
      omega
    have later : StandsBefore line (byteLength before) rest := isPlace ▸ stands.next
    obtain rfl : chars = rest := StandsBefore.unique ⟨before, split, rfl⟩ later
    obtain ⟨earlier, otherSplit, -⟩ := stands
    have isBefore : before ++ chars = (earlier ++ [mark]) ++ chars := by
      rw [← split, otherSplit, List.append_assoc, List.singleton_append]
    rw [List.append_cancel_right isBefore, List.getLast?_concat]
  · intro isLast
    obtain ⟨earlier, rfl⟩ := List.getLast?_eq_some_iff.mp isLast
    have stands : StandsBefore line (byteLength earlier) (mark :: chars) :=
      ⟨earlier, by rw [split, List.append_assoc]; rfl, rfl⟩
    have size : byteLength (earlier ++ [mark]) = byteLength earlier + 1 := by
      simp [oneByte]
    rw [size, Nat.add_sub_cancel, stands.byteAt?_eq_some_iff ascii]
    exact ⟨Nat.succ_pos _, rfl⟩

/-- At a place between two characters the bytes around it decide as the characters do. -/
theorem isAssignmentAt_eq (split : line.toList = before ++ c :: rest) :
    isAssignmentAt line (byteLength before) =
      (c == '=' && Statement.isAssignment before.getLast? rest.head?) := by
  have stands : StandsBefore line (byteLength before) (c :: rest) := ⟨before, split, rfl⟩
  by_cases isEquals : c = '='
  · subst isEquals
    have later : StandsBefore line (byteLength before + 1) rest := stands.next
    simp only [isAssignmentAt, Bool.and_or_distrib_left,
      hasByte_eq stands (by decide : '='.toNat < 128),
      hasByte_eq later (by decide : '='.toNat < 128),
      hasByte_eq later (by decide : '~'.toNat < 128),
      hasByte_before split (by decide : '='.toNat < 128),
      hasByte_before split (by decide : '!'.toNat < 128),
      hasByte_before split (by decide : '<'.toNat < 128),
      hasByte_before split (by decide : '>'.toNat < 128)]
    simp [Statement.isAssignment]
  · have noSign : (byteAt? line (byteLength before) == some '='.toUInt8) = false := by
      rw [hasByte_eq stands (by decide)]
      simpa using isEquals
    simp [isAssignmentAt, noSign, isEquals]

/-- Within a character no equals sign stands. -/
theorem isAssignmentAt_inside (stands : StandsBefore line offset (c :: rest)) {place : Nat}
    (behind : offset < place) (inside : place < offset + c.utf8Size) :
    isAssignmentAt line place = false := by
  have noSign : (byteAt? line place == some '='.toUInt8) = false := by
    rw [beq_eq_false_iff_ne]
    intro isByte
    obtain ⟨later, sign⟩ := Text.exists_standsBefore_of_byteAt? (by decide) isByte
    obtain ⟨middle, isMiddle, isPlace⟩ := stands.exists_between sign (Nat.le_of_lt behind)
    cases middle with
    | nil =>
        rw [Text.byteLength_nil] at isPlace
        omega
    | cons first others =>
        obtain ⟨rfl, -⟩ := List.cons.inj isMiddle
        rw [Text.byteLength_cons] at isPlace
        omega
  simp [isAssignmentAt, noSign]

theorem find?_first (split : line.toList = before ++ c :: rest) :
    (List.range' (byteLength before) c.utf8Size).find? (isAssignmentAt line) =
      if c = '=' ∧ Statement.isAssignment before.getLast? rest.head? then some (byteLength before)
      else none := by
  have stands : StandsBefore line (byteLength before) (c :: rest) := ⟨before, split, rfl⟩
  obtain ⟨more, isSize⟩ := Nat.exists_eq_succ_of_ne_zero (Nat.ne_of_gt c.utf8Size_pos)
  have noneInside : (List.range' (byteLength before + 1) more).find? (isAssignmentAt line) =
      none := by
    rw [List.find?_eq_none]
    intro place member
    obtain ⟨above, below⟩ := List.mem_range'_1.mp member
    rw [isAssignmentAt_inside stands (by omega) (by omega)]
    exact Bool.false_ne_true
  rw [isSize, List.range'_succ, List.find?_cons, isAssignmentAt_eq split, noneInside]
  by_cases alone : c = '=' ∧ Statement.isAssignment before.getLast? rest.head? = true
  · simp [alone]
  · rw [if_neg alone]
    have notHere : (c == '=' && Statement.isAssignment before.getLast? rest.head?) = false := by
      rw [Bool.eq_false_iff]
      simpa using alone
    rw [notHere]

/-- The search through the bytes after a place finds where the characters after it are cut. -/
theorem find?_isAssignmentAt (split : line.toList = before ++ chars) :
    (List.range' (byteLength before) (byteLength chars)).find? (isAssignmentAt line) =
      (Statement.splitAssignment? before.getLast? chars).map fun (left, _) =>
        byteLength before + byteLength left := by
  induction chars generalizing before with
  | nil => rfl
  | cons c rest ih =>
      have laterSplit : line.toList = (before ++ [c]) ++ rest := by
        rw [split, List.append_assoc, List.singleton_append]
      have later := ih laterSplit
      rw [Text.byteLength_append, Text.byteLength_cons, Text.byteLength_nil, Nat.add_zero,
        List.getLast?_concat] at later
      rw [Text.byteLength_cons, ← List.range'_append_1, List.find?_append, find?_first split, later,
        Statement.splitAssignment?]
      split
      · simp
      · simp [Function.comp_def, Nat.add_assoc]

theorem append_of_splitAssignment? {previous : Option Char}
    (cut : Statement.splitAssignment? previous chars = some (before, after)) :
    chars = before ++ '=' :: after := by
  induction chars generalizing previous before with
  | nil => cases cut
  | cons c rest ih =>
      rw [Statement.splitAssignment?] at cut
      split at cut
      · next alone =>
        cases cut
        rw [alone.1, List.nil_append]
      · obtain ⟨⟨left, right⟩, laterCut, ⟨⟩⟩ := Option.map_eq_some_iff.mp cut
        rw [List.cons_append, ← ih laterCut]

/-- The slices on both sides of the equals sign exist, and are what the line is cut into. -/
theorem classify_eq (line : String) : classify line = .ok (Statement.ofChars line.toList) := by
  have whole : line.toList = [] ++ line.toList := rfl
  have found := find?_isAssignmentAt whole
  rw [Text.byteLength_nil, Text.byteLength_toList, ← List.range_eq_range'] at found
  have isOffset : assignmentOffset? line = _ := found
  rw [classify, isOffset, Statement.ofChars, List.getLast?_nil]
  cases cut : Statement.splitAssignment? none line.toList with
  | none => simp
  | some parts =>
      obtain ⟨before, after⟩ := parts
      have split := append_of_splitAssignment? cut
      have stands : StandsBefore line 0 (before ++ '=' :: after) :=
        split ▸ Text.standsBefore_zero line
      have sign : StandsBefore line (0 + byteLength before) ('=' :: after) := stands.add
      have later : StandsBefore line (0 + byteLength before + 1) after := sign.next
      have isRight : slice line (0 + byteLength before + 1) line.utf8ByteSize =
          .ok (String.ofList after) := by
        rw [slice, later.slice?_end]
      simp only [Option.map_some, slice_eq stands sign, isRight, ok_bind, String.toList_ofList]
      split
      · rfl
      · cases Statement.signature? (Text.trimChars before) with
        | none => rw [String.ofList_toList]
        | some signature => rfl

end Lines

/-- Whenever a conversion comes to a new lexeme, its cursor and the offsets of all indexes that are
open lie between two characters of the text, in their order, and the next pass returns or moves the
cursor forward.  So every conversion ends, with what the text is converted to and not with a fault
of the cursor, and a line is cut at its equals sign without one. -/
theorem conversion_stays_on_boundaries (text : String) (arity? : String → Option Nat) :
    (∀ state, Reached text arity? state →
      IsBoundary text state.cursor ∧ state.cursor ≤ text.utf8ByteSize ∧
        (∀ offset, .opened (.index offset) ∈ state.frames →
          IsBoundary text offset ∧ offset ≤ state.cursor) ∧
        ((∃ outcome : Except Error Program,
            pass text arity? state = (outcome.mapError .failed).map .inl) ∨
          ∃ next, pass text arity? state = .ok (.inr next) ∧ state.cursor < next.cursor)) ∧
    (∀ outcome, Returns text arity? State.start outcome ↔
      outcome = (convert arity? text).mapError .failed) ∧
    classify text = .ok (Statement.ofChars text.toList) := by
  refine ⟨fun state reached => ?_, fun outcome => returns_start_iff, classify_eq text⟩
  have sound := sound_of_reached reached
  obtain ⟨chars, stands⟩ := sound.boundary.exists_standsBefore
  refine ⟨sound.boundary, sound.boundary.le, sound.opened, ?_⟩
  have passes := passesAs_pass arity? sound stands
  generalize (state.resolve text).run arity? chars = expected at passes
  generalize pass text arity? state = outcome at passes
  cases passes with
  | failed error => exact Or.inl ⟨.error error, rfl⟩
  | finished program => exact Or.inl ⟨.ok program, rfl⟩
  | continued nextSound forward => exact Or.inr ⟨_, rfl, forward⟩

end Cursor

end Calculator
