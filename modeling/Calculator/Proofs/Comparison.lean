import Calculator.Value.Operations
import Mathlib

/-!
# Equality and order of values

Equality and the four order relations choose a rule for every pair of kinds, and each of them
chooses for itself.  The main statement is that the choices fit together: equality is symmetric,
the order of two values turns around with them, and every pair of values that are no arrays or
objects is less, equal, greater, or without an order, which only happens where a numeric form is
not a number.  The order of doubles is that of their model.
-/

namespace Calculator

/-! ## The order of doubles and of texts -/

namespace Decimal

open Float.Model

theorem compare_swap (x y : UnpackedFloat) : y.compare x = (x.compare y).map Ordering.swap := by
  have exponents (e f : Int) : Ord.compare f e = (Ord.compare e f).swap :=
    Std.OrientedCmp.eq_swap
  have significands (m n : Nat) : Ord.compare n m = (Ord.compare m n).swap :=
    Std.OrientedCmp.eq_swap
  cases x with
  | notANumber => cases y <;> rfl
  | infinity sign =>
      cases y with
      | infinity other => cases sign <;> cases other <;> rfl
      | _ => cases sign <;> rfl
  | zero sign =>
      cases y with
      | notANumber | zero => rfl
      | infinity other => cases other <;> rfl
      | finite other => cases other <;> rfl
  | finite sign significand exponent =>
      cases y with
      | notANumber | zero => cases sign <;> rfl
      | infinity other => cases sign <;> cases other <;> rfl
      | finite other otherSignificand otherExponent =>
          cases sign <;> cases other <;>
            simp [UnpackedFloat.compare, exponents exponent, significands significand,
              Ordering.swap_then]

theorem compare_eq_none_iff (x y : UnpackedFloat) :
    x.compare y = none ↔ x.isNaN = true ∨ y.isNaN = true := by
  rw [UnpackedFloat.isNaN_iff, UnpackedFloat.isNaN_iff]
  fun_cases UnpackedFloat.compare x y <;> simp_all

variable (x y : Float)

theorem lt_iff_compare : x < y ↔ x.toModel.unpack.compare y.toModel.unpack = some .lt := by
  change Float.lt x y = true ↔ _
  simp only [Float.lt, decide_eq_true_eq]
  change Float.Model.lt x.toModel y.toModel = true ↔ _
  simp [Float.Model.lt, UnpackedFloat.lt]

theorem beq_iff_compare :
    (x == y) = true ↔ x.toModel.unpack.compare y.toModel.unpack = some .eq := by
  change (x.toModel.unpack.compare y.toModel.unpack == some .eq) = true ↔ _
  exact beq_iff_eq

end Decimal

namespace Value

open Decimal

section Numbers

variable (x y : Float)

/-- The order that two comparisons and an equality find is the order of the model. -/
theorem orderNumbers?_eq_compare :
    orderNumbers? x y = x.toModel.unpack.compare y.toModel.unpack := by
  have less := lt_iff_compare x y
  have equal := beq_iff_compare x y
  have greater := lt_iff_compare y x
  rw [compare_swap x.toModel.unpack y.toModel.unpack] at greater
  unfold orderNumbers?
  cases found : x.toModel.unpack.compare y.toModel.unpack with
  | none => simp_all
  | some order => cases order <;> simp_all

theorem orderNumbers?_swap : orderNumbers? y x = (orderNumbers? x y).map Ordering.swap := by
  rw [orderNumbers?_eq_compare, orderNumbers?_eq_compare, compare_swap]

theorem orderNumbers?_eq_none_iff :
    orderNumbers? x y = none ↔ x.isNaN = true ∨ y.isNaN = true := by
  rw [orderNumbers?_eq_compare]
  exact compare_eq_none_iff _ _

theorem orderNumbers?_eq_some_eq_iff : orderNumbers? x y = some .eq ↔ (x == y) = true := by
  rw [orderNumbers?_eq_compare, beq_iff_compare]

end Numbers

theorem orderTexts_swap (first second : String) :
    orderTexts second first = (orderTexts first second).swap :=
  (Std.OrientedCmp.eq_swap : Ord.compare second first = (Ord.compare first second).swap)

theorem orderTexts_eq_eq_iff (first second : String) :
    orderTexts first second = .eq ↔ first = second :=
  (compare_eq_iff_eq : Ord.compare first second = .eq ↔ first = second)

/-! ## Equality -/

mutual

theorem same_comm : ∀ left right : Value, left.same right = right.same left
  | .null, right => by cases right <;> simp [same]
  | .boolean first, right => by cases right <;> simp [same, Bool.beq_comm]
  | .number first, right => by cases right <;> simp [same, BEq.comm (a := first)]
  | .string first, right => by cases right <;> simp [same, BEq.comm]
  | .array firsts, right => by cases right <;> simp [same, sameItems_comm firsts]
  | .object firsts, right => by cases right <;> simp [same, sameEntries_comm firsts]

theorem sameItems_comm : ∀ firsts seconds : List Value,
    sameItems firsts seconds = sameItems seconds firsts
  | [], seconds => by cases seconds <;> simp [sameItems]
  | first :: firsts, seconds => by
      cases seconds with
      | nil => simp [sameItems]
      | cons second seconds =>
          simp [sameItems, same_comm first second, sameItems_comm firsts seconds]

theorem sameEntries_comm : ∀ firsts seconds : List (String × Value),
    sameEntries firsts seconds = sameEntries seconds firsts
  | [], seconds => by cases seconds <;> simp [sameEntries]
  | (key, first) :: firsts, seconds => by
      cases seconds with
      | nil => simp [sameEntries]
      | cons entry seconds =>
          simp [sameEntries, same_comm first entry.2, sameEntries_comm firsts seconds, BEq.comm]

end

theorem equalNumbers_comm (first second : Option Float) :
    equalNumbers first second = equalNumbers second first := by
  cases first <;> cases second <;> simp [equalNumbers, BEq.comm]

theorem looselyEqual_comm (left right : Value) :
    left.looselyEqual right = right.looselyEqual left := by
  simp only [looselyEqual, same_comm left, equalNumbers_comm left.asNumber?,
    Bool.or_comm left.isStructured, Bool.or_comm left.isString,
    Bool.and_comm left.isStructured, BEq.comm (a := left.asText)]

/-! ## Order -/

theorem compare_of_isStructured {left right : Value}
    (structured : left.isStructured = true ∨ right.isStructured = true) (operation : String) :
    compare operation left right =
      .error (.typeMismatch operation (if left.isStructured then left.kind else right.kind)) := by
  unfold compare
  split
  · rfl
  · next plain => rw [if_pos (structured.resolve_left plain)]

/-- The order of two values that are no arrays or objects. -/
def plainOrder (left right : Value) : Option Ordering :=
  match left.isString && right.isString, left.asNumber?, right.asNumber? with
  | false, some x, some y => orderNumbers? x y
  | _, _, _ => some (orderTexts left.asText right.asText)

theorem plainOrder_swap (left right : Value) :
    plainOrder right left = (plainOrder left right).map Ordering.swap := by
  have texts := orderTexts_swap left.asText right.asText
  unfold plainOrder
  rw [Bool.and_comm]
  cases left.isString && right.isString with
  | true => simp [texts]
  | false =>
      cases left.asNumber? with
      | none => simp [texts]
      | some x =>
          cases right.asNumber? with
          | none => simp [texts]
          | some y => exact orderNumbers?_swap x y

/-- Only numbers may be without an order, and only if one of them is not a number. -/
theorem plainOrder_eq_none_iff {left right : Value} :
    plainOrder left right = none ↔ (left.isString && right.isString) = false ∧
      ∃ x y, left.asNumber? = some x ∧ right.asNumber? = some y ∧
        (x.isNaN = true ∨ y.isNaN = true) := by
  unfold plainOrder
  cases left.isString && right.isString with
  | true => simp
  | false =>
      cases left.asNumber? with
      | none => simp
      | some x =>
          cases right.asNumber? with
          | none => simp
          | some y => simp [orderNumbers?_eq_none_iff]

theorem exists_asNumber? {plain : Value} (isPlain : plain.isStructured = false)
    (noString : plain.isString = false) : ∃ x, plain.asNumber? = some x := by
  cases plain with
  | null | boolean | number => exact ⟨_, rfl⟩
  | string => cases noString
  | array | object => cases isPlain

section Plain

variable {left right : Value} (leftPlain : left.isStructured = false)
  (rightPlain : right.isStructured = false)

include leftPlain rightPlain

theorem compare_of_plain (operation : String) :
    compare operation left right = .ok (plainOrder left right) := by
  simp only [compare, plainOrder, leftPlain, rightPlain, Bool.false_eq_true, if_false]
  cases left.isString && right.isString with
  | true => rfl
  | false => cases left.asNumber? <;> cases right.asNumber? <;> rfl

theorem ordered_of_plain (operation : String) (accepts : Ordering → Bool) :
    ordered operation accepts left right =
      .ok (boolean (((plainOrder left right).map accepts).getD false)) := by
  rw [ordered, compare_of_plain leftPlain rightPlain]
  rfl

/-- Two strings are equal, and so are two values of other kinds, if their order says so. -/
theorem looselyEqual_iff_plainOrder (alike : left.isString = right.isString) :
    left.looselyEqual right = true ↔ plainOrder left right = some .eq := by
  simp only [looselyEqual, plainOrder, leftPlain, rightPlain, ← alike, Bool.or_self,
    Bool.and_self, Bool.false_eq_true, if_false]
  cases leftString : left.isString with
  | true => simp [orderTexts_eq_eq_iff]
  | false =>
      obtain ⟨x, isX⟩ := exists_asNumber? leftPlain leftString
      obtain ⟨y, isY⟩ := exists_asNumber? rightPlain (alike ▸ leftString)
      simp [isX, isY, equalNumbers, orderNumbers?_eq_some_eq_iff]

end Plain

/-! ## The relations together -/

/-- The four order relations on two values have these answers. -/
structure Answers (left right : Value) (less lessEqual greater greaterEqual : Bool) : Prop where
  less : apply .less left right = .ok (boolean less)
  lessEqual : apply .lessEqual left right = .ok (boolean lessEqual)
  greater : apply .greater left right = .ok (boolean greater)
  greaterEqual : apply .greaterEqual left right = .ok (boolean greaterEqual)

/-- The answers that follow from an order, or from its absence. -/
def AnswersBy (left right : Value) : Option Ordering → Prop
  | some .lt => Answers left right true true false false
  | some .eq => Answers left right false true false true
  | some .gt => Answers left right false false true true
  | none => Answers left right false false false false

/-- Two values have an order, or have none, and all relations on them follow it. -/
structure RelatedBy (left right : Value) (order : Option Ordering) : Prop where
  compares (operation : String) : compare operation left right = .ok order
  turns (operation : String) : compare operation right left = .ok (order.map Ordering.swap)
  less_eq_greater : apply .less left right = apply .greater right left
  lessEqual_eq_greaterEqual : apply .lessEqual left right = apply .greaterEqual right left
  answers : AnswersBy left right order
  unordered_iff : order = none ↔ (left.isString && right.isString) = false ∧
    ∃ x y, left.asNumber? = some x ∧ right.asNumber? = some y ∧ (x.isNaN = true ∨ y.isNaN = true)
  equal_iff : left.isString = right.isString →
    (left.looselyEqual right = true ↔ order = some .eq)

section Plain

variable {left right : Value} (leftPlain : left.isStructured = false)
  (rightPlain : right.isStructured = false)

include leftPlain rightPlain

/-- A relation on two values is the turned one on the values in the other order. -/
theorem ordered_turned {accepts turned : Ordering → Bool}
    (same : ∀ order, accepts order = turned order.swap) (operation other : String) :
    ordered operation accepts left right = ordered other turned right left := by
  rw [ordered_of_plain leftPlain rightPlain, ordered_of_plain rightPlain leftPlain,
    plainOrder_swap left right]
  cases plainOrder left right with
  | none => rfl
  | some order => simp [same order]

theorem answersBy_plainOrder : AnswersBy left right (plainOrder left right) := by
  have answers := ordered_of_plain leftPlain rightPlain
  cases order : plainOrder left right with
  | none =>
      simp only [order] at answers
      exact ⟨answers _ _, answers _ _, answers _ _, answers _ _⟩
  | some found =>
      simp only [order] at answers
      cases found <;> exact ⟨answers _ _, answers _ _, answers _ _, answers _ _⟩

theorem relatedBy_plainOrder : RelatedBy left right (plainOrder left right) where
  compares := compare_of_plain leftPlain rightPlain
  turns operation := by rw [compare_of_plain rightPlain leftPlain, plainOrder_swap]
  less_eq_greater := ordered_turned leftPlain rightPlain (fun order => by cases order <;> rfl) _ _
  lessEqual_eq_greaterEqual :=
    ordered_turned leftPlain rightPlain (fun order => by cases order <;> rfl) _ _
  answers := answersBy_plainOrder leftPlain rightPlain
  unordered_iff := plainOrder_eq_none_iff
  equal_iff := looselyEqual_iff_plainOrder leftPlain rightPlain

end Plain

/-- Equality is symmetric.  There is no order for arrays and objects, and all other values are
related by one or have none. -/
theorem exists_relatedBy (left right : Value) :
    left.looselyEqual right = right.looselyEqual left ∧
      (∀ operation, (∃ error, compare operation left right = .error error) ↔
        left.isStructured = true ∨ right.isStructured = true) ∧
      (left.isStructured = false → right.isStructured = false →
        ∃ order, RelatedBy left right order) := by
  refine ⟨looselyEqual_comm left right, fun operation => ⟨?_, fun structured => ?_⟩,
    fun leftPlain rightPlain => ⟨_, relatedBy_plainOrder leftPlain rightPlain⟩⟩
  · rintro ⟨error, failed⟩
    by_contra plain
    rw [not_or, Bool.not_eq_true, Bool.not_eq_true] at plain
    rw [compare_of_plain plain.1 plain.2] at failed
    cases failed
  · exact ⟨_, compare_of_isStructured structured operation⟩

theorem exists_relatedBy_notANumber :
    Answers (string " NaN ") (boolean true) false false false false ∧
      RelatedBy (string " NaN ") (boolean true) none := by
  obtain ⟨order, related⟩ := (exists_relatedBy (string " NaN ") (boolean true)).2.2 rfl rfl
  have none : order = none := related.unordered_iff.mpr ⟨rfl, _, _, rfl, rfl, .inl (by decide)⟩
  subst none
  exact ⟨related.answers, related⟩

end Value

end Calculator
