import Calculator.Proofs.Tree

/-!
# Trees that follow the operator table

An expression is read from left to right, and the operator table decides which operators are
applied before the next one is read.  A tree is grammatical if every operator takes the operands
that this gives it: the operators that wait at the end of a left operand are applied before the
operator between the operands is read, and no operator at the start of a right operand takes
precedence over it.  The main statement describes grammatical trees without any stack: along
every path that no parenthesis interrupts, precedences do not fall, and equal precedences occur
only on the side to which the upper operator associates.
-/

namespace Calculator

namespace Op

theorem not_yieldsTo_power (pending : Op) : pending.yieldsTo (.binary .power) = false := by
  decide +revert

theorem eq_power_of_unary_waits {op : UnaryOp} {incoming : BinaryOp}
    (waits : (unary op).yieldsTo (.binary incoming) = false) : incoming = .power := by
  cases op <;> cases incoming <;> first | rfl | cases waits

theorem isRightAssociative_iff {op : BinaryOp} :
    (binary op).isRightAssociative = true ↔ op = .power := by
  cases op <;> decide

theorem precedence_le_power (op : Op) : op.precedence ≤ (binary .power).precedence := by
  decide +revert

theorem isRightAssociative_of_tightest {op : BinaryOp} :
    (binary op).precedence = (binary .power).precedence →
      (binary op).isRightAssociative = true := by
  cases op <;> decide

theorem precedence_le_of_yieldsTo {pending incoming : Op}
    (yields : pending.yieldsTo incoming = true) : incoming.precedence ≤ pending.precedence := by
  unfold yieldsTo at yields
  split at yields
  · exact Nat.le_of_lt (of_decide_eq_true yields)
  · exact of_decide_eq_true yields

/-- An operator that is read waits for the next one if that is an exponentiation or binds
tighter. -/
theorem waits_iff {pending : Op} {incoming : BinaryOp} :
    pending.yieldsTo (.binary incoming) = false ↔
      incoming = .power ∨ pending.precedence < (binary incoming).precedence := by
  by_cases isPower : incoming = .power
  · simp [isPower, not_yieldsTo_power]
  · have groupsLeft : (binary incoming).isRightAssociative = false :=
      Bool.eq_false_iff.mpr (mt isRightAssociative_iff.mp isPower)
    simp [yieldsTo, groupsLeft, isPower]

/-- An operator that is applied before a second one, which is applied before a third, is itself
applied before the third. -/
theorem yieldsTo_trans {first second : Op} {third : BinaryOp}
    (early : first.yieldsTo second = true) (late : second.yieldsTo (.binary third) = true) :
    first.yieldsTo (.binary third) = true := by
  have lower := Nat.le_trans (precedence_le_of_yieldsTo late) (precedence_le_of_yieldsTo early)
  cases waits : first.yieldsTo (.binary third) with
  | true => rfl
  | false =>
      rcases waits_iff.mp waits with isPower | tighter
      · rw [isPower, not_yieldsTo_power] at late
        cases late
      · omega

theorem waits_trans {first second third : BinaryOp}
    (early : (binary first).yieldsTo (.binary second) = false)
    (late : (binary second).yieldsTo (.binary third) = false) :
    (binary first).yieldsTo (.binary third) = false := by
  rw [waits_iff] at early late ⊢
  rcases late with isPower | tighter
  · exact Or.inl isPower
  · right
    rcases early with isPower | loose
    · have atMost := precedence_le_power (binary third)
      rw [isPower] at tighter
      omega
    · exact Nat.lt_trans loose tighter

end Op

namespace Tree

variable {α : Type}

/-- The operators of a tree that still wait when its last lexeme was read, the latest first. -/
def pending : Tree α → List Op
  | unary op operand => operand.pending ++ [.unary op]
  | binary op _ right => right.pending ++ [.binary op]
  | _ => []

/-- The tokens of a tree that were put out when its last lexeme was read. -/
def emitted (token : α → Token) : Tree α → Program
  | unary _ operand => operand.emitted token
  | binary _ left right => left.postorder token ++ right.emitted token
  | primary => primary.postorder token

/-- The binary operators of a tree that have the whole text of the tree before them, from its
first lexeme on, as their left operand. -/
def leading : Tree α → List BinaryOp
  | binary op left _ => left.leading ++ [op]
  | _ => []

/-- What was put out and what waits make up the program of a tree. -/
theorem emitted_append_pending (token : α → Token) (tree : Tree α) :
    tree.emitted token ++ tree.pending.map Token.op = tree.postorder token := by
  induction tree with
  | unary op operand ih =>
      simp only [emitted, pending, postorder, List.map_append, ← ih, List.append_assoc]
      rfl
  | binary op left right _ ih =>
      simp only [emitted, pending, postorder, List.map_append, ← ih, List.append_assoc]
      rfl
  | _ => simp [emitted, pending]

theorem pending_eq_nil_iff {tree : Tree α} : tree.pending = [] ↔ tree.rootOp? = none := by
  cases tree <;> simp [pending, rootOp?]

theorem leading_of_primary {tree : Tree α} (primary : tree.rootOp? = none) :
    tree.leading = [] := by
  cases tree <;> first | rfl | cases primary

/-- A tree in which every operator takes the operands that the operator table gives it, and every
call has as many arguments as the context says that the function takes. -/
inductive Grammatical (arity? : String → Option Nat) : Tree α → Prop
  | leaf (operand : α) : Grammatical arity? (leaf operand)
  | group {body : Tree α} (inside : Grammatical arity? body) : Grammatical arity? (group body)
  | unary {op : UnaryOp} {operand : Tree α} (inside : Grammatical arity? operand)
      (waits : ∀ later ∈ operand.leading, (Op.unary op).yieldsTo (.binary later) = false) :
      Grammatical arity? (unary op operand)
  | binary {op : BinaryOp} {left right : Tree α} (before : Grammatical arity? left)
      (after : Grammatical arity? right)
      (yields : ∀ earlier ∈ left.pending, earlier.yieldsTo (.binary op) = true)
      (waits : ∀ later ∈ right.leading, (Op.binary op).yieldsTo (.binary later) = false) :
      Grammatical arity? (binary op left right)
  | index {container selector : Tree α} (before : Grammatical arity? container)
      (inside : Grammatical arity? selector) (primary : container.rootOp? = none) :
      Grammatical arity? (index container selector)
  | call {name : String} {arguments : List (Tree α)}
      (inside : ∀ argument ∈ arguments, Grammatical arity? argument)
      (complete : arity? name = some arguments.length) :
      Grammatical arity? (call name arguments)

/-- The binary operators of a tree that no parenthesis, argument list or selector encloses. -/
def openOperators : Tree α → List BinaryOp
  | unary _ operand => operand.openOperators
  | binary op left right => left.openOperators ++ op :: right.openOperators
  | index container _ => container.openOperators
  | _ => []

section Enclosing

variable {arity? : String → Option Nat} {tree : Tree α}

theorem openOperators_of_primary (grammatical : tree.Grammatical arity?)
    (primary : tree.rootOp? = none) : tree.openOperators = [] := by
  induction grammatical with
  | leaf operand => rfl
  | group inside ih => rfl
  | unary inside waits ih => cases primary
  | binary before after yields waits beforeIH afterIH => cases primary
  | index before inside containerPrimary beforeIH insideIH => exact beforeIH containerPrimary
  | call inside complete ih => rfl

/-- An operator before which all waiting operators of a tree are applied comes after every open
operator of the tree. -/
theorem yieldsTo_of_mem_openOperators {op inner : BinaryOp}
    (grammatical : tree.Grammatical arity?)
    (yields : ∀ earlier ∈ tree.pending, earlier.yieldsTo (.binary op) = true)
    (member : inner ∈ tree.openOperators) : (Op.binary inner).yieldsTo (.binary op) = true := by
  induction grammatical generalizing op with
  | leaf operand => cases member
  | group inside ih => cases member
  | unary inside waits ih =>
      exact ih (fun earlier isEarlier => yields earlier (List.mem_append_left _ isEarlier)) member
  | binary before after leftYields waits beforeIH afterIH =>
      have rootYields := yields _ (List.mem_append_right _ (List.mem_singleton.mpr rfl))
      rcases List.mem_append.mp member with inLeft | inRoot
      · exact Op.yieldsTo_trans (beforeIH leftYields inLeft) rootYields
      · rcases List.mem_cons.mp inRoot with isRoot | inRight
        · rw [isRoot]
          exact rootYields
        · exact afterIH
            (fun earlier isEarlier => yields earlier (List.mem_append_left _ isEarlier)) inRight
  | index before inside primary beforeIH insideIH =>
      rw [openOperators, openOperators_of_primary before primary] at member
      cases member
  | call inside complete ih => cases member

/-- If a tree starts with exponentiations at most, then it has no other open operators. -/
theorem eq_power_of_mem_openOperators {inner : BinaryOp} (grammatical : tree.Grammatical arity?)
    (powers : ∀ later ∈ tree.leading, later = .power) (member : inner ∈ tree.openOperators) :
    inner = .power := by
  induction grammatical with
  | leaf operand => cases member
  | group inside ih => cases member
  | unary inside waits ih =>
      exact ih (fun later isLater => Op.eq_power_of_unary_waits (waits later isLater)) member
  | @binary op left right before after yields waits beforeIH afterIH =>
      have rootPower := powers op (List.mem_append_right _ (List.mem_singleton.mpr rfl))
      rcases List.mem_append.mp member with inLeft | inRoot
      · -- Nothing is applied before an exponentiation, so the left operand has no open operator.
        have early := yieldsTo_of_mem_openOperators before yields inLeft
        rw [rootPower, Op.not_yieldsTo_power] at early
        cases early
      · rcases List.mem_cons.mp inRoot with isRoot | inRight
        · rw [isRoot]
          exact rootPower
        · refine afterIH (fun later isLater => ?_) inRight
          rcases Op.waits_iff.mp (waits later isLater) with isPower | tighter
          · exact isPower
          · have atMost := Op.precedence_le_power (.binary later)
            rw [rootPower] at tighter
            omega
  | index before inside primary beforeIH insideIH =>
      rw [openOperators, openOperators_of_primary before primary] at member
      cases member
  | call inside complete ih => cases member

/-- An operator that waits for all operators with which a tree starts waits for every open
operator of the tree. -/
theorem waits_of_mem_openOperators {op inner : BinaryOp} (grammatical : tree.Grammatical arity?)
    (waits : ∀ later ∈ tree.leading, (Op.binary op).yieldsTo (.binary later) = false)
    (member : inner ∈ tree.openOperators) :
    (Op.binary op).yieldsTo (.binary inner) = false := by
  induction grammatical generalizing op with
  | leaf operand => cases member
  | group inside ih => cases member
  | unary inside unaryWaits ih =>
      have isPower := eq_power_of_mem_openOperators inside
        (fun later isLater => Op.eq_power_of_unary_waits (unaryWaits later isLater)) member
      rw [isPower]
      exact Op.not_yieldsTo_power _
  | binary before after yields rightWaits beforeIH afterIH =>
      have rootWaits := waits _ (List.mem_append_right _ (List.mem_singleton.mpr rfl))
      rcases List.mem_append.mp member with inLeft | inRoot
      · exact beforeIH
          (fun later isLater => waits later (List.mem_append_left _ isLater)) inLeft
      · rcases List.mem_cons.mp inRoot with isRoot | inRight
        · rw [isRoot]
          exact rootWaits
        · exact Op.waits_trans rootWaits (afterIH rightWaits inRight)
  | index before inside primary beforeIH insideIH =>
      rw [openOperators, openOperators_of_primary before primary] at member
      cases member
  | call inside complete ih => cases member

theorem grammatical_of_mem_subtrees {subtree : Tree α} (grammatical : tree.Grammatical arity?)
    (member : subtree ∈ tree.subtrees) : subtree.Grammatical arity? := by
  induction grammatical with
  | leaf operand =>
      rw [List.mem_singleton.mp member]
      exact .leaf operand
  | group inside ih =>
      rcases List.mem_cons.mp member with isRoot | isInside
      · rw [isRoot]
        exact .group inside
      · exact ih isInside
  | unary inside waits ih =>
      rcases List.mem_cons.mp member with isRoot | isInside
      · rw [isRoot]
        exact .unary inside waits
      · exact ih isInside
  | binary before after yields waits beforeIH afterIH =>
      rcases List.mem_cons.mp member with isRoot | isInside
      · rw [isRoot]
        exact .binary before after yields waits
      · exact (List.mem_append.mp isInside).elim beforeIH afterIH
  | index before inside primary beforeIH insideIH =>
      rcases List.mem_cons.mp member with isRoot | isInside
      · rw [isRoot]
        exact .index before inside primary
      · exact (List.mem_append.mp isInside).elim beforeIH insideIH
  | call inside complete ih =>
      rcases List.mem_cons.mp member with isRoot | isInside
      · rw [isRoot]
        exact .call inside complete
      · obtain ⟨argument, isArgument, isBelow⟩ := mem_subtreesAll.mp isInside
        exact ih argument isArgument isBelow

end Enclosing

/-- At the root of a tree the operator table is respected.  Below a unary operator only
exponentiations stand open.  The open operators below a binary one do not bind looser, those that
bind equally stand on the side to which the operator associates, and a power has no unary operator
as its left operand. -/
def FollowsTable : Tree α → Prop
  | unary _ operand => ∀ inner ∈ operand.openOperators, inner = .power
  | binary op left right =>
    (∀ inner ∈ left.openOperators,
      (Op.binary op).precedence ≤ (Op.binary inner).precedence ∧
        ((Op.binary op).precedence = (Op.binary inner).precedence →
          (Op.binary op).isRightAssociative = false)) ∧
      (∀ inner ∈ right.openOperators,
        (Op.binary op).precedence ≤ (Op.binary inner).precedence ∧
          ((Op.binary op).precedence = (Op.binary inner).precedence →
            (Op.binary op).isRightAssociative = true)) ∧
      (op = .power → ∀ sign operand, left ≠ unary sign operand)
  | _ => True

section Table

variable {arity? : String → Option Nat} {op : BinaryOp} {left right : Tree α}

theorem left_followsTable (before : left.Grammatical arity?)
    (yields : ∀ earlier ∈ left.pending, earlier.yieldsTo (.binary op) = true) {inner : BinaryOp}
    (member : inner ∈ left.openOperators) :
    (Op.binary op).precedence ≤ (Op.binary inner).precedence ∧
      ((Op.binary op).precedence = (Op.binary inner).precedence →
        (Op.binary op).isRightAssociative = false) := by
  have innerYields := yieldsTo_of_mem_openOperators before yields member
  refine ⟨Op.precedence_le_of_yieldsTo innerYields, fun _ => ?_⟩
  cases groups : (Op.binary op).isRightAssociative with
  | false => rfl
  | true =>
      rw [Op.isRightAssociative_iff.mp groups, Op.not_yieldsTo_power] at innerYields
      cases innerYields

theorem right_followsTable (after : right.Grammatical arity?)
    (waits : ∀ later ∈ right.leading, (Op.binary op).yieldsTo (.binary later) = false)
    {inner : BinaryOp} (member : inner ∈ right.openOperators) :
    (Op.binary op).precedence ≤ (Op.binary inner).precedence ∧
      ((Op.binary op).precedence = (Op.binary inner).precedence →
        (Op.binary op).isRightAssociative = true) := by
  rcases Op.waits_iff.mp (waits_of_mem_openOperators after waits member) with isPower | tighter
  · rw [isPower]
    exact ⟨Op.precedence_le_power _, Op.isRightAssociative_of_tightest⟩
  · exact ⟨Nat.le_of_lt tighter, fun equal => absurd equal (Nat.ne_of_lt tighter)⟩

end Table

/-- In a grammatical tree the operator table is respected at every node. -/
theorem followsTable_of_mem_subtrees {arity? : String → Option Nat} {tree subtree : Tree α}
    (grammatical : tree.Grammatical arity?) (member : subtree ∈ tree.subtrees) :
    subtree.FollowsTable := by
  cases grammatical_of_mem_subtrees grammatical member with
  | leaf operand => trivial
  | group inside => trivial
  | unary inside waits =>
      exact fun inner isInner => eq_power_of_mem_openOperators inside
        (fun later isLater => Op.eq_power_of_unary_waits (waits later isLater)) isInner
  | binary before after yields waits =>
      refine ⟨fun inner isInner => left_followsTable before yields isInner,
        fun inner isInner => right_followsTable after waits isInner, ?_⟩
      intro isPower sign operand isUnary
      have signYields := yields (.unary sign) (by simp [isUnary, pending])
      rw [isPower, Op.not_yieldsTo_power] at signYields
      cases signYields
  | index before inside primary => trivial
  | call inside complete => trivial

end Tree

end Calculator
