import Calculator.Proofs.Grammar

/-!
# Required parentheses

A tree that has no parentheses may not be grammatical: a child may bind looser than its parent.
Parentheses around such children, and around no others, make it so.  The rules ask for the operator
of the child alone.  The main statement is that a tree which is bracketed by them is grammatical,
although the operator next to a child need not be that of its root: the operators on the edges of
a child are never looser than its root lets them be.
-/

namespace Calculator

/-- A left operand needs parentheses if it binds looser, or equally tight and the operator
associates to the right.  A unary operator needs them on the left of an exponentiation. -/
def BinaryOp.enclosesLeft (op : BinaryOp) : Op → Bool
  | .binary inner =>
    (Op.binary inner).precedence < (Op.binary op).precedence ||
      ((Op.binary inner).precedence == (Op.binary op).precedence &&
        (Op.binary op).isRightAssociative)
  | .unary _ => op == .power

/-- A right operand needs parentheses if it binds looser, or equally tight and the operator
associates to the left. -/
def BinaryOp.enclosesRight (op : BinaryOp) : Op → Bool
  | .binary inner =>
    (Op.binary inner).precedence < (Op.binary op).precedence ||
      ((Op.binary inner).precedence == (Op.binary op).precedence &&
        !(Op.binary op).isRightAssociative)
  | .unary _ => false

/-- Below a unary operator all binary operators but exponentiation need parentheses. -/
def UnaryOp.encloses : Op → Bool
  | .binary inner => inner != .power
  | .unary _ => false

namespace Op

/-- A left operand goes without parentheses if its operator is applied before the next is read. -/
theorem enclosesLeft_eq_false_iff {op inner : BinaryOp} :
    op.enclosesLeft (binary inner) = false ↔
      (binary inner).yieldsTo (binary op) = true := by
  cases op <;> cases inner <;> decide

/-- A right operand goes without parentheses if its operator is not kept from its left operand. -/
theorem enclosesRight_eq_false_iff {op inner : BinaryOp} :
    op.enclosesRight (binary inner) = false ↔
      (binary op).yieldsTo (binary inner) = false := by
  cases op <;> cases inner <;> decide

theorem enclosesLeft_power (inner : Op) : BinaryOp.power.enclosesLeft inner = true := by
  decide +revert

theorem yieldsTo_of_precedence_le {pending : Op} {incoming : BinaryOp}
    (notPower : incoming ≠ .power)
    (atMost : (binary incoming).precedence ≤ pending.precedence) :
    pending.yieldsTo (binary incoming) = true := by
  cases yields : pending.yieldsTo (binary incoming) with
  | true => rfl
  | false =>
      rcases waits_iff.mp yields with isPower | tighter
      · exact absurd isPower notPower
      · omega

theorem unary_yieldsTo {op : UnaryOp} {incoming : BinaryOp} (notPower : incoming ≠ .power) :
    (unary op).yieldsTo (binary incoming) = true := by
  cases yields : (unary op).yieldsTo (binary incoming) with
  | true => rfl
  | false => exact absurd (eq_power_of_unary_waits yields) notPower

end Op

namespace Tree

variable {α : Type}

/-- Put parentheses around a tree if its operator needs them. -/
def groupIf (needed : Op → Bool) (tree : Tree α) : Tree α :=
  if tree.rootOp?.any needed then group tree else tree

mutual

/-- A tree with parentheses where the operator table requires them. -/
def bracketed : Tree α → Tree α
  | leaf operand => leaf operand
  | group body => group body.bracketed
  | unary op operand => unary op (operand.bracketed.groupIf UnaryOp.encloses)
  | binary op left right =>
    binary op (left.bracketed.groupIf op.enclosesLeft) (right.bracketed.groupIf op.enclosesRight)
  | index container selector =>
    index (container.bracketed.groupIf fun _ => true) selector.bracketed
  | call name arguments => call name (bracketedAll arguments)

/-- Trees with parentheses where the operator table requires them. -/
def bracketedAll : List (Tree α) → List (Tree α)
  | [] => []
  | argument :: rest => argument.bracketed :: bracketedAll rest

end

theorem bracketedAll_eq_map (arguments : List (Tree α)) :
    bracketedAll arguments = arguments.map bracketed := by
  induction arguments with
  | nil => rfl
  | cons argument rest ih => rw [bracketedAll, ih, List.map_cons]

@[simp]
theorem rootOp?_bracketed (tree : Tree α) : tree.bracketed.rootOp? = tree.rootOp? := by
  cases tree <;> rfl

/-- A tree either gets parentheses, or its operator does not need them. -/
theorem groupIf_cases (needed : Op → Bool) (tree : Tree α) :
    tree.groupIf needed = group tree ∨
      (tree.groupIf needed = tree ∧ ∀ op, tree.rootOp? = some op → needed op = false) := by
  unfold groupIf
  split
  · exact Or.inl rfl
  · next spared =>
    refine Or.inr ⟨rfl, fun op isRoot => ?_⟩
    rw [isRoot] at spared
    exact Bool.eq_false_iff.mpr spared

theorem postorder_groupIf (token : α → Token) (needed : Op → Bool) (tree : Tree α) :
    (tree.groupIf needed).postorder token = tree.postorder token := by
  unfold groupIf
  split <;> rfl

/-- Parentheses leave no trace in the program. -/
theorem postorder_bracketed (token : α → Token) (tree : Tree α) :
    tree.bracketed.postorder token = tree.postorder token := by
  induction tree with
  | leaf operand => rfl
  | group body ih => exact ih
  | unary op operand ih => simp only [bracketed, postorder, postorder_groupIf, ih]
  | binary op left right leftIH rightIH =>
      simp only [bracketed, postorder, postorder_groupIf, leftIH, rightIH]
  | index container selector containerIH selectorIH =>
      simp only [bracketed, postorder, postorder_groupIf, containerIH, selectorIH]
  | call name arguments ih =>
      rw [bracketed, postorder, postorder, bracketedAll_eq_map, postorderAll_map token ih,
        List.length_map]

section Edges

/-- The operators at the end of a bracketed tree are applied before an operator is read that the
root of the tree lets be read after it. -/
theorem yieldsTo_of_mem_pending {tree : Tree α} {incoming : BinaryOp}
    (notPower : incoming ≠ .power)
    (root : ∀ inner, tree.rootOp? = some (.binary inner) →
      (Op.binary inner).yieldsTo (.binary incoming) = true)
    {earlier : Op} (member : earlier ∈ tree.bracketed.pending) :
    earlier.yieldsTo (.binary incoming) = true := by
  induction tree with
  | unary op operand ih =>
      rcases List.mem_append.mp member with inside | isRoot
      · rcases groupIf_cases UnaryOp.encloses operand.bracketed with grouped | ⟨bare, spared⟩
        · rw [grouped] at inside
          cases inside
        · rw [bare] at inside
          refine ih (fun inner isInner => ?_) inside
          have isPower : inner = .power := by
            simpa [UnaryOp.encloses] using spared (.binary inner) (by simpa using isInner)
          rw [isPower]
          exact Op.yieldsTo_of_precedence_le notPower (Op.precedence_le_power _)
      · rw [List.mem_singleton.mp isRoot]
        exact Op.unary_yieldsTo notPower
  | binary op left right leftIH rightIH =>
      have rootYields := root op rfl
      rcases List.mem_append.mp member with inside | isRoot
      · rcases groupIf_cases op.enclosesRight right.bracketed with grouped | ⟨bare, spared⟩
        · rw [grouped] at inside
          cases inside
        · rw [bare] at inside
          refine rightIH (fun inner isInner => ?_) inside
          have waits := Op.enclosesRight_eq_false_iff.mp
            (spared (.binary inner) (by simpa using isInner))
          refine Op.yieldsTo_of_precedence_le notPower ?_
          have rootAtMost := Op.precedence_le_of_yieldsTo rootYields
          rcases Op.waits_iff.mp waits with isPower | tighter
          · rw [isPower]
            exact Op.precedence_le_power _
          · omega
      · rw [List.mem_singleton.mp isRoot]
        exact rootYields
  | _ => cases member

/-- An operator waits for the operators with which a bracketed tree starts if it waits for the root
of the tree. -/
theorem waits_of_mem_leading {tree : Tree α} {outer : Op}
    (root : ∀ inner, tree.rootOp? = some (.binary inner) →
      outer.yieldsTo (.binary inner) = false)
    {later : BinaryOp} (member : later ∈ tree.bracketed.leading) :
    outer.yieldsTo (.binary later) = false := by
  induction tree with
  | binary op left right leftIH rightIH =>
      have rootWaits := root op rfl
      rcases List.mem_append.mp member with inside | isRoot
      · rcases groupIf_cases op.enclosesLeft left.bracketed with grouped | ⟨bare, spared⟩
        · rw [grouped] at inside
          cases inside
        · rw [bare] at inside
          refine leftIH (fun inner isInner => ?_) inside
          have yields := Op.enclosesLeft_eq_false_iff.mp
            (spared (.binary inner) (by simpa using isInner))
          rcases Op.waits_iff.mp rootWaits with isPower | tighter
          · rw [isPower, Op.not_yieldsTo_power] at yields
            cases yields
          · have atMost := Op.precedence_le_of_yieldsTo yields
            exact Op.waits_iff.mpr (Or.inr (Nat.lt_of_lt_of_le tighter atMost))
      · rw [List.mem_singleton.mp isRoot]
        exact rootWaits
  | _ => cases member

end Edges

section Grammar

variable {arity? : String → Option Nat}

theorem Grammatical.groupIf {tree : Tree α} (grammatical : tree.Grammatical arity?)
    (needed : Op → Bool) : (tree.groupIf needed).Grammatical arity? := by
  unfold Tree.groupIf
  split
  · exact .group grammatical
  · exact grammatical

theorem unary_bracketed {op : UnaryOp} {operand : Tree α}
    (inside : operand.bracketed.Grammatical arity?) :
    (unary op operand).bracketed.Grammatical arity? := by
  refine .unary (inside.groupIf _) fun later isLater => ?_
  rcases groupIf_cases UnaryOp.encloses operand.bracketed with grouped | ⟨bare, spared⟩
  · rw [grouped] at isLater
    cases isLater
  · rw [bare] at isLater
    refine waits_of_mem_leading (fun inner isInner => ?_) isLater
    have isPower : inner = .power := by
      simpa [UnaryOp.encloses] using spared (.binary inner) (by simpa using isInner)
    rw [isPower]
    exact Op.not_yieldsTo_power _

theorem binary_bracketed {op : BinaryOp} {left right : Tree α}
    (before : left.bracketed.Grammatical arity?) (after : right.bracketed.Grammatical arity?) :
    (binary op left right).bracketed.Grammatical arity? := by
  refine .binary (before.groupIf _) (after.groupIf _) (fun earlier isEarlier => ?_)
    fun later isLater => ?_
  · rcases groupIf_cases op.enclosesLeft left.bracketed with grouped | ⟨bare, spared⟩
    · rw [grouped] at isEarlier
      cases isEarlier
    · rw [bare] at isEarlier
      by_cases isPower : op = .power
      · have primary : left.bracketed.rootOp? = none := by
          cases root : left.bracketed.rootOp? with
          | none => rfl
          | some inner =>
              have needless := spared inner root
              rw [isPower, Op.enclosesLeft_power] at needless
              cases needless
        rw [pending_eq_nil_iff.mpr primary] at isEarlier
        cases isEarlier
      · refine yieldsTo_of_mem_pending isPower (fun inner isInner => ?_) isEarlier
        exact Op.enclosesLeft_eq_false_iff.mp (spared (.binary inner) (by simpa using isInner))
  · rcases groupIf_cases op.enclosesRight right.bracketed with grouped | ⟨bare, spared⟩
    · rw [grouped] at isLater
      cases isLater
    · rw [bare] at isLater
      refine waits_of_mem_leading (fun inner isInner => ?_) isLater
      exact Op.enclosesRight_eq_false_iff.mp (spared (.binary inner) (by simpa using isInner))

theorem index_bracketed {container selector : Tree α}
    (before : container.bracketed.Grammatical arity?)
    (inside : selector.bracketed.Grammatical arity?) :
    (index container selector).bracketed.Grammatical arity? := by
  refine .index (before.groupIf _) inside ?_
  rcases groupIf_cases (fun _ => true) container.bracketed with grouped | ⟨bare, spared⟩
  · rw [grouped]
    rfl
  · rw [bare]
    cases root : container.bracketed.rootOp? with
    | none => rfl
    | some op => cases spared op root

theorem call_bracketed {name : String} {arguments : List (Tree α)}
    (inside : ∀ argument ∈ arguments, argument.bracketed.Grammatical arity?)
    (complete : arity? name = some arguments.length) :
    (call name arguments).bracketed.Grammatical arity? := by
  rw [bracketed, bracketedAll_eq_map]
  refine .call (fun argument isArgument => ?_) (by rw [complete, List.length_map])
  obtain ⟨plain, isPlain, rfl⟩ := List.mem_map.mp isArgument
  exact inside plain isPlain

/-- A tree whose calls are complete is grammatical once it has the parentheses that the operator
table requires. -/
theorem bracketed_grammatical {tree : Tree α}
    (calls : ∀ name arguments, call name arguments ∈ tree.subtrees →
      arity? name = some arguments.length) : tree.bracketed.Grammatical arity? := by
  induction tree with
  | leaf operand => exact .leaf operand
  | group body ih =>
      exact .group (ih fun name arguments isCall =>
        calls name arguments (List.mem_cons_of_mem _ isCall))
  | unary op operand ih =>
      exact unary_bracketed (ih fun name arguments isCall =>
        calls name arguments (List.mem_cons_of_mem _ isCall))
  | binary op left right leftIH rightIH =>
      exact binary_bracketed
        (leftIH fun name arguments isCall => calls name arguments
          (List.mem_cons_of_mem _ (List.mem_append_left _ isCall)))
        (rightIH fun name arguments isCall => calls name arguments
          (List.mem_cons_of_mem _ (List.mem_append_right _ isCall)))
  | index container selector containerIH selectorIH =>
      exact index_bracketed
        (containerIH fun name arguments isCall => calls name arguments
          (List.mem_cons_of_mem _ (List.mem_append_left _ isCall)))
        (selectorIH fun name arguments isCall => calls name arguments
          (List.mem_cons_of_mem _ (List.mem_append_right _ isCall)))
  | call name arguments ih =>
      refine call_bracketed (fun argument isArgument => ?_)
        (calls name arguments List.mem_cons_self)
      exact ih argument isArgument fun inner others isCall => calls inner others
        (List.mem_cons_of_mem _ (mem_subtreesAll.mpr ⟨argument, isArgument, isCall⟩))

end Grammar

end Tree

end Calculator
