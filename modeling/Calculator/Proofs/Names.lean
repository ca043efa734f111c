import Calculator.Proofs.Brackets
import Calculator.Proofs.Captures
import Calculator.Proofs.Spelling

/-!
# Names in programs

The operands of a program stand in the lexemes of the expression that it was converted from.  So
every variable in it is an identifier, and every capture has a name that begins with a dollar
sign.
-/

namespace Calculator

/-- A variable is named by an identifier, and a capture by a name with a dollar sign. -/
def Token.WellNamed : Token → Prop
  | var name => isIdentifier name = true
  | capture name => Variables.isCapture name = true
  | _ => True

namespace Lexeme

/-- If a lexeme is an operand, then its token is well named. -/
def WellNamed : Lexeme → Prop
  | operand token => token.WellNamed
  | _ => True

variable {arity? : String → Option Nat} {mode : LexMode} {chars source rest : List Char}
  {lexeme : Lexeme}

theorem Readable.wellNamed (readable : Readable arity? mode lexeme) : lexeme.WellNamed := by
  cases readable with
  | var first rest lower => exact isIdentifier_takeWhile lower rest
  | capture rest => simp [WellNamed, Token.WellNamed, Variables.isCapture]
  | _ => trivial

theorem locate_wellNamed {located : List Located} (cut : locate arity? mode chars = .ok located) :
    ∀ lexeme ∈ located.map Located.lexeme, lexeme.WellNamed := by
  induction located generalizing mode chars with
  | nil => exact fun _ member => nomatch member
  | cons first later ih =>
      obtain ⟨read, laterCut⟩ := locate_cons cut
      exact List.forall_mem_cons.mpr ⟨(next_readable read).wellNamed, ih laterCut⟩

theorem sequence_wellNamed {text : String} {lexemes : List Lexeme}
    (cut : sequence arity? text = .ok lexemes) : ∀ lexeme ∈ lexemes, lexeme.WellNamed := by
  obtain ⟨located, isLocated, rfl⟩ := map_eq_ok_iff.mp cut
  exact locate_wellNamed isLocated

/-- Multiplication signs between operands name nothing. -/
theorem withProducts_wellNamed {lexemes : List Lexeme}
    (named : ∀ lexeme ∈ lexemes, lexeme.WellNamed) (afterOperand : Bool) :
    ∀ lexeme ∈ withProducts afterOperand lexemes, lexeme.WellNamed := by
  induction lexemes generalizing afterOperand with
  | nil => exact fun _ member => nomatch member
  | cons first later ih =>
      obtain ⟨firstNamed, laterNamed⟩ := List.forall_mem_cons.mp named
      have signNamed : ∀ sign ∈ first.understood afterOperand, sign.WellNamed := by
        intro sign member
        unfold understood at member
        split at member
        · cases List.mem_singleton.mp member
          trivial
        · cases member
      intro lexeme member
      rcases List.mem_append.mp member with isSign | isRest
      · exact signNamed lexeme isSign
      · rcases List.mem_cons.mp isRest with rfl | isLater
        · exact firstNamed
        · exact ih laterNamed first.endsOperand lexeme isLater

end Lexeme

namespace Tree

theorem lexemes_subset_argumentLexemes {argument : Tree Leaf} {arguments : List (Tree Leaf)}
    (member : argument ∈ arguments) : argument.lexemes ⊆ argumentLexemes arguments := by
  induction arguments with
  | nil => cases member
  | cons first rest ih =>
      cases rest with
      | nil =>
          cases List.mem_singleton.mp member
          exact List.Subset.refl argument.lexemes
      | cons next later =>
          rw [argumentLexemes_cons_cons]
          rcases List.mem_cons.mp member with rfl | isLater
          · exact List.subset_append_left argument.lexemes _
          · have inRest : argument.lexemes ⊆ .comma :: argumentLexemes (next :: later) :=
              List.subset_cons_of_subset .comma (ih isLater)
            exact List.subset_append_of_subset_right first.lexemes inRest

/-- A tree over well-named lexemes has a program of well-named tokens. -/
theorem program_wellNamed {tree : Tree Leaf}
    (named : ∀ lexeme ∈ tree.lexemes, lexeme.WellNamed) :
    ∀ token ∈ tree.program, token.WellNamed := by
  induction tree with
  | leaf operand =>
      intro token member
      rw [List.mem_singleton.mp member]
      exact named (.operand operand.token) List.mem_cons_self
  | group body ih =>
      rw [lexemes_group] at named
      exact ih fun lexeme member =>
        named lexeme (List.mem_cons_of_mem _ (List.mem_append_left _ member))
  | unary op operand ih =>
      rw [lexemes_unary] at named
      rw [program_unary, List.forall_mem_append, List.forall_mem_singleton]
      exact ⟨ih (List.forall_mem_cons.mp named).2, trivial⟩
  | binary op left right leftIH rightIH =>
      rw [lexemes_binary, List.forall_mem_append, List.forall_mem_cons] at named
      rw [program_binary, List.forall_mem_append, List.forall_mem_append,
        List.forall_mem_singleton]
      exact ⟨leftIH named.1, rightIH named.2.2, trivial⟩
  | index container selector containerIH selectorIH =>
      rw [lexemes_index, List.forall_mem_append, List.forall_mem_cons,
        List.forall_mem_append] at named
      rw [program_index, List.forall_mem_append, List.forall_mem_append,
        List.forall_mem_singleton]
      exact ⟨containerIH named.1, selectorIH named.2.2.1, trivial⟩
  | call name arguments ih =>
      rw [lexemes_call, List.forall_mem_cons, List.forall_mem_append] at named
      have argumentsNamed : ∀ token ∈ postorderAll Leaf.token arguments, token.WellNamed := by
        intro token member
        obtain ⟨argument, isArgument, isInside⟩ := (mem_postorderAll Leaf.token).mp member
        refine ih argument isArgument (fun lexeme isLexeme => ?_) token isInside
        exact named.2.1 lexeme (lexemes_subset_argumentLexemes isArgument isLexeme)
      exact List.forall_mem_append.mpr ⟨argumentsNamed, List.forall_mem_singleton.mpr trivial⟩

end Tree

namespace Conversion

theorem convert_wellNamed {arity? : String → Option Nat} {source : String} {program : Program}
    (converted : convert arity? source = .ok program) : ∀ token ∈ program, token.WellNamed := by
  obtain ⟨lexemes, tree, cut, -, equal, rfl⟩ := exists_tree_of_convert converted
  apply Tree.program_wellNamed
  rw [equal]
  exact Lexeme.withProducts_wellNamed (Lexeme.sequence_wellNamed cut) false

end Conversion

end Calculator
