import Calculator.Conversion
import Calculator.Proofs.Tree

/-!
# The lexemes of an expression

How a lexeme is read depends on the lexemes before it, but not on the stack of the pass that
converts them: whether an operand was completed, and whether a regular expression may follow, can
be told from the last lexemes alone.  So a text has a sequence of lexemes of its own.  The main
statement is that a conversion succeeds exactly if the text can be cut into lexemes and the pass
accepts all of them.
-/

namespace Calculator

theorem map_eq_ok_iff {ε α β : Type} {outcome : Except ε α} {change : α → β} {result : β} :
    outcome.map change = .ok result ↔
      ∃ earlier, outcome = .ok earlier ∧ change earlier = result := by
  cases outcome with
  | error error => exact ⟨nofun, fun ⟨_, isOk, _⟩ => nomatch isOk⟩
  | ok earlier => simp [Except.map]

/-- What decides how the first lexeme is read. -/
def LexMode.initial : LexMode :=
  { afterOperand := false, inPattern := false }

/-- What decides how the lexeme after a given one is read. -/
def LexMode.after (mode : LexMode) : Lexeme → LexMode
  | .operand _ | .closeGroup | .closeIndex _ => { afterOperand := true, inPattern := false }
  | .openCall _ | .openIndex | .comma => { afterOperand := false, inPattern := false }
  | .openGroup | .operator .bang => { afterOperand := false, inPattern := mode.inPattern }
  | .operator (.binary op) =>
    if mode.afterOperand then { afterOperand := false, inPattern := op == .regexMatch }
    else { afterOperand := false, inPattern := mode.inPattern }

namespace Lexeme

/-- A lexeme with the text from its start and the text after it. -/
structure Located where
  lexeme : Lexeme
  source : List Char
  rest : List Char

/-- Cut a text into lexemes. -/
def locate (arity? : String → Option Nat) (mode : LexMode) (chars : List Char) :
    Except Error (List Located) :=
  match _read : next arity? mode chars with
  | .error error => .error error
  | .ok none => .ok []
  | .ok (some (lexeme, source, rest)) =>
    match locate arity? (mode.after lexeme) rest with
    | .error error => .error error
    | .ok later => .ok ({ lexeme, source, rest } :: later)
termination_by chars.length
decreasing_by exact next_shorter _read

/-- The lexemes of an expression.  The context says which names are functions. -/
def sequence (arity? : String → Option Nat) (source : String) : Except Error (List Lexeme) :=
  (locate arity? LexMode.initial source.toList).map fun located => located.map Located.lexeme

/-- Decide whether an operand starts with a lexeme. -/
def startsOperand : Lexeme → Bool
  | .operand _ | .openGroup | .openCall _ => true
  | _ => false

/-- Decide whether an operand is complete after a lexeme. -/
def endsOperand : Lexeme → Bool
  | .operand _ | .closeGroup | .closeIndex _ => true
  | _ => false

/-- The multiplication sign that is understood before a lexeme. -/
def understood (afterOperand : Bool) (lexeme : Lexeme) : List Lexeme :=
  if afterOperand && lexeme.startsOperand then [.operator (.binary .multiply)] else []

/-- Lexemes with a multiplication sign wherever an operand directly follows another one. -/
def withProducts (afterOperand : Bool) : List Lexeme → List Lexeme
  | [] => []
  | lexeme :: rest =>
    lexeme.understood afterOperand ++ lexeme :: withProducts lexeme.endsOperand rest

end Lexeme

theorem LexMode.after_afterOperand (mode : LexMode) (lexeme : Lexeme) :
    (mode.after lexeme).afterOperand = lexeme.endsOperand := by
  cases lexeme with
  | operator sign =>
      cases sign with
      | bang => rfl
      | binary op =>
          rw [LexMode.after]
          split <;> rfl
  | _ => rfl

namespace Lexeme

variable {arity? : String → Option Nat} {mode : LexMode} {chars source rest : List Char}

theorem locate_of_next_error {error : Error} (read : next arity? mode chars = .error error) :
    locate arity? mode chars = .error error := by
  rw [locate]
  split
  · next failed => rw [read] at failed; cases failed; rfl
  · next ended => rw [read] at ended; cases ended
  · next found => rw [read] at found; cases found

theorem locate_of_next_none (read : next arity? mode chars = .ok none) :
    locate arity? mode chars = .ok [] := by
  rw [locate]
  split
  · next failed => rw [read] at failed; cases failed
  · rfl
  · next found => rw [read] at found; cases found

theorem locate_of_next_some {lexeme : Lexeme}
    (read : next arity? mode chars = .ok (some (lexeme, source, rest))) :
    locate arity? mode chars =
      (locate arity? (mode.after lexeme) rest).map ({ lexeme, source, rest } :: ·) := by
  rw [locate]
  split
  · next failed => rw [read] at failed; cases failed
  · next ended => rw [read] at ended; cases ended
  · next found =>
    rw [read] at found
    cases found
    cases locate arity? (mode.after lexeme) rest <;> rfl

theorem locate_nil (cut : locate arity? mode chars = .ok []) :
    next arity? mode chars = .ok none := by
  rw [locate] at cut
  split at cut
  · cases cut
  · assumption
  · split at cut <;> cases cut

theorem locate_cons {located : Located} {later : List Located}
    (cut : locate arity? mode chars = .ok (located :: later)) :
    next arity? mode chars = .ok (some (located.lexeme, located.source, located.rest)) ∧
      locate arity? (mode.after located.lexeme) located.rest = .ok later := by
  rw [locate] at cut
  split at cut
  · cases cut
  · cases cut
  · next found =>
    split at cut
    · cases cut
    · next laterCut =>
      cases cut
      exact ⟨found, laterCut⟩

/-- A lexeme that can be read in a mode: operands are leaves, calls name functions, and an index
follows an operand. -/
def Proper (arity? : String → Option Nat) (mode : LexMode) : Lexeme → Prop
  | .operand token => ∃ leaf : Leaf, leaf.token = token
  | .openCall name => (arity? name).isSome = true
  | .openIndex => mode.afterOperand = true
  | _ => True

/-- The lexemes that can be read in a mode.  A name keeps the characters that it was read from, and
a regular expression must have been asked for. -/
inductive Readable (arity? : String → Option Nat) (mode : LexMode) : Lexeme → Prop
  | number (x : Float) : Readable arity? mode (.operand (.number x))
  | string (text : String) : Readable arity? mode (.operand (.string text))
  | literal (raw : String) : Readable arity? mode (.operand (.literal raw))
  | value (held : Value) : Readable arity? mode (.operand (.value held))
  | regex (source flags : String) (awaited : mode.inPattern = true)
      (before : mode.afterOperand = false) :
      Readable arity? mode (.operand (.regex source flags))
  | var (first : Char) (rest : List Char) (lower : first.isLower = true) :
      Readable arity? mode
        (.operand (.var (String.ofList ((first :: rest).takeWhile Text.isNameChar))))
  | capture (rest : List Char) :
      Readable arity? mode (.operand (.capture (String.ofList ('$' :: rest))))
  | openCall (name : String) (known : (arity? name).isSome = true) :
      Readable arity? mode (.openCall name)
  | openIndex (after : mode.afterOperand = true) : Readable arity? mode .openIndex
  | operator (sign : OperatorSign) : Readable arity? mode (.operator sign)
  | closeIndex (c : Char) : Readable arity? mode (.closeIndex c)
  | openGroup : Readable arity? mode .openGroup
  | closeGroup : Readable arity? mode .closeGroup
  | comma : Readable arity? mode .comma

theorem readSign_readable {c : Char} {lexeme : Lexeme}
    (read : readSign c chars = .ok (lexeme, rest)) : Readable arity? mode lexeme := by
  unfold readSign at read
  split at read
  · cases read
    exact .operator _
  · split at read
    · cases read
      exact .operator _
    · cases read

theorem readName_readable {first : Char} (lower : first.isLower = true) (rest : List Char) :
    Readable arity? mode (readName arity? (first :: rest)).1 := by
  unfold readName
  dsimp only
  split
  · exact .value _
  · split
    · split
      · next known => exact .openCall _ known
      · exact .var first rest lower
    · exact .var first rest lower

theorem readAt_readable {c : Char} {lexeme : Lexeme}
    (read : readAt arity? mode c chars = .ok (lexeme, rest)) : Readable arity? mode lexeme := by
  have found := lexemeAt_readAt arity? mode c chars
  generalize readAt arity? mode c chars = outcome at found read
  cases found with
  | quoted =>
      unfold readQuoted at read
      split at read <;> cases read
      exact .string _
  | openIndex after =>
      cases read
      exact .openIndex after
  | misplaced => cases read
  | literal =>
      unfold readLiteral at read
      split at read <;> cases read
      exact .literal _
  | pattern awaited before =>
      unfold readPattern at read
      split at read <;> cases read
      exact .regex _ _ awaited before
  | capture =>
      unfold readCapture at read
      dsimp only at read
      split at read <;> cases read
      exact .capture _
  | name lower =>
      have readable : Readable arity? mode (readName arity? (c :: chars)).1 :=
        readName_readable lower chars
      rw [Except.ok.inj read] at readable
      exact readable
  | number =>
      unfold readNumber at read
      split at read
      · cases read
        exact .number _
      · exact readSign_readable read
  | closeIndex =>
      cases read
      exact .closeIndex c
  | openGroup =>
      cases read
      exact .openGroup
  | closeGroup =>
      cases read
      exact .closeGroup
  | comma =>
      cases read
      exact .comma

theorem next_readable {lexeme : Lexeme}
    (read : next arity? mode chars = .ok (some (lexeme, source, rest))) :
    Readable arity? mode lexeme := by
  unfold next at read
  split at read
  · cases read
  · split at read
    · cases read
    · next found =>
      cases read
      exact readAt_readable found

theorem Readable.proper {lexeme : Lexeme} (readable : Readable arity? mode lexeme) :
    lexeme.Proper arity? mode := by
  cases readable with
  | number x => exact ⟨.number x, rfl⟩
  | string text => exact ⟨.string text, rfl⟩
  | literal raw => exact ⟨.literal raw, rfl⟩
  | value held => exact ⟨.value held, rfl⟩
  | regex source flags awaited before => exact ⟨.regex source flags, rfl⟩
  | var first rest lower => exact ⟨.var _, rfl⟩
  | capture rest => exact ⟨.capture _, rfl⟩
  | openCall name known => exact known
  | openIndex after => exact after
  | operator | closeIndex | openGroup | closeGroup | comma => trivial

theorem next_proper {lexeme : Lexeme}
    (read : next arity? mode chars = .ok (some (lexeme, source, rest))) :
    lexeme.Proper arity? mode :=
  (next_readable read).proper

end Lexeme

namespace Conversion

/-- Accept lexemes one after another. -/
def acceptAll (arity? : String → Option Nat) :
    List Lexeme.Located → Conversion → Except Error Conversion
  | [], state => .ok state
  | located :: later, state =>
    match state.accept arity? located.lexeme located.source located.rest with
    | .error error => .error error
    | .ok next => acceptAll arity? later next

theorem acceptAll_append {arity? : String → Option Nat} {first second : List Lexeme.Located}
    {state middle : Conversion} (accepted : acceptAll arity? first state = .ok middle) :
    acceptAll arity? (first ++ second) state = acceptAll arity? second middle := by
  induction first generalizing state with
  | nil =>
      cases accepted
      rfl
  | cons located later ih =>
      rw [List.cons_append, acceptAll]
      rw [acceptAll] at accepted
      split at accepted
      · cases accepted
      · exact ih accepted

/-- A state remembers nothing about the operators before an operand once the operand is
complete. -/
def Tidy (state : Conversion) : Prop :=
  state.afterOperand = true → state.scan = Scan.settled

theorem start_tidy : start.Tidy := by
  intro after
  cases after

theorem tidy_of_settled {state : Conversion} (settled : state.scan = Scan.settled) :
    state.Tidy :=
  fun _ => settled

section Scans

variable {arity? : String → Option Nat} {state next : Conversion} {rest : List Char}

theorem juxtapose_of_afterOperand (after : state.afterOperand = true) :
    state.juxtapose = state.pushBinary .multiply :=
  if_pos after

theorem juxtapose_of_beforeOperand (before : state.afterOperand = false) :
    state.juxtapose = state :=
  if_neg (by simp [before])

theorem finishCall_scan {name : String} {given : Nat} {output : List Token}
    {frames : List Frame}
    (finished : finishCall arity? name given output frames = .ok next) :
    next.scan = Scan.settled := by
  unfold finishCall at finished
  split at finished
  · cases finished
  · split at finished
    · cases finished
      rfl
    · cases finished

theorem acceptOperand_scan {token : Token} (accepted : state.acceptOperand token = .ok next) :
    next.scan = Scan.settled := by
  unfold acceptOperand at accepted
  split at accepted
  · cases accepted
  · cases accepted
    rfl

theorem closeGroup_scan (closed : state.closeGroup arity? rest = .ok next) :
    next.scan = Scan.settled := by
  unfold closeGroup at closed
  split at closed
  · split at closed
    · exact finishCall_scan closed
    · cases closed
  · cases closed
  · split at closed
    · cases closed
      rfl
    · exact finishCall_scan closed
    · cases closed
    · cases closed

theorem closeIndex_scan {bracket : Char} (closed : state.closeIndex bracket rest = .ok next) :
    next.scan = Scan.settled := by
  unfold closeIndex at closed
  split at closed
  · split at closed
    · split at closed
      · cases closed
        rfl
      · cases closed
    · cases closed
    · cases closed
  · split at closed <;> cases closed

/-- After an operand an operator is binary, and before one it is unary. -/
theorem acceptOperator_cases {sign : OperatorSign}
    (accepted : state.acceptOperator sign = .ok next) :
    (state.afterOperand = true ∧ ∃ op, sign = .binary op ∧ next = state.pushBinary op) ∨
      (state.afterOperand = false ∧ ∃ op, sign = UnaryOp.sign op ∧ next = state.pushUnary op) := by
  unfold acceptOperator at accepted
  split at accepted
  · next op after =>
    cases accepted
    exact Or.inl ⟨after, op, rfl, rfl⟩
  · cases accepted
  · next after =>
    cases accepted
    exact Or.inr ⟨after, .not, rfl, rfl⟩
  · next after =>
    cases accepted
    exact Or.inr ⟨after, .negate, rfl, rfl⟩
  · cases accepted

theorem comma_scan (tidy : state.Tidy) (accepted : state.comma = .ok next) :
    next.scan = Scan.fresh := by
  unfold comma at accepted
  split at accepted
  · next after =>
    split at accepted
    · cases accepted
      rw [tidy after]
      rfl
    · cases accepted
  · cases accepted

end Scans

/-- Accepting a lexeme changes what decides the reading of the next one in the way that the
lexemes alone tell. -/
theorem accept_mode {arity? : String → Option Nat} {state next : Conversion} {lexeme : Lexeme}
    {source rest : List Char} (tidy : state.Tidy)
    (accepted : state.accept arity? lexeme source rest = .ok next) :
    next.Tidy ∧ next.mode = state.mode.after lexeme := by
  have settledMode (settled : next.scan = Scan.settled) :
      next.Tidy ∧ next.mode = { afterOperand := true, inPattern := false } :=
    ⟨tidy_of_settled settled, by simp [mode, afterOperand, settled, Scan.settled]⟩
  cases lexeme with
  | operand token => exact settledMode (acceptOperand_scan accepted)
  | closeGroup => exact settledMode (closeGroup_scan accepted)
  | closeIndex bracket => exact settledMode (closeIndex_scan accepted)
  | comma =>
      have fresh := comma_scan tidy accepted
      exact ⟨by simp [Tidy, afterOperand, fresh, Scan.fresh],
        by simp [mode, afterOperand, fresh, Scan.fresh, LexMode.after]⟩
  | openCall name =>
      cases accepted
      exact ⟨by simp [Tidy, afterOperand, openCall],
        by simp [mode, afterOperand, openCall, Scan.fresh, LexMode.after]⟩
  | openIndex =>
      cases accepted
      exact ⟨by simp [Tidy, afterOperand, openIndex, Scan.fresh],
        by simp [mode, afterOperand, openIndex, Scan.fresh, LexMode.after]⟩
  | openGroup =>
      cases accepted
      refine ⟨by simp [Tidy, afterOperand, openGroup], ?_⟩
      cases after : state.afterOperand with
      | true =>
          have settled := tidy after
          simp only [openGroup, juxtapose_of_afterOperand after]
          simp [mode, LexMode.after, pushBinary, afterOperand, settled, Scan.settled]
      | false =>
          simp only [openGroup, juxtapose_of_beforeOperand after]
          simp [mode, LexMode.after, afterOperand]
  | operator sign =>
      rcases acceptOperator_cases accepted with ⟨after, op, rfl, rfl⟩ | ⟨after, op, rfl, rfl⟩
      · refine ⟨by simp [Tidy, afterOperand, pushBinary], ?_⟩
        simp only [LexMode.after, mode, after, if_true]
        simp [pushBinary, afterOperand]
      · refine ⟨by simp [Tidy, afterOperand, pushUnary], ?_⟩
        cases op <;>
          simp [UnaryOp.sign, LexMode.after, mode, after] <;>
          simp [pushUnary, afterOperand]

theorem afterOperand_of_accept {arity? : String → Option Nat} {state next : Conversion}
    {lexeme : Lexeme} {source rest : List Char} (tidy : state.Tidy)
    (accepted : state.accept arity? lexeme source rest = .ok next) :
    next.afterOperand = lexeme.endsOperand := by
  have nextMode : next.mode = state.mode.after lexeme := (accept_mode tidy accepted).2
  rw [← LexMode.after_afterOperand state.mode lexeme, ← nextMode]
  rfl

/-- A pass succeeds exactly if the text can be cut into lexemes, the pass accepts all of them, and
it may end after the last one. -/
theorem run_eq_ok_iff {arity? : String → Option Nat} {state : Conversion} {chars : List Char}
    {program : Program} (tidy : state.Tidy) :
    state.run arity? chars = .ok program ↔
      ∃ located final, Lexeme.locate arity? state.mode chars = .ok located ∧
        acceptAll arity? located state = .ok final ∧ final.finish = .ok program := by
  fun_induction run arity? state chars with
  | case1 state chars error read =>
      rw [Lexeme.locate_of_next_error read]
      exact ⟨nofun, fun ⟨_, _, cut, _⟩ => nomatch cut⟩
  | case2 state chars read =>
      rw [Lexeme.locate_of_next_none read]
      constructor
      · intro finished
        exact ⟨[], state, rfl, rfl, finished⟩
      · rintro ⟨located, final, cut, accepted, finished⟩
        cases cut
        cases accepted
        exact finished
  | case3 state chars lexeme source rest read error refused =>
      refine ⟨nofun, ?_⟩
      rintro ⟨located, final, cut, accepted, -⟩
      rw [Lexeme.locate_of_next_some read] at cut
      obtain ⟨later, -, rfl⟩ := map_eq_ok_iff.mp cut
      simp only [acceptAll, refused] at accepted
      cases accepted
  | case4 state chars lexeme source rest read next accepted ih =>
      obtain ⟨nextTidy, nextMode⟩ := accept_mode tidy accepted
      rw [ih nextTidy, nextMode, Lexeme.locate_of_next_some read]
      constructor
      · rintro ⟨later, final, cut, laterAccepted, finished⟩
        refine ⟨{ lexeme, source, rest } :: later, final, by rw [cut]; rfl, ?_, finished⟩
        simpa only [acceptAll, accepted] using laterAccepted
      · rintro ⟨located, final, cut, allAccepted, finished⟩
        obtain ⟨later, laterCut, rfl⟩ := map_eq_ok_iff.mp cut
        simp only [acceptAll, accepted] at allAccepted
        exact ⟨later, final, laterCut, allAccepted, finished⟩

/-- A text converts to a program exactly if the pass accepts its lexemes from the start. -/
theorem convert_eq_ok_iff {arity? : String → Option Nat} {source : String} {program : Program} :
    convert arity? source = .ok program ↔
      ∃ located final, Lexeme.locate arity? LexMode.initial source.toList = .ok located ∧
        acceptAll arity? located start = .ok final ∧ final.finish = .ok program :=
  run_eq_ok_iff start_tidy

end Conversion

end Calculator
