import Mathlib.Tactic.Common
import Shorthand.Lowering
import Shorthand.Proofs.Symbols.Entries

/-!
# What operands and declarations come to

Evaluating an expression may print, so the functions that lower operands take a state and return
one.  But nothing depends on what was printed, and nothing else of the state changes.  Hence
each of them is a plain function of the constants: `Yields state result value?` says that the
result is the value, with a state that differs from the given one in its events only, and that
there is no result if there is no value.

Here the plain functions are defined: `immediateText?` for operands, `selected` for simple
statements, `sizeOf?` and `storageOf?` for declarations of variables, `constantText?` for
constants.  Later proofs use these and do not open the functions that lower.
-/

namespace Shorthand.Lowering

open Machine

/-- Constants by name, each with its text. -/
abbrev Constants := List (String × String)

/-! ## Results that depend on constants -/

/-- The state with other events. -/
def State.withEvents (state : State) (events : List Event) : State :=
  { state with events := events }

@[simp] theorem State.withEvents_withEvents (state : State) (events events' : List Event) :
    (state.withEvents events).withEvents events' = state.withEvents events' := rfl

/-- The result is the value, if there is one, and otherwise the lowering stops. -/
inductive Yields {α : Type} (state : State) : Except Stop (α × State) → Option α → Prop where
  | value (value : α) (events : List Event) :
      Yields state (.ok (value, state.withEvents events)) (some value)
  | stop (stop : Stop) : Yields state (.error stop) none

namespace Yields

variable {α β : Type} {state : State}

theorem pure (value : α) : Yields state (.ok (value, state)) (some value) :=
  .value value state.events

theorem refuse (problem : Problem) :
    Yields state (state.refuse problem : Except Stop (α × State)) none :=
  .stop _

theorem ofEvents {result : Except Stop (α × State)} {events : List Event} {value? : Option α}
    (h : Yields (state.withEvents events) result value?) : Yields state result value? := by
  cases h with
  | value value events' => exact .value value events'
  | stop stop => exact .stop stop

theorem bind {result : Except Stop (α × State)} {value? : Option α}
    {next : α × State → Except Stop (β × State)} {next? : α → Option β}
    (h : Yields state result value?)
    (hnext : ∀ value events,
      Yields (state.withEvents events) (next (value, state.withEvents events)) (next? value)) :
    Yields state (result >>= next) (value?.bind next?) := by
  cases h with
  | value value events => exact (hnext value events).ofEvents
  | stop stop => exact .stop stop

/-- A result is the value that is yielded, in the state with other events. -/
theorem of_ok {result : Except Stop (α × State)} {value? : Option α} {value : α}
    {state' : State} (h : Yields state result value?) (hresult : result = .ok (value, state')) :
    value? = some value ∧ ∃ events, state' = state.withEvents events := by
  cases h with
  | value value' events =>
      cases hresult
      exact ⟨rfl, events, rfl⟩
  | stop stop => cases hresult

theorem ok {result : Except Stop (α × State)} {value : α}
    (h : Yields state result (some value)) :
    ∃ events, result = .ok (value, state.withEvents events) := by
  cases h with
  | value _ events => exact ⟨events, rfl⟩

theorem error {result : Except Stop (α × State)} (h : Yields state result none) :
    ∃ stop, result = .error stop := by
  cases h with
  | stop stop => exact ⟨stop, rfl⟩

end Yields

/-! ## Operands -/

variable [Interpreter]

/-- The integers that are known by the names of constants. -/
def known? (constants : Constants) (name : String) : Option Int :=
  (constants.lookup name).bind Text.Integer.signed?

/-- The value of an expression in which the constants are known. -/
def valueOf? (constants : Constants) (text : String) : Option Int :=
  (Expression.evaluate (known? constants) text).value?

omit [Interpreter] in
theorem integer?_eq (symbols : Symbols) : symbols.integer? = known? symbols.constants := by
  funext name
  rw [Symbols.integer?, known?, Symbols.lookup_constants]

/-- Variables are not known in expressions. -/
theorem value?_evaluate (symbols : Symbols) (text : String) :
    (symbols.evaluate text).value? = valueOf? symbols.constants text := by
  rw [Symbols.evaluate, integer?_eq, valueOf?]

theorem evaluate_yields (state : State) (text : String) :
    ∃ events, state.evaluate text =
      (valueOf? state.symbols.constants text, state.withEvents events) := by
  rw [← value?_evaluate]
  exact ⟨_, rfl⟩

/-- The text of an expression between its delimiters. -/
def expressionText? (constants : Constants) (text : String) : Option String :=
  (valueOf? constants (expressionBody text)).map toString

theorem expression_yields (state : State) (text : String) :
    Yields state (expression state text) (expressionText? state.symbols.constants text) := by
  obtain ⟨events, hevaluate⟩ := evaluate_yields state (expressionBody text)
  unfold expression expressionText?
  simp only [hevaluate]
  generalize valueOf? state.symbols.constants (expressionBody text) = value?
  cases value? with
  | none => exact .stop _
  | some value => exact .value _ events

/-- The text of an operand. -/
def immediateText? (constants : Constants) : Immediate → Option String
  | .expr text => expressionText? constants text
  | .number text | .char text | .name text => some text

theorem immediate_yields (state : State) (imm : Immediate) :
    Yields state (immediate state imm) (immediateText? state.symbols.constants imm) := by
  unfold immediate immediateText?
  cases imm with
  | expr text => exact expression_yields state text
  | number text | char text | name text => exact .pure text

/-- The texts of operands. -/
def immediateTexts? (constants : Constants) : List Immediate → Option (List String)
  | [] => some []
  | imm :: imms =>
      (immediateText? constants imm).bind fun text =>
        (immediateTexts? constants imms).bind fun texts => some (text :: texts)

theorem immediates_yields (state : State) (imms : List Immediate) :
    Yields state (immediates state imms) (immediateTexts? state.symbols.constants imms) := by
  induction imms generalizing state with
  | nil => exact .pure []
  | cons imm imms ih =>
      refine (immediate_yields state imm).bind fun text events => ?_
      exact (ih (state.withEvents events)).bind fun texts events' => .pure (text :: texts)

/-- The number of elements that a size says, each of so many bytes. -/
def sizeOf? (constants : Constants) (imm : Immediate) (unit : Int) : Option Int :=
  ((sizeExpression? imm).bind (valueOf? constants)).filter fun count =>
    !(count ≤ 0 || sizeLimit / unit < count)

theorem sizeOf_yields (state : State) (imm : Immediate) (unit : Int) :
    Yields state (sizeOf state imm unit) (sizeOf? state.symbols.constants imm unit) := by
  unfold sizeOf sizeOf?
  cases sizeExpression? imm with
  | none => exact .refuse _
  | some text =>
      obtain ⟨events, hevaluate⟩ := evaluate_yields state text
      simp only [hevaluate, Option.bind_some]
      generalize valueOf? state.symbols.constants text = value?
      cases value? with
      | none => exact .stop _
      | some count =>
          by_cases hsize : (count ≤ 0 || sizeLimit / unit < count) = true
          · simp only [hsize, if_true, Option.filter, Bool.not_true]
            exact .stop _
          · simp only [hsize, Option.filter, Bool.not_false]
            exact .value count events

/-! ## Simple statements -/

/-- The instruction of an operation. -/
def operationOf? (constants : Constants) (dst src : Register) (op : Operator) :
    Operand → Option Leaf
  | .register name => op.registerForm?.bind fun mnemonic => some (.instr mnemonic [dst, src, name])
  | .immediate imm =>
      op.immediateForm?.bind fun mnemonic =>
        (immediateText? constants imm).bind fun value => some (.instr mnemonic [dst, src, value])

theorem operation_yields (state : State) (dst src : Register) (op : Operator) (rhs : Operand) :
    Yields state (operation state dst src op rhs)
      (operationOf? state.symbols.constants dst src op rhs) := by
  cases rhs with
  | register name =>
      unfold operation operationOf?
      cases op.registerForm? with
      | none => exact .refuse _
      | some mnemonic => exact .pure _
  | immediate imm =>
      unfold operation operationOf?
      cases op.immediateForm? with
      | none => exact .refuse _
      | some mnemonic => exact (immediate_yields state imm).bind fun value events => .pure _

/-- The instruction of a simple statement.  Other statements have none. -/
def selected (constants : Constants) : Statement → Option Leaf
  | .call name => some (.instr "call" [name])
  | .move dst src => some (.instr "mov" [dst, src])
  | .address dst name => some (.instr "movia" [dst, name])
  | .load dst cast base offset =>
      (immediateText? constants offset).bind fun offset =>
        some (.instr cast.load [dst, memoryOperand offset base])
  | .loadName dst name cast? =>
      if cast?.isNone && (constants.lookup name).isSome then some (.instr "movi" [dst, name])
      else some (.instr (cast?.getD .word).load [dst, memoryOperand name Register.zero])
  | .loadImmediate dst value =>
      (immediateText? constants value).bind fun value => some (.instr "movi" [dst, value])
  | .operate dst src op rhs => operationOf? constants dst src op rhs
  | .store cast src (.variable name) =>
      some (.instr cast.store [src, memoryOperand name Register.zero])
  | .store cast src (.memory base offset) =>
      (immediateText? constants offset).bind fun offset =>
        some (.instr cast.store [src, memoryOperand offset base])
  | .block _ _ | .branch _ | .otherwise | .loop _ | .close | .comment _ | .declare _ => none

theorem instruction_yields (state : State) (statement : Statement) :
    Yields state (instruction state statement)
      (selected state.symbols.constants statement) := by
  cases statement with
  | call name | move dst src | address dst name => exact .pure _
  | load dst cast base offset =>
      exact (immediate_yields state offset).bind fun text events => .pure _
  | loadName dst name cast? =>
      simp only [instruction, selected, loadNamed, Symbols.lookup_constants]
      split
      · exact .pure _
      · exact .pure _
  | loadImmediate dst value =>
      exact (immediate_yields state value).bind fun text events => .pure _
  | operate dst src op rhs => exact operation_yields state dst src op rhs
  | store cast src target =>
      cases target with
      | «variable» name => exact .pure _
      | memory base offset =>
          exact (immediate_yields state offset).bind fun text events => .pure _
  | block _ _ | branch _ | otherwise | loop _ | close | comment _ | declare _ => exact .stop _

/-- A simple statement becomes an instruction, and no other kind of leaf. -/
theorem eq_instr_of_selected {constants : Constants} {statement : Statement} {leaf : Leaf}
    (h : selected constants statement = some leaf) :
    ∃ mnemonic operands, leaf = .instr mnemonic operands := by
  unfold selected operationOf? at h
  repeat' split at h
  all_goals
    simp only [Option.bind_eq_some_iff, Option.some.injEq, reduceCtorEq] at h
  all_goals grind

/-! ## Constants -/

/-- The text of a constant whose definition has the given text. -/
def constantText? (constants : Constants) (value : String) : Option String :=
  if isSingleExpression value then expressionText? constants value else some value

/-! ## Variables -/

/-- The storage of a variable.  A constant has none. -/
def storageOf? (constants : Constants) : Declaration → Option (Variable × Storage)
  | .const _ _ => none
  | .scalar width name init =>
      if init.isEmpty then
        some (⟨name, alignOf width, ".skip", [toString width.bytes]⟩,
          ⟨width.bytes, alignOf width, []⟩)
      else
        (immediateTexts? constants init).bind fun texts =>
          some (⟨name, alignOf width, valueDirective width, texts⟩,
            ⟨width.bytes * texts.length, alignOf width, texts⟩)
  | .array width name size =>
      (sizeOf? constants size width.bytes).bind fun count =>
        some (⟨name, alignOf width, ".skip", [toString (count * width.bytes)]⟩,
          ⟨count * width.bytes, alignOf width, []⟩)
  | .buffer name size =>
      (sizeOf? constants size Width.byte.bytes).bind fun count =>
        some (⟨name, alignOf .byte, ".skip", [toString (count * Width.byte.bytes)]⟩,
          ⟨count * Width.byte.bytes, alignOf .byte, []⟩)
  | .string name literal => some (stringStorage name literal)

end Shorthand.Lowering
