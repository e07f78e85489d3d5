import Shorthand.Lowering.Control
import Shorthand.Proofs.Flow.Program

/-!
# The part of a state that is not code

Operands, variables and instructions are made from the symbols, and what is printed meanwhile is
recorded.  The code that a state holds is neither looked at nor changed.  So a computation does the
same if the state has other code, and the code is still there afterwards.  Since no block is filled,
no fault is committed either.
-/

namespace Shorthand.Lowering

open Machine

/-- The code that a state holds. -/
structure Output where
  setup : Block
  main? : Option Block
  functions : List (String × Block)
  scope : Scope

/-- The state with other code. -/
def State.withOutput (state : State) (output : Output) : State :=
  { state with
    setup := output.setup, main? := output.main?, functions := output.functions,
    scope := output.scope }

/-- The result of a computation, and the state after it with other code. -/
def Output.carry {α : Type} (output : Output) (result : α × State) : α × State :=
  (result.1, result.2.withOutput output)

section withOutput

variable [Interpreter] (state : State) (output : Output)

theorem evaluate_withOutput (text : String) :
    (state.withOutput output).evaluate text = output.carry (state.evaluate text) := rfl

theorem expression_withOutput (text : String) :
    expression (state.withOutput output) text = (expression state text).map output.carry := by
  unfold expression
  dsimp only
  rw [evaluate_withOutput]
  rcases state.evaluate (expressionBody text) with ⟨_ | value, state'⟩ <;> rfl

theorem immediate_withOutput (imm : Immediate) :
    immediate (state.withOutput output) imm = (immediate state imm).map output.carry := by
  cases imm with
  | expr text => exact expression_withOutput state output text
  | number text | char text | name text => rfl

theorem immediates_withOutput (imms : List Immediate) :
    immediates (state.withOutput output) imms = (immediates state imms).map output.carry := by
  induction imms generalizing state with
  | nil => rfl
  | cons imm imms ih =>
      rw [immediates, immediate_withOutput, immediates]
      rcases immediate state imm with stop | ⟨text, middle⟩
      · rfl
      have hrest := ih middle
      simp only [Except.map, bind, Except.bind, Output.carry] at hrest ⊢
      rw [hrest]
      rcases immediates middle imms with stop | ⟨texts, final⟩ <;> rfl

theorem sizeOf_withOutput (imm : Immediate) (unit : Int) :
    sizeOf (state.withOutput output) imm unit = (sizeOf state imm unit).map output.carry := by
  unfold sizeOf
  cases sizeExpression? imm with
  | none => rfl
  | some text =>
      dsimp only
      rw [evaluate_withOutput]
      rcases state.evaluate text with ⟨_ | count, state'⟩
      · rfl
      · simp only [Output.carry]
        split <;> rfl

theorem instruction_withOutput (statement : Statement) :
    instruction (state.withOutput output) statement =
      (instruction state statement).map output.carry := by
  cases statement with
  | load dst cast base offset =>
      simp only [instruction, immediate_withOutput]
      rcases immediate state offset with stop | ⟨text, state'⟩ <;> rfl
  | loadImmediate dst value =>
      simp only [instruction, immediate_withOutput]
      rcases immediate state value with stop | ⟨text, state'⟩ <;> rfl
  | store cast src target =>
      cases target with
      | «variable» name => rfl
      | memory base offset =>
          simp only [instruction, immediate_withOutput]
          rcases immediate state offset with stop | ⟨text, state'⟩ <;> rfl
  | operate dst src op rhs =>
      cases rhs with
      | register name =>
          simp only [instruction, operation]
          cases op.registerForm? <;> rfl
      | immediate imm =>
          simp only [instruction, operation, immediate_withOutput]
          cases op.immediateForm? with
          | none => rfl
          | some mnemonic => rcases immediate state imm with stop | ⟨text, state'⟩ <;> rfl
  | _ => rfl

omit [Interpreter] in
theorem enter_withOutput (v : Variable) (storage : Storage) :
    enter (state.withOutput output) v storage =
      (enter state v storage).map (·.withOutput output) := by
  unfold enter
  have hsymbols : (state.withOutput output).symbols = state.symbols := rfl
  rw [hsymbols]
  cases state.symbols.declare v.name storage with
  | error problem => rfl
  | ok symbols =>
      simp only [State.allowed, bind, Except.bind]
      split <;> rfl

theorem declare_withOutput {declaration : Declaration} (h : declaration.isVariable = true) :
    declare (state.withOutput output) declaration =
      (declare state declaration).map (·.withOutput output) := by
  have harray : ∀ (width : Width) (name : String) (size : Immediate),
      (arrayStorage (state.withOutput output) width name size >>= fun entry =>
        enter entry.2.2 entry.1 entry.2.1) =
      (arrayStorage state width name size >>= fun entry =>
        enter entry.2.2 entry.1 entry.2.1).map (·.withOutput output) := by
    intro width name size
    simp only [arrayStorage, sizeOf_withOutput]
    rcases sizeOf state size width.bytes with stop | ⟨count, state'⟩
    · rfl
    · exact enter_withOutput state' output _ _
  cases declaration with
  | const name value => cases h
  | array width name size => exact harray width name size
  | buffer name size => exact harray .byte name size
  | string name literal => exact enter_withOutput state output _ _
  | scalar width name init =>
      simp only [declare, scalarStorage]
      by_cases hinit : init.isEmpty = true
      · simp only [hinit, if_true]
        exact enter_withOutput state output _ _
      · simp only [hinit, immediates_withOutput]
        rcases immediates state init with stop | ⟨texts, state'⟩
        · rfl
        · exact enter_withOutput state' output _ _

end withOutput

/-! ## No faults -/

/-- The computation commits no fault. -/
inductive Faultless {α : Type} : Except Stop α → Prop where
  | ok (value : α) : Faultless (.ok value)
  | refused (problem : Problem) (events : List Event) :
      Faultless (.error ⟨.problem problem, events⟩)

theorem Faultless.bind {α β : Type} {first : Except Stop α} {rest : α → Except Stop β}
    (h : Faultless first) (hrest : ∀ value, Faultless (rest value)) :
    Faultless (first >>= rest) := by
  cases h with
  | ok value => exact hrest value
  | refused problem events => exact .refused problem events

variable [Interpreter]

theorem expression_faultless (state : State) (text : String) :
    Faultless (expression state text) := by
  unfold expression
  dsimp only
  split
  · exact .ok _
  · exact .refused _ _

theorem immediate_faultless (state : State) (imm : Immediate) :
    Faultless (immediate state imm) := by
  cases imm with
  | expr text => exact expression_faultless state text
  | number text | char text | name text => exact .ok _

theorem immediates_faultless (state : State) (imms : List Immediate) :
    Faultless (immediates state imms) := by
  induction imms generalizing state with
  | nil => exact .ok _
  | cons imm imms ih =>
      refine (immediate_faultless state imm).bind fun first => ?_
      exact (ih first.2).bind fun _ => .ok _

theorem sizeOf_faultless (state : State) (imm : Immediate) (unit : Int) :
    Faultless (sizeOf state imm unit) := by
  unfold sizeOf
  dsimp only
  repeat' split
  all_goals first
    | exact .ok _
    | exact .refused _ _

theorem instruction_faultless (state : State) {statement : Statement}
    (h : statement.isSimple = true) : Faultless (instruction state statement) := by
  cases statement with
  | block | branch | otherwise | loop | close | comment | declare => cases h
  | load dst cast base offset => exact (immediate_faultless state offset).bind fun _ => .ok _
  | loadImmediate dst value => exact (immediate_faultless state value).bind fun _ => .ok _
  | store cast src target =>
      cases target with
      | «variable» name => exact .ok _
      | memory base offset => exact (immediate_faultless state offset).bind fun _ => .ok _
  | operate dst src op rhs =>
      cases rhs with
      | register name =>
          simp only [instruction, operation]
          split
          · exact .ok _
          · exact .refused _ _
      | immediate imm =>
          simp only [instruction, operation]
          split
          · exact (immediate_faultless state imm).bind fun _ => .ok _
          · exact .refused _ _
  | _ => exact .ok _

omit [Interpreter] in
theorem enter_faultless (state : State) (v : Variable) (storage : Storage) :
    Faultless (enter state v storage) := by
  unfold enter
  cases state.symbols.declare v.name storage with
  | error problem => exact .refused _ _
  | ok symbols =>
      simp only [State.allowed, bind, Except.bind]
      split <;> exact .ok _

theorem declare_faultless (state : State) {declaration : Declaration}
    (h : declaration.isVariable = true) : Faultless (declare state declaration) := by
  have harray : ∀ (width : Width) (name : String) (size : Immediate),
      Faultless (arrayStorage state width name size >>= fun entry =>
        enter entry.2.2 entry.1 entry.2.1) := by
    intro width name size
    refine Faultless.bind ?_ fun entry => enter_faultless entry.2.2 entry.1 entry.2.1
    exact (sizeOf_faultless state size width.bytes).bind fun _ => .ok _
  cases declaration with
  | const name value => cases h
  | array width name size => exact harray width name size
  | buffer name size => exact harray .byte name size
  | string name literal => exact enter_faultless state _ _
  | scalar width name init =>
      refine Faultless.bind ?_ fun entry => enter_faultless entry.2.2 entry.1 entry.2.1
      unfold scalarStorage
      split
      · exact .ok _
      · exact (immediates_faultless state init).bind fun _ => .ok _

end Shorthand.Lowering
