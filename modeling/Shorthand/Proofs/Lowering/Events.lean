import Shorthand.Proofs.Lowering.Runs

/-!
# Events have no influence

A lowering records what is printed and warned about, and never looks at it.  So from two states
that differ in their events only (`State.Near`), a step for the same statement gets to two such
states, or stops with the same problem, on whichever lines of the source the statement stands
(`step_alike`).  `Alike` is the relation of the two results; it is kept by sequencing, so that the
proof for each function follows its text.
-/

namespace Shorthand.Lowering

open Machine

/-! ## States and results -/

/-- The second state differs from the first one in its events only. -/
def State.Near (state state' : State) : Prop := ∃ events, state' = state.withEvents events

theorem State.Near.refl (state : State) : state.Near state := ⟨state.events, rfl⟩

theorem State.near_withEvents (state : State) (events : List Event) :
    state.Near (state.withEvents events) :=
  ⟨events, rfl⟩

/-- Both computations succeed with results that belong together, or both stop for the same
reason. -/
inductive Alike {α β : Type} (R : α → β → Prop) : Except Stop α → Except Stop β → Prop where
  | ok {result : α} {result' : β} (h : R result result') : Alike R (.ok result) (.ok result')
  | stop (halt : Halt) (events events' : List Event) :
      Alike R (.error ⟨halt, events⟩) (.error ⟨halt, events'⟩)

/-- The results are the same, with states that differ in their events only. -/
def NearResult {α : Type} (result result' : α × State) : Prop :=
  result'.1 = result.1 ∧ result.2.Near result'.2

namespace Alike

variable {α β γ δ : Type} {R : α → β → Prop} {S : γ → δ → Prop}

theorem ok_or_stop {first : Except Stop α} {second : Except Stop β} (h : Alike R first second) :
    (∃ result result', first = .ok result ∧ second = .ok result' ∧ R result result') ∨
      ∃ halt events events', first = .error ⟨halt, events⟩ ∧ second = .error ⟨halt, events'⟩ := by
  cases h with
  | ok h => exact .inl ⟨_, _, rfl, rfl, h⟩
  | stop halt events events' => exact .inr ⟨halt, events, events', rfl, rfl⟩

theorem exists_ok {first : Except Stop α} {second : Except Stop β} {result : α}
    (h : Alike R first second) (hfirst : first = .ok result) :
    ∃ result', second = .ok result' ∧ R result result' := by
  cases h with
  | ok h =>
      cases hfirst
      exact ⟨_, rfl, h⟩
  | stop => cases hfirst

theorem bind {first : Except Stop α} {first' : Except Stop β} {rest : α → Except Stop γ}
    {rest' : β → Except Stop δ} (h : Alike R first first')
    (hrest : ∀ result result', R result result' → Alike S (rest result) (rest' result')) :
    Alike S (first >>= rest) (first' >>= rest') := by
  cases h with
  | ok h => exact hrest _ _ h
  | stop halt events events' => exact .stop halt events events'

/-- The rest of a computation goes on from nearly the same state. -/
theorem bind_result {first first' : Except Stop (α × State)}
    {rest rest' : α × State → Except Stop γ}
    {S : γ → γ → Prop} (h : Alike NearResult first first')
    (hrest : ∀ value state events,
      Alike S (rest (value, state)) (rest' (value, state.withEvents events))) :
    Alike S (first >>= rest) (first' >>= rest') := by
  refine h.bind ?_
  rintro ⟨value, state⟩ ⟨value', _⟩ ⟨hvalue, events, rfl⟩
  obtain rfl : value' = value := hvalue
  exact hrest value' state events

theorem bind_near {first first' : Except Stop State} {rest rest' : State → Except Stop γ}
    {S : γ → γ → Prop} (h : Alike State.Near first first')
    (hrest : ∀ state events, Alike S (rest state) (rest' (state.withEvents events))) :
    Alike S (first >>= rest) (first' >>= rest') := by
  refine h.bind ?_
  rintro state _ ⟨events, rfl⟩
  exact hrest state events

end Alike

section near

variable (state : State) (events : List Event)

theorem scope_withEvents : (state.withEvents events).scope = state.scope := rfl

theorem compiled_withEvents : (state.withEvents events).compiled = state.compiled := rfl

theorem main?_withEvents : (state.withEvents events).main? = state.main? := rfl

theorem done_alike {α : Type} (result : α) :
    Alike NearResult (.ok (result, state)) (.ok (result, state.withEvents events)) :=
  .ok ⟨rfl, state.near_withEvents events⟩

theorem refuse_alike {α β : Type} {R : α → β → Prop} (state' : State) (problem : Problem) :
    Alike R (state.refuse problem) (state'.refuse problem) :=
  .stop _ _ _

theorem checked_alike {α : Type} (result : Except Fault α) :
    Alike Eq (state.checked result) ((state.withEvents events).checked result) := by
  cases result with
  | ok value => exact .ok rfl
  | error fault => exact .stop _ _ _

theorem allowed_alike {α : Type} (result : Except Problem α) :
    Alike Eq (state.allowed result) ((state.withEvents events).allowed result) := by
  cases result with
  | ok value => exact .ok rfl
  | error problem => exact .stop _ _ _

/-! ## Operands -/

theorem exists_evaluate [Interpreter] (text : String) :
    ∃ value? after events', state.evaluate text = (value?, after) ∧
      (state.withEvents events).evaluate text = (value?, after.withEvents events') :=
  ⟨_, _, _, rfl, rfl⟩

theorem expression_alike [Interpreter] (text : String) :
    Alike NearResult (expression state text) (expression (state.withEvents events) text) := by
  obtain ⟨value?, after, events', hvalue, hvalue'⟩ :=
    exists_evaluate state events (expressionBody text)
  unfold expression
  dsimp only
  rw [hvalue, hvalue']
  cases value? with
  | none => exact refuse_alike _ _ _
  | some value => exact done_alike after events' _

theorem immediate_alike [Interpreter] (imm : Immediate) :
    Alike NearResult (immediate state imm) (immediate (state.withEvents events) imm) := by
  cases imm with
  | expr text => exact expression_alike state events text
  | number text | char text | name text => exact done_alike state events _

theorem immediates_alike [Interpreter] (imms : List Immediate) :
    Alike NearResult (immediates state imms) (immediates (state.withEvents events) imms) := by
  induction imms generalizing state events with
  | nil => exact done_alike state events []
  | cons imm imms ih =>
      refine (immediate_alike state events imm).bind_result fun text state events => ?_
      exact (ih state events).bind_result fun texts state events => done_alike state events _

theorem sizeOf_alike [Interpreter] (imm : Immediate) (unit : Int) :
    Alike NearResult (sizeOf state imm unit) (sizeOf (state.withEvents events) imm unit) := by
  unfold sizeOf
  cases sizeExpression? imm with
  | none => exact refuse_alike _ _ _
  | some text =>
      obtain ⟨value?, after, events', hvalue, hvalue'⟩ := exists_evaluate state events text
      dsimp only
      rw [hvalue, hvalue']
      cases value? with
      | none => exact refuse_alike _ _ _
      | some count =>
          dsimp only
          split
          · exact refuse_alike _ _ _
          · exact done_alike after events' count

theorem operation_alike [Interpreter] (dst src : Register) (op : Operator) (rhs : Operand) :
    Alike NearResult (operation state dst src op rhs)
      (operation (state.withEvents events) dst src op rhs) := by
  cases rhs with
  | register name =>
      unfold operation
      cases op.registerForm? with
      | none => exact refuse_alike _ _ _
      | some mnemonic => exact done_alike _ _ _
  | immediate imm =>
      unfold operation
      cases op.immediateForm? with
      | none => exact refuse_alike _ _ _
      | some mnemonic =>
          exact (immediate_alike state events imm).bind_result fun text state events =>
            done_alike _ _ _

theorem instruction_alike [Interpreter] (statement : Statement) :
    Alike NearResult (instruction state statement)
      (instruction (state.withEvents events) statement) := by
  cases statement with
  | load dst cast base imm | loadImmediate dst imm =>
      exact (immediate_alike state events imm).bind_result fun text state events => done_alike _ _ _
  | store cast src target =>
      cases target with
      | «variable» name => exact done_alike _ _ _
      | memory base offset =>
          exact (immediate_alike state events offset).bind_result fun text state events =>
            done_alike _ _ _
  | operate dst src op rhs => exact operation_alike state events dst src op rhs
  | call | move | address | loadName => exact done_alike _ _ _
  | block | branch | otherwise | loop | close | comment | declare => exact .stop _ _ _

/-! ## Declarations -/

theorem addSetup_alike (leaves : List Leaf) :
    Alike State.Near (state.addSetup leaves) ((state.withEvents events).addSetup leaves) := by
  refine (checked_alike state events (state.setup.addLeaves leaves)).bind ?_
  rintro setup _ rfl
  exact .ok ⟨events, rfl⟩

theorem constantText_alike [Interpreter] (value : String) :
    Alike NearResult (constantText state value) (constantText (state.withEvents events) value) := by
  unfold constantText
  split
  · exact expression_alike state events value
  · exact done_alike state events value

theorem defineConstant_alike [Interpreter] (name value : String) :
    Alike State.Near (defineConstant state name value)
      (defineConstant (state.withEvents events) name value) := by
  rw [defineConstant_eq, defineConstant_eq]
  refine (constantText_alike state events value).bind_result fun text state events => ?_
  exact (addSetup_alike state events _).bind_near fun state events => .ok ⟨events, rfl⟩

theorem defineConstants_alike [Interpreter] (defined : List (String × String)) :
    Alike State.Near (defineConstants state defined)
      (defineConstants (state.withEvents events) defined) := by
  induction defined generalizing state events with
  | nil => exact .ok ⟨events, rfl⟩
  | cons entry defined ih =>
      exact (defineConstant_alike state events entry.1 entry.2).bind_near ih

theorem enter_alike (v : Variable) (storage : Storage) :
    Alike State.Near (enter state v storage) (enter (state.withEvents events) v storage) := by
  refine (allowed_alike state events (state.symbols.declare v.name storage)).bind ?_
  rintro symbols _ rfl
  dsimp only
  split
  · exact .ok ⟨events, rfl⟩
  · exact .ok ⟨events, rfl⟩

/-- Storage is found for a variable, and then the variable is entered. -/
theorem enter_bind_alike {first first' : Except Stop (Variable × Storage × State)}
    (h : Alike (fun entry entry' => entry'.1 = entry.1 ∧ NearResult entry.2 entry'.2)
      first first') :
    Alike State.Near (first >>= fun (v, storage, state) => enter state v storage)
      (first' >>= fun (v, storage, state) => enter state v storage) := by
  refine h.bind ?_
  rintro ⟨v, storage, state⟩ ⟨v', storage', _⟩ ⟨hv, hstorage, events, rfl⟩
  obtain rfl : v' = v := hv
  obtain rfl : storage' = storage := hstorage
  exact enter_alike state events v' storage'

theorem declare_alike [Interpreter] (declaration : Declaration) :
    Alike State.Near (declare state declaration)
      (declare (state.withEvents events) declaration) := by
  have harray : ∀ (width : Width) (name : String) (size : Immediate),
      Alike State.Near
        (arrayStorage state width name size >>= fun (v, storage, state) => enter state v storage)
        (arrayStorage (state.withEvents events) width name size >>= fun (v, storage, state) =>
          enter state v storage) := by
    intro width name size
    refine enter_bind_alike ?_
    exact (sizeOf_alike state events size width.bytes).bind_result fun count state events =>
      .ok ⟨rfl, rfl, events, rfl⟩
  cases declaration with
  | const name value =>
      unfold declare
      rw [scope_withEvents]
      cases state.scope with
      | nothing | body body => exact refuse_alike _ _ _
      | compile => exact defineConstant_alike state events name value
  | array width name size => exact harray width name size
  | buffer name size => exact harray .byte name size
  | string name literal => exact enter_alike state events _ _
  | scalar width name init =>
      refine enter_bind_alike ?_
      unfold scalarStorage
      dsimp only
      split
      · exact .ok ⟨rfl, rfl, events, rfl⟩
      · exact (immediates_alike state events init).bind_result fun texts state events =>
          .ok ⟨rfl, rfl, events, rfl⟩

/-! ## Blocks -/

theorem closeScope_alike :
    Alike State.Near (closeScope state) (closeScope (state.withEvents events)) := by
  unfold closeScope
  rw [scope_withEvents]
  cases state.scope with
  | nothing | compile => exact .ok ⟨events, rfl⟩
  | body body =>
      dsimp only
      split
      · exact refuse_alike _ _ _
      · split <;> exact .ok ⟨events, rfl⟩

theorem openCompile_alike [Interpreter] (predefined : List (String × String)) :
    Alike State.Near (openCompile predefined state)
      (openCompile predefined (state.withEvents events)) := by
  unfold openCompile
  rw [compiled_withEvents]
  split
  · exact refuse_alike _ _ _
  · exact (defineConstants_alike { state with compiled := true } events predefined).bind_near
      fun state events => .ok ⟨events, rfl⟩

/-- Where the block stands only shows in a warning. -/
theorem openMain_alike (place place' : Place) (colon : Bool) :
    Alike State.Near (openMain place colon state)
      (openMain place' colon (state.withEvents events)) := by
  unfold openMain
  rw [main?_withEvents]
  split
  · exact refuse_alike _ _ _
  · exact .ok ⟨_, rfl⟩

theorem openFunction_alike (name : String) :
    Alike State.Near (openFunction name state)
      (openFunction name (state.withEvents events)) := by
  have hfunctions : (state.withEvents events).functions = state.functions := rfl
  unfold openFunction
  rw [hfunctions]
  split
  · exact refuse_alike _ _ _
  · exact .ok ⟨events, rfl⟩

theorem openBlock_alike [Interpreter] (predefined : List (String × String)) (place place' : Place)
    (head : BlockHead) (colon : Bool) :
    Alike State.Near (openBlock predefined place state head colon)
      (openBlock predefined place' (state.withEvents events) head colon) := by
  refine (closeScope_alike state events).bind_near fun state events => ?_
  cases head with
  | compile => exact openCompile_alike state events predefined
  | main => exact openMain_alike state events place place' colon
  | function name => exact openFunction_alike state events name

/-! ## Constructs -/

theorem addTo_alike (body : Body) (leaves : List Leaf) :
    Alike State.Near (state.addTo body leaves) ((state.withEvents events).addTo body leaves) := by
  refine (checked_alike state events (body.addLeaves leaves)).bind ?_
  rintro body _ rfl
  exact .ok ⟨events, rfl⟩

theorem nest_alike (body : Body) (opening : Opening) (number : Nat) (leaves : List Leaf) :
    Alike State.Near (nest state body opening number leaves)
      (nest (state.withEvents events) body opening number leaves) := by
  refine (checked_alike state events body.current.checkOpen).bind fun _ _ _ => ?_
  refine (checked_alike state events Block.empty.attach).bind ?_
  rintro block _ rfl
  exact addTo_alike state events _ leaves

theorem finish_alike (body : Body) (frame : Frame) (frames : List Frame) (leaves : List Leaf) :
    Alike Eq (finish state body frame frames leaves)
      (finish (state.withEvents events) body frame frames leaves) := by
  refine (checked_alike state events (frame.block.addLeaves leaves)).bind ?_
  rintro block _ rfl
  exact checked_alike state events _

theorem openBranch_alike (cond : Condition) :
    Alike State.Near (openBranch state cond) (openBranch (state.withEvents events) cond) := by
  unfold openBranch
  rw [scope_withEvents]
  cases state.scope with
  | nothing | compile => exact refuse_alike _ _ _
  | body body => exact nest_alike (state.nextNumber body.kind.name .branch).2 events _ _ _ _

theorem openLoop_alike (cond? : Option Condition) :
    Alike State.Near (openLoop state cond?) (openLoop (state.withEvents events) cond?) := by
  unfold openLoop
  rw [scope_withEvents]
  cases state.scope with
  | nothing | compile => exact refuse_alike _ _ _
  | body body =>
      cases cond? with
      | none => exact nest_alike (state.nextNumber body.kind.name .loop).2 events _ _ _ _
      | some cond => exact nest_alike (state.nextNumber body.kind.name .loop).2 events _ _ _ _

theorem openAlternative_alike :
    Alike State.Near (openAlternative state) (openAlternative (state.withEvents events)) := by
  unfold openAlternative
  rw [scope_withEvents]
  cases state.scope with
  | nothing | compile => exact refuse_alike _ _ _
  | body body =>
      dsimp only
      split
      · exact refuse_alike _ _ _
      · split
        · refine (finish_alike state events body _ _ _).bind ?_
          rintro body _ rfl
          exact nest_alike state events _ _ _ _
        · exact refuse_alike _ _ _
        · exact refuse_alike _ _ _
        · exact refuse_alike _ _ _

theorem closeInnermost_alike :
    Alike State.Near (closeInnermost state) (closeInnermost (state.withEvents events)) := by
  have hclose := closeScope_alike state events
  unfold closeInnermost
  rw [scope_withEvents]
  cases state.scope with
  | nothing => exact refuse_alike _ _ _
  | compile => exact hclose
  | body body =>
      dsimp only
      split
      · exact hclose
      · refine (finish_alike state events body _ _ _).bind ?_
        rintro body _ rfl
        exact .ok ⟨events, rfl⟩

theorem addComment_alike (text : String) :
    Alike State.Near (addComment state text) (addComment (state.withEvents events) text) := by
  unfold addComment
  rw [scope_withEvents]
  cases state.scope with
  | nothing => exact .ok ⟨events, rfl⟩
  | compile => exact addSetup_alike state events _
  | body body => exact addTo_alike state events body _

theorem addInstruction_alike [Interpreter] (statement : Statement) :
    Alike State.Near (addInstruction state statement)
      (addInstruction (state.withEvents events) statement) := by
  unfold addInstruction
  rw [scope_withEvents]
  cases state.scope with
  | nothing | compile => exact refuse_alike _ _ _
  | body body =>
      exact (instruction_alike state events statement).bind_result fun leaf state events =>
        addTo_alike state events body [leaf]

/-! ## Statements -/

/-- A step from nearly the same state, for the same statement, does nearly the same. -/
theorem step_alike [Interpreter] (predefined : List (String × String)) (place place' : Place)
    (statement : Statement) :
    Alike State.Near (step predefined state ⟨place, statement⟩)
      (step predefined (state.withEvents events) ⟨place', statement⟩) := by
  cases statement with
  | block head colon => exact openBlock_alike state events predefined place place' head colon
  | branch cond => exact openBranch_alike state events cond
  | otherwise => exact openAlternative_alike state events
  | loop cond? => exact openLoop_alike state events cond?
  | close => exact closeInnermost_alike state events
  | comment text => exact addComment_alike state events text
  | declare declaration => exact declare_alike state events declaration
  | call | move | address | load | loadName | loadImmediate | operate | store =>
      exact addInstruction_alike state events _

theorem conclude_alike : Alike Eq (conclude state) (conclude (state.withEvents events)) := by
  refine (closeScope_alike state events).bind ?_
  rintro state _ ⟨events, rfl⟩
  rw [compiled_withEvents, main?_withEvents]
  split
  · exact refuse_alike _ _ _
  · split
    · exact refuse_alike _ _ _
    · exact .ok rfl

end near

/-! ## Runs -/

/-- Both lowerings succeed with results that belong together, or both are interrupted for the same
reason, perhaps on different lines. -/
inductive EndsAlike {α β : Type} (R : α → β → Prop) :
    Except Interrupted α → Except Interrupted β → Prop where
  | ok {result : α} {result' : β} (h : R result result') : EndsAlike R (.ok result) (.ok result')
  | interrupted (halt : Halt) (place? place?' : Option Place) (events events' : List Event) :
      EndsAlike R (.error ⟨halt, place?, events⟩) (.error ⟨halt, place?', events'⟩)

theorem EndsAlike.ok_or_interrupted {α β : Type} {R : α → β → Prop}
    {first : Except Interrupted α} {second : Except Interrupted β} (h : EndsAlike R first second) :
    (∃ result result', first = .ok result ∧ second = .ok result' ∧ R result result') ∨
      ∃ halt place? place?' events events', first = .error ⟨halt, place?, events⟩ ∧
        second = .error ⟨halt, place?', events'⟩ := by
  cases h with
  | ok h => exact .inl ⟨_, _, rfl, rfl, h⟩
  | interrupted halt place? place?' events events' =>
      exact .inr ⟨halt, place?, place?', events, events', rfl, rfl⟩

theorem steps_cons [Interpreter] (predefined : List (String × String)) (state : State)
    (located : Located) (rest : List Located) :
    steps predefined state (located :: rest) =
      match step predefined state located with
      | .ok state => steps predefined state rest
      | .error stop => .error ⟨stop.halt, some located.place, stop.events⟩ := rfl

/-- Steps from nearly the same state, for the same statements, do nearly the same. -/
theorem steps_alike [Interpreter] (predefined : List (String × String))
    {first second : List Located} {state state' : State}
    (hsame : first.map Located.statement = second.map Located.statement)
    (hnear : state.Near state') :
    EndsAlike State.Near (steps predefined state first) (steps predefined state' second) := by
  induction first generalizing second state state' with
  | nil =>
      obtain rfl : second = [] := List.map_eq_nil_iff.mp hsame.symm
      exact .ok hnear
  | cons located first ih =>
      obtain ⟨located', second, rfl, hlocated, hrest⟩ := List.map_eq_cons_iff.mp hsame.symm
      obtain ⟨place, statement⟩ := located
      obtain ⟨place', statement'⟩ := located'
      obtain rfl : statement' = statement := hlocated
      obtain ⟨events, rfl⟩ := hnear
      rw [steps_cons, steps_cons]
      obtain ⟨next, next', hnext, hnext', h⟩ | ⟨halt, events₁, events₂, hstop, hstop'⟩ :=
        (step_alike state events predefined place place' statement').ok_or_stop
      · rw [hnext, hnext']
        exact ih hrest.symm h
      · rw [hstop, hstop']
        exact .interrupted halt _ _ events₁ events₂

/-- Lowerings whose steps end alike come to the same listing. -/
theorem lower_alike [Interpreter] {predefined predefined' : List (String × String)}
    {first second : List Located}
    (h : EndsAlike State.Near (steps predefined .start first) (steps predefined' .start second)) :
    EndsAlike (fun result result' => result'.1 = result.1) (lower predefined first)
      (lower predefined' second) := by
  unfold lower
  obtain ⟨state, _, hstate, hstate', events, rfl⟩ |
    ⟨halt, place?, place?', events, events', hstop, hstop'⟩ := h.ok_or_interrupted
  · rw [hstate, hstate']
    dsimp only
    obtain ⟨listing, _, hlisting, hlisting', rfl⟩ | ⟨halt, events₁, events₂, hstop, hstop'⟩ :=
      (conclude_alike state events).ok_or_stop
    · rw [hlisting, hlisting']
      exact .ok rfl
    · rw [hstop, hstop']
      exact .interrupted halt none none events₁ events₂
  · rw [hstop, hstop']
    exact .interrupted halt place? place?' events events'

end Shorthand.Lowering
