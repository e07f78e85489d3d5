import Shorthand.Proofs.Flow.Program
import Shorthand.Proofs.Lowering.Operands

/-!
# Updates of the state of a lowering

The functions that change a state also check that no rule of blocks is broken, and some of them
may refuse.  This file says for each of them when it succeeds, and what the state is then:
filling blocks and bodies (`Block.put`, `Body.put`), closing the scope (`State.closed`), defining
constants (`Defines`) and declaring variables (`Reserves`).

`Agrees R computation value?` is the common form of these facts: the computation succeeds exactly
if there is a value, and then its result and the value are related by `R`.
-/

namespace Shorthand

/-! ## Filling blocks -/

/-- The block with more nodes at its end. -/
def Block.put (block : Block) (nodes : List Node) : Block :=
  { block with reversed := nodes.reverse ++ block.reversed }

namespace Block

variable {block : Block} {nodes : List Node}

@[simp] theorem isSealed_put : (block.put nodes).isSealed = block.isSealed := rfl

@[simp] theorem nodes_put : (block.put nodes).nodes = block.nodes ++ nodes := by
  simp [put, Block.nodes]

@[simp] theorem put_put (first second : List Node) :
    (block.put first).put second = block.put (first ++ second) := by
  simp [put]

@[simp] theorem put_nil (block : Block) : block.put [] = block := rfl

theorem add_eq (h : block.isSealed = false) : block.add nodes = .ok (block.put nodes) := by
  simp [add, checkOpen, h, put, bind, Except.bind, pure, Except.pure]

theorem addLeaves_eq (h : block.isSealed = false) (leaves : List Leaf) :
    block.addLeaves leaves = .ok (block.put (Node.ofLeaves leaves)) :=
  add_eq h

end Block

namespace Lowering

/-- The body with more nodes at the end of what is being filled. -/
def Body.put (body : Body) (nodes : List Node) : Body :=
  match body.frames with
  | [] => { body with block := body.block.put nodes }
  | frame :: frames =>
      { body with frames := { frame with block := frame.block.put nodes } :: frames }

/-- No block of the body is sealed. -/
def Body.IsOpen (body : Body) : Prop :=
  body.block.isSealed = false ∧ ∀ frame ∈ body.frames, frame.block.isSealed = false

namespace Body

variable {body : Body} {nodes : List Node}

@[simp] theorem kind_put : (body.put nodes).kind = body.kind := by
  unfold put
  split <;> rfl

@[simp] theorem put_put (first second : List Node) :
    (body.put first).put second = body.put (first ++ second) := by
  obtain ⟨kind, block, frames⟩ := body
  cases frames <;> simp [put]

@[simp] theorem put_nil (body : Body) : body.put [] = body := by
  obtain ⟨kind, block, frames⟩ := body
  cases frames <;> simp [put]

theorem openings_put (body : Body) (nodes : List Node) :
    (body.put nodes).frames.map Frame.opening = body.frames.map Frame.opening := by
  obtain ⟨kind, block, frames⟩ := body
  cases frames <;> simp [put]

theorem IsOpen.put (h : body.IsOpen) (nodes : List Node) : (body.put nodes).IsOpen := by
  obtain ⟨kind, block, frames⟩ := body
  cases frames with
  | nil => exact ⟨h.1, by simp [Body.put]⟩
  | cons frame frames =>
      obtain ⟨hblock, hframes⟩ := h
      rw [List.forall_mem_cons] at hframes
      exact ⟨hblock, List.forall_mem_cons.mpr hframes⟩

theorem IsOpen.current (h : body.IsOpen) : body.current.isSealed = false := by
  obtain ⟨kind, block, frames⟩ := body
  cases frames with
  | nil => exact h.1
  | cons frame frames => exact h.2 frame (List.mem_cons_self ..)

theorem addLeaves_eq (h : body.IsOpen) (leaves : List Leaf) :
    body.addLeaves leaves = .ok (body.put (Node.ofLeaves leaves)) := by
  obtain ⟨kind, block, frames⟩ := body
  cases frames with
  | nil =>
      have hblock : block.isSealed = false := h.1
      simp only [addLeaves, Block.addLeaves_eq hblock]
      rfl
  | cons frame frames =>
      have hblock : frame.block.isSealed = false := h.2 frame (List.mem_cons_self ..)
      simp only [addLeaves, Block.addLeaves_eq hblock]
      rfl

theorem addNode_eq (h : body.IsOpen) (node : Node) : body.addNode node = .ok (body.put [node]) := by
  obtain ⟨kind, block, frames⟩ := body
  cases frames with
  | nil =>
      have hblock : block.isSealed = false := h.1
      simp only [addNode, Block.add_eq hblock]
      rfl
  | cons frame frames =>
      have hblock : frame.block.isSealed = false := h.2 frame (List.mem_cons_self ..)
      simp only [addNode, Block.add_eq hblock]
      rfl

end Body

/-! ## Scopes -/

/-- The constructs that are open. -/
def Scope.frames : Scope → List Frame
  | .nothing | .compile => []
  | .body b => b.frames

/-- The code of a body that is finished. -/
def State.finished? (state : State) : BodyKind → Option Block
  | .main => state.main?
  | .function name => state.functions.lookup name

/-- The state after its scope is closed. -/
def State.closed (state : State) : State :=
  match state.scope with
  | .nothing | .compile => { state with scope := .nothing }
  | .body body =>
      match body.kind with
      | .main => { state with scope := .nothing, main? := some body.block }
      | .function name =>
          { state with scope := .nothing, functions := (name, body.block) :: state.functions }

section closed

variable (state : State)

@[simp] theorem State.symbols_closed : state.closed.symbols = state.symbols := by
  unfold State.closed
  repeat' split
  all_goals rfl

@[simp] theorem State.setup_closed : state.closed.setup = state.setup := by
  unfold State.closed
  repeat' split
  all_goals rfl

@[simp] theorem State.counters_closed : state.closed.counters = state.counters := by
  unfold State.closed
  repeat' split
  all_goals rfl

@[simp] theorem State.compiled_closed : state.closed.compiled = state.compiled := by
  unfold State.closed
  repeat' split
  all_goals rfl

@[simp] theorem State.words_closed : state.closed.words = state.words := by
  unfold State.closed
  repeat' split
  all_goals rfl

@[simp] theorem State.bytes_closed : state.closed.bytes = state.bytes := by
  unfold State.closed
  repeat' split
  all_goals rfl

@[simp] theorem State.scope_closed : state.closed.scope = .nothing := by
  unfold State.closed
  repeat' split
  all_goals rfl

end closed

/-- Closing a body finishes it. -/
theorem State.finished?_closed_body {state : State} {body : Body}
    (hscope : state.scope = .body body) : state.closed.finished? body.kind = some body.block := by
  unfold State.closed
  simp only [hscope]
  cases hkind : body.kind with
  | main => rfl
  | function name => simp [State.finished?]

/-- Closing a scope keeps what was finished before. -/
theorem State.finished?_closed_of_ne {state : State} {kind : BodyKind}
    (hscope : ∀ body, state.scope = .body body → body.kind ≠ kind) :
    state.closed.finished? kind = state.finished? kind := by
  unfold State.closed
  cases hstate : state.scope with
  | nothing => cases kind <;> rfl
  | compile => cases kind <;> rfl
  | body body =>
      have hne := hscope body hstate
      simp only
      cases hkind : body.kind with
      | main =>
          cases kind with
          | main => exact absurd hkind hne
          | function name => rfl
      | function name =>
          cases kind with
          | main => rfl
          | function name' =>
              have hname : (name' == name) = false := by
                rw [beq_eq_false_iff_ne]
                rintro rfl
                exact hne hkind
              simp [State.finished?, List.lookup_cons, hname]

theorem closeScope_eq {state : State} (h : state.scope.frames = []) :
    closeScope state = .ok state.closed := by
  unfold closeScope State.closed
  cases hscope : state.scope with
  | nothing => rfl
  | compile => rfl
  | body body =>
      have hframes : body.frames = [] := by simpa [hscope, Scope.frames] using h
      simp only [hframes]
      cases body.kind <;> rfl

theorem closeScope_error {state : State} (h : state.scope.frames ≠ []) :
    ∃ stop, closeScope state = .error stop := by
  unfold closeScope
  cases hscope : state.scope with
  | nothing => simp [hscope, Scope.frames] at h
  | compile => simp [hscope, Scope.frames] at h
  | body body =>
      cases hframes : body.frames with
      | nil => simp [hscope, Scope.frames, hframes] at h
      | cons frame frames =>
          simp only [hframes]
          exact ⟨_, rfl⟩

/-! ## Computations that succeed under a condition -/

/-- The computation succeeds exactly if there is a value, and then its result and the value
belong together. -/
inductive Agrees {α β : Type} (R : β → α → Prop) : Except Stop α → Option β → Prop where
  | ok {result : α} {value : β} (h : R value result) : Agrees R (.ok result) (some value)
  | stop (stop : Stop) : Agrees R (.error stop) none

namespace Agrees

variable {α β γ δ : Type} {R : β → α → Prop} {S : δ → γ → Prop}

theorem bind {first : Except Stop α} {value? : Option β} {rest : α → Except Stop γ}
    {rest? : β → Option δ} (h : Agrees R first value?)
    (hrest : ∀ result value, R value result → Agrees S (rest result) (rest? value)) :
    Agrees S (first >>= rest) (value?.bind rest?) := by
  cases h with
  | ok h => exact hrest _ _ h
  | stop stop => exact .stop stop

theorem mono {S : β → α → Prop} {first : Except Stop α} {value? : Option β}
    (h : Agrees R first value?) (hrel : ∀ value result, R value result → S value result) :
    Agrees S first value? := by
  cases h with
  | ok h => exact .ok (hrel _ _ h)
  | stop stop => exact .stop stop

/-- The value is the one that there is. -/
theorem of_eq_some {first : Except Stop α} {value? : Option β} (h : Agrees R first value?) :
    Agrees (fun value result => value? = some value ∧ R value result) first value? := by
  cases h with
  | ok h => exact .ok ⟨rfl, h⟩
  | stop stop => exact .stop stop

theorem of_ok {first : Except Stop α} {value? : Option β} {result : α} (h : Agrees R first value?)
    (hfirst : first = .ok result) : ∃ value, value? = some value ∧ R value result := by
  cases h with
  | ok h =>
      cases hfirst
      exact ⟨_, rfl, h⟩
  | stop stop => cases hfirst

theorem of_some {first : Except Stop α} {value : β} (h : Agrees R first (some value)) :
    ∃ result, first = .ok result ∧ R value result := by
  cases h with
  | ok h => exact ⟨_, rfl, h⟩

end Agrees

theorem Yields.agrees {α : Type} {state : State} {result : Except Stop (α × State)}
    {value? : Option α} (h : Yields state result value?) :
    Agrees (fun value result => ∃ events, result = (value, state.withEvents events)) result
      value? := by
  cases h with
  | value value events => exact .ok ⟨events, rfl⟩
  | stop stop => exact .stop stop

/-! ## Constants and variables -/

/-- The state with other constants. -/
def State.withConstants (state : State) (constants : Constants) : State :=
  { state with symbols := state.symbols.withConstants constants }

variable [Interpreter]

/-- The constants after one more is defined. -/
def define? (constants : Constants) (name value : String) : Option Constants :=
  (constantText? constants value).bind fun text => some (Symbols.put constants name text)

/-- The constants after some more are defined in order. -/
def defineAll? (constants : Constants) : List (String × String) → Option Constants
  | [] => some constants
  | (name, value) :: rest =>
      (define? constants name value).bind fun constants => defineAll? constants rest

theorem nodup_of_define? {constants constants' : Constants} {name value : String}
    (hnodup : (constants.map Prod.fst).Nodup) (h : define? constants name value = some constants') :
    (constants'.map Prod.fst).Nodup := by
  obtain ⟨text, -, hput⟩ := Option.bind_eq_some_iff.mp h
  cases hput
  exact Symbols.nodup_put hnodup name text

theorem nodup_of_defineAll? {constants constants' : Constants} {entries : List (String × String)}
    (hnodup : (constants.map Prod.fst).Nodup) (h : defineAll? constants entries = some constants') :
    (constants'.map Prod.fst).Nodup := by
  induction entries generalizing constants with
  | nil =>
      cases h
      exact hnodup
  | cons entry entries ih =>
      obtain ⟨middle, hdefine, hrest⟩ := Option.bind_eq_some_iff.mp h
      exact ih (nodup_of_define? hnodup hdefine) hrest

/-- The lines that define constants, each by its text. -/
def equations (defined : List (String × String)) : List Node :=
  Node.ofLeaves (defined.map fun (name, text) => .instr ".equ" [name, text])

omit [Interpreter] in
theorem equations_append (first second : List (String × String)) :
    equations (first ++ second) = equations first ++ equations second := by
  simp [equations, Node.ofLeaves]

/-- What defining constants changes: the constants, the setup at its end, and the events. -/
def Defines (state : State) (constants : Constants) (state' : State) : Prop :=
  ∃ defined events, state' =
    { (state.withEvents events).withConstants constants with
      setup := state.setup.put (equations defined) }

omit [Interpreter] in
theorem addSetup_eq {state : State} (h : state.setup.isSealed = false) (leaves : List Leaf) :
    state.addSetup leaves =
      .ok { state with setup := state.setup.put (Node.ofLeaves leaves) } := by
  simp only [State.addSetup, Block.addLeaves_eq h]
  rfl

/-- The text of a constant, with the state after it is found. -/
def constantText (state : State) (value : String) : Except Stop (String × State) :=
  if isSingleExpression value then expression state value else .ok (value, state)

theorem constantText_yields (state : State) (value : String) :
    Yields state (constantText state value) (constantText? state.symbols.constants value) := by
  unfold constantText constantText?
  split
  · exact expression_yields state value
  · exact .pure value

theorem defineConstant_eq (state : State) (name value : String) :
    defineConstant state name value = constantText state value >>= fun (text, state) => do
      let state ← state.addSetup [.instr ".equ" [name, text]]
      return { state with symbols := state.symbols.setConstant name text } := by
  unfold defineConstant constantText
  split <;> rfl

theorem defineConstant_agrees {state : State} (hsetup : state.setup.isSealed = false)
    (name value : String) :
    Agrees (Defines state) (defineConstant state name value)
      (define? state.symbols.constants name value) := by
  rw [defineConstant_eq]
  refine (constantText_yields state value).agrees.bind ?_
  rintro _ text ⟨events, rfl⟩
  have hput : (state.withEvents events).setup.isSealed = false := hsetup
  simp only [addSetup_eq hput, Symbols.setConstant_eq]
  exact .ok ⟨[(name, text)], events, rfl⟩

theorem defineConstants_agrees {state : State} (hsetup : state.setup.isSealed = false)
    (defined : List (String × String)) :
    Agrees (Defines state) (defineConstants state defined)
      (defineAll? state.symbols.constants defined) := by
  induction defined generalizing state with
  | nil =>
      refine .ok ⟨[], state.events, ?_⟩
      rw [State.withConstants]
      exact congrArg (fun symbols => { state with symbols := symbols })
        state.symbols.withConstants_constants.symm
  | cons entry defined ih =>
      refine (defineConstant_agrees hsetup entry.1 entry.2).of_eq_some.bind ?_
      rintro middle constants ⟨hdefine, first, events, hmiddle⟩
      have hopen : middle.setup.isSealed = false := by rw [hmiddle]; exact hsetup
      have hconstants : middle.symbols.constants = constants := by
        rw [hmiddle]
        exact Symbols.constants_withConstants _
          (nodup_of_define? state.symbols.nodup_constants hdefine)
      rw [← hconstants]
      refine (ih hopen).mono ?_
      rintro constants' _ ⟨second, events', rfl⟩
      refine ⟨first ++ second, events', ?_⟩
      rw [hmiddle, equations_append]
      simp [State.withConstants, Symbols.withConstants, State.withEvents]

/-- The state with one more variable. -/
def State.reserve (state : State) (v : Variable) (storage : Storage) : State :=
  { state with
    symbols := { state.symbols with storages := state.symbols.storages.set v.name storage }
    words := if v.align == .word then v :: state.words else state.words
    bytes := if v.align == .word then state.bytes else v :: state.bytes }

omit [Interpreter] in
theorem State.storage?_reserve (state : State) (v : Variable) (storage : Storage) (name : String) :
    (state.reserve v storage).symbols.storage? name =
      if name = v.name then some storage else state.symbols.storage? name := rfl

omit [Interpreter] in
/-- A new variable comes last. -/
theorem State.declared_reserve {state : State} {v : Variable}
    (hnew : state.symbols.storage? v.name = none) (storage : Storage) :
    (state.reserve v storage).symbols.declared =
      state.symbols.declared ++ [(v.name, storage)] :=
  Ordered.entries_set_of_none hnew

/-- The storage of a variable whose name is new. -/
def reserve? (symbols : Symbols) (declaration : Declaration) : Option (Variable × Storage) :=
  (storageOf? symbols.constants declaration).bind fun entry =>
    if (symbols.storage? entry.1.name).isSome then none else some entry

theorem reserve?_eq_some_iff {symbols : Symbols} {declaration : Declaration}
    {entry : Variable × Storage} :
    reserve? symbols declaration = some entry ↔
      storageOf? symbols.constants declaration = some entry ∧
        symbols.storage? entry.1.name = none := by
  rw [reserve?, Option.bind_eq_some_iff]
  simp only [Option.ite_none_left_eq_some, Option.not_isSome_iff_eq_none, Option.some.injEq]
  constructor
  · rintro ⟨_, hstorage, hnew, rfl⟩
    exact ⟨hstorage, hnew⟩
  · rintro ⟨hstorage, hnew⟩
    exact ⟨entry, hstorage, hnew, rfl⟩

omit [Interpreter] in
theorem enter_agrees (state : State) (v : Variable) (storage : Storage) :
    Agrees (fun entry state' => entry = (v, storage) ∧ state' = state.reserve v storage)
      (enter state v storage)
      (if (state.symbols.storage? v.name).isSome then none else some (v, storage)) := by
  unfold enter Symbols.declare
  by_cases hnew : (state.symbols.storage? v.name).isSome = true
  · simp only [hnew, if_true]
    exact .stop _
  · simp only [hnew]
    by_cases halign : (v.align == .word) = true
    · simp only [State.allowed, bind, Except.bind, halign, if_true]
      exact .ok ⟨rfl, by simp [State.reserve, halign]⟩
    · simp only [State.allowed, bind, Except.bind, halign]
      exact .ok ⟨rfl, by simp [State.reserve, halign]⟩

omit [Interpreter] in
/-- A variable with a new name is entered. -/
theorem enter_new {state : State} {v : Variable} {storage : Storage}
    (hnew : state.symbols.storage? v.name = none) :
    enter state v storage = .ok (state.reserve v storage) ∧
      (state.reserve v storage).symbols.storage? v.name = some storage := by
  have henter := enter_agrees state v storage
  simp only [hnew, Option.isSome_none, Bool.false_eq_true, if_false] at henter
  obtain ⟨state', hstate', -, rfl⟩ := henter.of_some
  exact ⟨hstate', if_pos rfl⟩

/-- What declaring a variable changes: one more variable, and the events. -/
def Reserves (state : State) (entry : Variable × Storage) (state' : State) : Prop :=
  ∃ events, state' = (state.withEvents events).reserve entry.1 entry.2

omit [Interpreter] in
private theorem enter_reserves (state : State) (events : List Event) (v : Variable)
    (storage : Storage) :
    Agrees (Reserves state) (enter (state.withEvents events) v storage)
      (if (state.symbols.storage? v.name).isSome then none else some (v, storage)) := by
  refine (enter_agrees (state.withEvents events) v storage).mono ?_
  rintro _ _ ⟨rfl, rfl⟩
  exact ⟨events, rfl⟩

private theorem array_agrees (state : State) (width : Width) (name : String) (size : Immediate) :
    Agrees (Reserves state)
      (arrayStorage state width name size >>= fun (v, storage, state) => enter state v storage)
      (reserve? state.symbols (.array width name size)) := by
  simp only [arrayStorage, reserve?, storageOf?]
  have hsize := sizeOf_yields state size width.bytes
  revert hsize
  generalize sizeOf state size width.bytes = result
  generalize sizeOf? state.symbols.constants size width.bytes = count?
  intro hsize
  cases hsize with
  | value count events => exact enter_reserves state events _ _
  | stop stop => exact .stop stop

theorem declare_agrees (state : State) {declaration : Declaration}
    (h : declaration.isVariable = true) :
    Agrees (Reserves state) (declare state declaration) (reserve? state.symbols declaration) := by
  cases declaration with
  | const name value => cases h
  | scalar width name init =>
      simp only [declare, scalarStorage, reserve?, storageOf?]
      by_cases hinit : init.isEmpty = true
      · simp only [hinit, if_true]
        exact enter_reserves state state.events _ _
      · have htexts := immediates_yields state init
        revert htexts
        generalize immediates state init = result
        generalize immediateTexts? state.symbols.constants init = texts?
        intro htexts
        simp only [hinit]
        cases htexts with
        | value texts events => exact enter_reserves state events _ _
        | stop stop => exact .stop stop
  | array width name size => exact array_agrees state width name size
  | buffer name size => exact array_agrees state .byte name size
  | string name literal => exact enter_reserves state state.events _ _

theorem name_of_storageOf? {constants : Constants} {declaration : Declaration}
    {entry : Variable × Storage} (h : storageOf? constants declaration = some entry) :
    entry.1.name = declaration.name := by
  unfold storageOf? at h
  repeat' split at h
  all_goals
    simp only [Option.bind_eq_some_iff, Option.some.injEq, reduceCtorEq] at h
  all_goals grind [Declaration.name, stringStorage]

end Lowering

end Shorthand
