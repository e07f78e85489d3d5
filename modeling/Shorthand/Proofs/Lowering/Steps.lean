import Shorthand.Proofs.Lowering.Updates

/-!
# What a step of a lowering can do

A step either stops or changes the state in one of a few ways, which `Change` lists.  The blocks
that are being filled are never sealed, so that no step commits a fault: this is part of the
invariant `State.Sound`, which holds at the start and after every step.

`step_ok_iff` says that in a sound state a step succeeds exactly if there is a change for its
statement, and `change_of_step` that it then makes such a change.  What a run preserves is
derived from this by cases, and no later proof opens the functions that lower.
-/

namespace Shorthand.Lowering

/-! ## Constructs -/

/-- A construct that has just been opened, with its first leaves. -/
def Frame.start (opening : Opening) (number : Nat) (leaves : List Leaf) : Frame :=
  ⟨opening, number, { Block.empty with attached := true }.put (Node.ofLeaves leaves)⟩

/-- The body with one more construct open. -/
def Body.enter (body : Body) (frame : Frame) : Body := { body with frames := frame :: body.frames }

/-- The body after its innermost construct ends with the given leaves; `frames` are those around
it. -/
def Body.leave (body : Body) (frame : Frame) (frames : List Frame) (leaves : List Leaf) : Body :=
  { body with frames := frames }.put [.block (frame.block.nodes ++ Node.ofLeaves leaves)]

/-- The state with a body open. -/
def State.inBody (state : State) (body : Body) : State := { state with scope := .body body }

/-- The state after one more number is given out. -/
def State.bump (state : State) (name : String) (kind : Numbered) : State :=
  { state with counters := state.counters.bump name kind }

/-- The number that is given out next. -/
def State.number (state : State) (name : String) (kind : Numbered) : Nat :=
  state.counters.count name kind + 1

@[simp] theorem State.symbols_inBody (state : State) (body : Body) :
    (state.inBody body).symbols = state.symbols := rfl

@[simp] theorem State.counters_inBody (state : State) (body : Body) :
    (state.inBody body).counters = state.counters := rfl

@[simp] theorem State.symbols_bump (state : State) (name : String) (kind : Numbered) :
    (state.bump name kind).symbols = state.symbols := rfl

variable {body : Body}

theorem Body.IsOpen.enter (h : body.IsOpen) (opening : Opening) (number : Nat)
    (leaves : List Leaf) : (body.enter (.start opening number leaves)).IsOpen :=
  ⟨h.1, List.forall_mem_cons.mpr ⟨rfl, h.2⟩⟩

theorem Body.IsOpen.outer {frame : Frame} {frames : List Frame} (h : body.IsOpen)
    (hframes : body.frames = frame :: frames) : { body with frames := frames }.IsOpen := by
  refine ⟨h.1, fun inner hmem => h.2 inner ?_⟩
  rw [hframes]
  exact List.mem_cons_of_mem frame hmem

theorem Body.IsOpen.leave {frame : Frame} {frames : List Frame} (h : body.IsOpen)
    (hframes : body.frames = frame :: frames) (leaves : List Leaf) :
    (body.leave frame frames leaves).IsOpen :=
  (h.outer hframes).put _

theorem addTo_eq (state : State) (h : body.IsOpen) (leaves : List Leaf) :
    state.addTo body leaves = .ok (state.inBody (body.put (Node.ofLeaves leaves))) := by
  simp only [State.addTo, Body.addLeaves_eq h]
  rfl

theorem nest_eq (state : State) (h : body.IsOpen) (opening : Opening) (number : Nat)
    (leaves : List Leaf) :
    nest state body opening number leaves =
      .ok (state.inBody (body.enter (.start opening number leaves))) := by
  have hopen : body.current.checkOpen = .ok () := by simp [Block.checkOpen, h.current]
  have hentered : (body.enter ⟨opening, number, { Block.empty with attached := true }⟩).IsOpen :=
    h.enter opening number []
  unfold nest
  rw [hopen]
  exact addTo_eq state hentered leaves

theorem finish_eq (state : State) {frame : Frame} {frames : List Frame} (h : body.IsOpen)
    (hframes : body.frames = frame :: frames) (leaves : List Leaf) :
    finish state body frame frames leaves = .ok (body.leave frame frames leaves) := by
  have hframe : frame.block.isSealed = false := by
    apply h.2
    rw [hframes]
    exact List.mem_cons_self ..
  simp only [finish, Block.addLeaves_eq hframe, State.checked, bind, Except.bind,
    Body.addNode_eq (h.outer hframes)]
  simp [Body.leave, Block.close, Block.put, Block.nodes]

/-- The first leaves of a loop with a name. -/
def loopStart (name : String) : Option Condition → List Leaf
  | none => [.label name]
  | some _ => [.jump (testLabel name), .label name]

/-- How a loop is opened. -/
def loopOpening : Option Condition → Opening
  | none => .endless
  | some cond => .loop cond

/-- The last leaves of the first part of a conditional that has an alternative. -/
def turningLeaves (name : String) (frame : Frame) : List Leaf :=
  [.jump (labelName name Opening.alternative.word frame.number),
   .label (falseLabel (frame.name name))]

variable {state : State}

theorem openBranch_eq (hscope : state.scope = .body body) (h : body.IsOpen) (cond : Condition) :
    openBranch state cond =
      .ok ((state.bump body.kind.name .branch).inBody
        (body.enter (.start .branch (state.number body.kind.name .branch)
          (cond.guard (labelName body.kind.name "if" (state.number body.kind.name .branch)) ++
            [.label (trueLabel
              (labelName body.kind.name "if" (state.number body.kind.name .branch)))])))) := by
  simp only [openBranch, hscope]
  exact nest_eq _ h _ _ _

theorem openLoop_eq (hscope : state.scope = .body body) (h : body.IsOpen)
    (cond? : Option Condition) :
    openLoop state cond? =
      .ok ((state.bump body.kind.name .loop).inBody
        (body.enter (.start (loopOpening cond?) (state.number body.kind.name .loop)
          (loopStart (labelName body.kind.name "while" (state.number body.kind.name .loop))
            cond?)))) := by
  simp only [openLoop, hscope]
  cases cond? with
  | none => exact nest_eq _ h _ _ _
  | some cond => exact nest_eq _ h _ _ _

theorem openAlternative_eq {frame : Frame} {frames : List Frame}
    (hscope : state.scope = .body body) (h : body.IsOpen)
    (hframes : body.frames = frame :: frames) (hopening : frame.opening = .branch) :
    openAlternative state =
      .ok (state.inBody ((body.leave frame frames (turningLeaves body.kind.name frame)).enter
        (.start .alternative frame.number []))) := by
  simp only [openAlternative, hscope, hframes, hopening]
  have hfinish := finish_eq state h hframes (turningLeaves body.kind.name frame)
  unfold turningLeaves at hfinish
  rw [hfinish]
  exact nest_eq _ (h.leave hframes _) _ _ _

theorem closeInnermost_frame_eq {frame : Frame} {frames : List Frame}
    (hscope : state.scope = .body body) (h : body.IsOpen)
    (hframes : body.frames = frame :: frames) :
    closeInnermost state =
      .ok (state.inBody
        (body.leave frame frames (endingLeaves frame.opening (frame.name body.kind.name)))) := by
  simp only [closeInnermost, hscope, hframes, finish_eq state h hframes]
  rfl

theorem closeInnermost_block_eq (hscope : state.scope ≠ .nothing)
    (hframes : state.scope.frames = []) : closeInnermost state = .ok state.closed := by
  have hclose := closeScope_eq hframes
  unfold closeInnermost
  cases hstate : state.scope with
  | nothing => exact absurd hstate hscope
  | compile => exact hclose
  | body body =>
      have hnil : body.frames = [] := by simpa [hstate, Scope.frames] using hframes
      simp only [hnil]
      exact hclose

/-! ## The invariant -/

/-- What holds between two statements: blocks that are being filled are not sealed, the body
that is open is not finished yet, and no function is finished twice. -/
structure State.Sound (state : State) : Prop where
  setup_open : state.setup.isSealed = false
  body_open : ∀ body, state.scope = .body body → body.IsOpen
  body_new : ∀ body, state.scope = .body body → state.finished? body.kind = none
  functions_nodup : (state.functions.map Prod.fst).Nodup

theorem State.Sound.start : State.start.Sound where
  setup_open := rfl
  body_open := by
    intro body hscope
    cases hscope
  body_new := by
    intro body hscope
    cases hscope
  functions_nodup := List.nodup_nil

/-! ## Changes -/

variable [Interpreter]

/-- What a statement can do to a state. -/
inductive Change (predefined : Constants) (state : State) : Statement → State → Prop where
  | compile {colon : Bool} {constants defined : Constants} {events : List Event}
      (hframes : state.scope.frames = []) (hnew : state.compiled = false)
      (hconstants : defineAll? state.symbols.constants predefined = some constants) :
      Change predefined state (.block .compile colon)
        { (state.closed.withEvents events).withConstants constants with
          setup := state.setup.put (equations defined), compiled := true, scope := .compile }
  | body {kind : BodyKind} {colon : Bool} {events : List Event}
      (hframes : state.scope.frames = []) (hnew : state.closed.finished? kind = none) :
      Change predefined state (.block kind.head colon)
        ((state.closed.withEvents events).inBody ⟨kind, .empty, []⟩)
  | branch {body : Body} {cond : Condition} {number : Nat} (hscope : state.scope = .body body)
      (hnumber : number = state.number body.kind.name .branch) :
      Change predefined state (.branch cond)
        ((state.bump body.kind.name .branch).inBody
          (body.enter (.start .branch number
            (cond.guard (labelName body.kind.name "if" number) ++
              [.label (trueLabel (labelName body.kind.name "if" number))]))))
  | loop {body : Body} {cond? : Option Condition} {number : Nat}
      (hscope : state.scope = .body body) (hnumber : number = state.number body.kind.name .loop) :
      Change predefined state (.loop cond?)
        ((state.bump body.kind.name .loop).inBody
          (body.enter (.start (loopOpening cond?) number
            (loopStart (labelName body.kind.name "while" number) cond?))))
  | otherwise {body : Body} {frame : Frame} {frames : List Frame}
      (hscope : state.scope = .body body) (hframes : body.frames = frame :: frames)
      (hopening : frame.opening = .branch) :
      Change predefined state .otherwise
        (state.inBody ((body.leave frame frames (turningLeaves body.kind.name frame)).enter
          (.start .alternative frame.number [])))
  | closeFrame {body : Body} {frame : Frame} {frames : List Frame}
      (hscope : state.scope = .body body) (hframes : body.frames = frame :: frames) :
      Change predefined state .close
        (state.inBody
          (body.leave frame frames (endingLeaves frame.opening (frame.name body.kind.name))))
  | closeBlock (hscope : state.scope ≠ .nothing) (hframes : state.scope.frames = []) :
      Change predefined state .close state.closed
  | commentOutside {text : String} (hscope : state.scope = .nothing) :
      Change predefined state (.comment text) state
  | commentConstants {text : String} (hscope : state.scope = .compile) :
      Change predefined state (.comment text)
        { state with setup := state.setup.put [.leaf (.comment text)] }
  | commentBody {text : String} {body : Body} (hscope : state.scope = .body body) :
      Change predefined state (.comment text) (state.inBody (body.put [.leaf (.comment text)]))
  | const {name value : String} {constants : Constants} {state' : State}
      (hscope : state.scope = .compile)
      (hconstants : define? state.symbols.constants name value = some constants)
      (hstate : Defines state constants state') :
      Change predefined state (.declare (.const name value)) state'
  | reserve {declaration : Declaration} {entry : Variable × Storage} {events : List Event}
      (hvariable : declaration.isVariable = true)
      (hentry : reserve? state.symbols declaration = some entry) :
      Change predefined state (.declare declaration)
        ((state.withEvents events).reserve entry.1 entry.2)
  | simple {statement : Statement} {body : Body} {leaf : Leaf} {events : List Event}
      (hsimple : statement.isSimple = true) (hscope : state.scope = .body body)
      (hleaf : selected state.symbols.constants statement = some leaf) :
      Change predefined state statement
        ((state.withEvents events).inBody (body.put [.leaf leaf]))

/-! ## Steps make changes -/

section steps

variable {predefined : Constants} {state' : State}

/-- What opening the constants changes, besides closing the scope before. -/
private def OpensConstants (state : State) (constants : Constants) (state' : State) : Prop :=
  ∃ defined events, state' =
    { (state.withEvents events).withConstants constants with
      setup := state.setup.put (equations defined), compiled := true, scope := .compile }

private theorem openCompile_agrees (predefined : Constants) (hsetup : state.setup.isSealed = false)
    (hnew : state.compiled = false) :
    Agrees (OpensConstants state) (openCompile predefined state)
      (defineAll? state.symbols.constants predefined) := by
  have hopen : { state with compiled := true }.setup.isSealed = false := hsetup
  have hdefines := defineConstants_agrees hopen predefined
  unfold openCompile
  rw [hnew, if_neg Bool.false_ne_true]
  rw [← Option.bind_fun_some (defineAll? _ predefined)]
  refine hdefines.bind ?_
  rintro _ constants ⟨defined, events, rfl⟩
  exact .ok ⟨defined, events, rfl⟩

private theorem openCompile_change {colon : Bool} (h : state.Sound)
    (hframes : state.scope.frames = [])
    (hopen : openCompile predefined state.closed = .ok state') :
    Change predefined state (.block .compile colon) state' := by
  have hsetup : state.closed.setup.isSealed = false := by simpa using h.setup_open
  by_cases hcompiled : state.compiled = true
  · simp only [openCompile, State.compiled_closed, hcompiled, if_true] at hopen
    cases hopen
  · have hnew : state.compiled = false := by simpa using hcompiled
    have hagrees := openCompile_agrees predefined hsetup
      ((State.compiled_closed state).trans hnew)
    obtain ⟨constants, hconstants, defined, events, rfl⟩ := hagrees.of_ok hopen
    rw [State.symbols_closed] at hconstants
    rw [State.setup_closed]
    exact .compile hframes hnew hconstants

private theorem openBody_change (kind : BodyKind) {colon : Bool} {events : List Event}
    (hframes : state.scope.frames = []) (hnew : (state.closed.finished? kind).isSome = false) :
    Change predefined state (.block kind.head colon)
      (openBody (state.closed.withEvents events) kind) := by
  have hnone : state.closed.finished? kind = none := by simpa using hnew
  exact .body hframes hnone

private theorem openBlock_change {place : Place} {head : BlockHead} {colon : Bool}
    (h : state.Sound) (hopen : openBlock predefined place state head colon = .ok state') :
    Change predefined state (.block head colon) state' := by
  unfold openBlock at hopen
  -- the block that is open is closed first, which fails if one of its constructs is open
  by_cases hframes : state.scope.frames = []
  · rw [closeScope_eq hframes] at hopen
    cases head with
    | compile => exact openCompile_change h hframes hopen
    | main =>
        simp only [openMain, bind, Except.bind] at hopen
        split at hopen
        · cases hopen
        · rename_i hnew
          cases hopen
          exact openBody_change .main hframes (Bool.eq_false_iff.mpr hnew)
    | function name =>
        simp only [openFunction, bind, Except.bind] at hopen
        split at hopen
        · cases hopen
        · rename_i hnew
          cases hopen
          exact openBody_change (.function name) hframes (Bool.eq_false_iff.mpr hnew)
  · obtain ⟨stop, hstop⟩ := closeScope_error hframes
    rw [hstop] at hopen
    cases hopen

private theorem openAlternative_change (h : state.Sound)
    (hopen : openAlternative state = .ok state') :
    Change predefined state .otherwise state' := by
  cases hscope : state.scope with
  | nothing | compile =>
      simp only [openAlternative, hscope] at hopen
      cases hopen
  | body body =>
      cases hframes : body.frames with
      | nil =>
          simp only [openAlternative, hscope, hframes] at hopen
          cases hopen
      | cons frame frames =>
          cases hopening : frame.opening with
          | branch =>
              rw [openAlternative_eq hscope (h.body_open body hscope) hframes hopening] at hopen
              cases hopen
              exact .otherwise hscope hframes hopening
          | alternative | loop cond | endless =>
              simp only [openAlternative, hscope, hframes, hopening] at hopen
              cases hopen

private theorem closeInnermost_change (h : state.Sound)
    (hclose : closeInnermost state = .ok state') : Change predefined state .close state' := by
  by_cases hscope : state.scope = .nothing
  · simp only [closeInnermost, hscope] at hclose
    cases hclose
  by_cases hframes : state.scope.frames = []
  · rw [closeInnermost_block_eq hscope hframes] at hclose
    cases hclose
    exact .closeBlock hscope hframes
  cases hstate : state.scope with
  | nothing => exact absurd hstate hscope
  | compile => simp [hstate, Scope.frames] at hframes
  | body body =>
      cases hbody : body.frames with
      | nil => simp [hstate, Scope.frames, hbody] at hframes
      | cons frame frames =>
          rw [closeInnermost_frame_eq hstate (h.body_open body hstate) hbody] at hclose
          cases hclose
          exact .closeFrame hstate hbody

private theorem addComment_change {text : String} (h : state.Sound)
    (hadd : addComment state text = .ok state') :
    Change predefined state (.comment text) state' := by
  cases hscope : state.scope with
  | nothing =>
      simp only [addComment, hscope] at hadd
      cases hadd
      exact .commentOutside hscope
  | compile =>
      have hsetup : addComment state text = state.addSetup [.comment text] := by
        simp only [addComment, hscope]
      rw [hsetup, addSetup_eq h.setup_open] at hadd
      cases hadd
      exact .commentConstants hscope
  | body body =>
      simp only [addComment, hscope, addTo_eq state (h.body_open body hscope)] at hadd
      cases hadd
      exact .commentBody hscope

private theorem declare_change {declaration : Declaration} (h : state.Sound)
    (hdeclare : declare state declaration = .ok state') :
    Change predefined state (.declare declaration) state' := by
  by_cases hvariable : declaration.isVariable = true
  · obtain ⟨entry, hentry, events, rfl⟩ := (declare_agrees state hvariable).of_ok hdeclare
    exact .reserve hvariable hentry
  cases declaration with
  | scalar width name init | array width name size | string name literal | buffer name size =>
      exact absurd rfl hvariable
  | const name value =>
      cases hscope : state.scope with
      | nothing | body body =>
          simp only [declare, hscope] at hdeclare
          cases hdeclare
      | compile =>
          simp only [declare, hscope] at hdeclare
          obtain ⟨constants, hconstants, hstate⟩ :=
            (defineConstant_agrees h.setup_open name value).of_ok hdeclare
          exact .const hscope hconstants hstate

private theorem addInstruction_change {statement : Statement} (h : state.Sound)
    (hsimple : statement.isSimple = true) (hadd : addInstruction state statement = .ok state') :
    Change predefined state statement state' := by
  cases hscope : state.scope with
  | nothing | compile =>
      simp only [addInstruction, hscope] at hadd
      cases hadd
  | body body =>
      have hyields := instruction_yields state statement
      simp only [addInstruction, hscope] at hadd
      cases hresult : instruction state statement with
      | error stop =>
          rw [hresult] at hadd
          cases hadd
      | ok result =>
          obtain ⟨leaf, middle⟩ := result
          obtain ⟨hleaf, events, rfl⟩ := hyields.of_ok hresult
          rw [hresult] at hadd
          simp only [bind, Except.bind, addTo_eq _ (h.body_open body hscope)] at hadd
          cases hadd
          exact .simple hsimple hscope hleaf

/-- A step that succeeds makes a change. -/
theorem change_of_step {located : Located} (h : state.Sound)
    (hstep : step predefined state located = .ok state') :
    Change predefined state located.statement state' := by
  unfold step at hstep
  cases hstatement : located.statement with
  | block head colon =>
      rw [hstatement] at hstep
      exact openBlock_change h hstep
  | branch cond =>
      rw [hstatement] at hstep
      cases hscope : state.scope with
      | nothing | compile =>
          simp only [openBranch, hscope] at hstep
          cases hstep
      | body body =>
          simp only [openBranch_eq hscope (h.body_open body hscope)] at hstep
          cases hstep
          exact .branch hscope rfl
  | otherwise =>
      rw [hstatement] at hstep
      exact openAlternative_change h hstep
  | loop cond? =>
      rw [hstatement] at hstep
      cases hscope : state.scope with
      | nothing | compile =>
          simp only [openLoop, hscope] at hstep
          cases hstep
      | body body =>
          simp only [openLoop_eq hscope (h.body_open body hscope)] at hstep
          cases hstep
          exact .loop hscope rfl
  | close =>
      rw [hstatement] at hstep
      exact closeInnermost_change h hstep
  | comment text =>
      rw [hstatement] at hstep
      exact addComment_change h hstep
  | declare declaration =>
      rw [hstatement] at hstep
      exact declare_change h hstep
  | call _ | move _ _ | address _ _ | load _ _ _ _ | loadName _ _ _ | loadImmediate _ _
  | operate _ _ _ _ | store _ _ _ =>
      rw [hstatement] at hstep
      exact addInstruction_change h rfl hstep

/-- A change is what some step does. -/
private theorem step_of_change {located : Located} (h : state.Sound)
    (hchange : Change predefined state located.statement state') :
    ∃ state'', step predefined state located = .ok state'' := by
  unfold step
  generalize located.statement = statement at hchange
  -- a change leaves open which doubts are reported, so the step may lead to another state
  cases hchange with
  | compile hframes hnew hconstants =>
      have hsetup : state.closed.setup.isSealed = false := by simpa using h.setup_open
      have hagrees := openCompile_agrees predefined hsetup
        ((State.compiled_closed state).trans hnew)
      rw [State.symbols_closed, hconstants] at hagrees
      obtain ⟨result, hresult, -⟩ := hagrees.of_some
      simp only [openBlock, closeScope_eq hframes]
      exact ⟨result, hresult⟩
  | @body kind colon events hframes hnew =>
      cases kind with
      | main =>
          have hmain : state.closed.main? = none := hnew
          simp only [BodyKind.head, openBlock, closeScope_eq hframes, openMain, bind, Except.bind,
            hmain]
          exact ⟨_, rfl⟩
      | function name =>
          have hname : state.closed.functions.lookup name = none := hnew
          simp only [BodyKind.head, openBlock, closeScope_eq hframes, openFunction, bind,
            Except.bind, hname]
          exact ⟨_, rfl⟩
  | branch hscope hnumber => exact ⟨_, openBranch_eq hscope (h.body_open _ hscope) _⟩
  | loop hscope hnumber => exact ⟨_, openLoop_eq hscope (h.body_open _ hscope) _⟩
  | otherwise hscope hframes hopening =>
      exact ⟨_, openAlternative_eq hscope (h.body_open _ hscope) hframes hopening⟩
  | closeFrame hscope hframes =>
      exact ⟨_, closeInnermost_frame_eq hscope (h.body_open _ hscope) hframes⟩
  | closeBlock hscope hframes => exact ⟨_, closeInnermost_block_eq hscope hframes⟩
  | commentOutside hscope => exact ⟨state, by simp only [addComment, hscope]⟩
  | commentConstants hscope =>
      simp only [addComment, hscope]
      exact ⟨_, addSetup_eq h.setup_open _⟩
  | commentBody hscope =>
      simp only [addComment, hscope]
      exact ⟨_, addTo_eq state (h.body_open _ hscope) _⟩
  | @const name value constants _ hscope hconstants hstate =>
      have hdefines := defineConstant_agrees h.setup_open name value
      rw [hconstants] at hdefines
      obtain ⟨result, hresult, -⟩ := hdefines.of_some
      exact ⟨result, by simpa only [declare, hscope] using hresult⟩
  | reserve hvariable hentry =>
      have hdeclares := declare_agrees state hvariable
      rw [hentry] at hdeclares
      obtain ⟨result, hresult, -⟩ := hdeclares.of_some
      exact ⟨result, hresult⟩
  | simple hsimple hscope hleaf =>
      have hyields := instruction_yields state statement
      rw [hleaf] at hyields
      obtain ⟨events, hresult⟩ := hyields.ok
      have hadd := addTo_eq (state.withEvents events) (h.body_open _ hscope)
      cases statement with
      | block _ _ | branch _ | otherwise | loop _ | close | comment _ | declare _ => cases hsimple
      | call _ | move _ _ | address _ _ | load _ _ _ _ | loadName _ _ _ | loadImmediate _ _
      | operate _ _ _ _ | store _ _ _ =>
          simp only [addInstruction, hscope, hresult]
          exact ⟨_, hadd _⟩

/-- A step succeeds exactly if there is a change that it can make. -/
theorem step_ok_iff {located : Located} (h : state.Sound) :
    (∃ state', step predefined state located = .ok state') ↔
      ∃ state', Change predefined state located.statement state' := by
  constructor
  · rintro ⟨state', hstep⟩
    exact ⟨state', change_of_step h hstep⟩
  · rintro ⟨state', hchange⟩
    exact step_of_change h hchange

/-! ## The invariant is kept -/

omit [Interpreter] in
@[simp] theorem Body.kind_enter (body : Body) (frame : Frame) :
    (body.enter frame).kind = body.kind := rfl

omit [Interpreter] in
@[simp] theorem Body.kind_leave (body : Body) (frame : Frame) (frames : List Frame)
    (leaves : List Leaf) : (body.leave frame frames leaves).kind = body.kind := by
  simp [Body.leave]

omit [Interpreter] in
/-- Closing the scope does not finish a function twice. -/
theorem State.Sound.closed (h : state.Sound) : state.closed.Sound where
  setup_open := by simpa using h.setup_open
  body_open := by simp
  body_new := by simp
  functions_nodup := by
    unfold State.closed
    cases hscope : state.scope with
    | nothing | compile => exact h.functions_nodup
    | body body =>
        -- the open body is new, so its name is not among those of the finished functions
        have hnew := h.body_new body hscope
        simp only
        cases hkind : body.kind with
        | main => exact h.functions_nodup
        | function name =>
            rw [hkind] at hnew
            refine List.nodup_cons.mpr ⟨?_, h.functions_nodup⟩
            rintro hmem
            obtain ⟨entry, hentry, hname⟩ := List.mem_map.mp hmem
            have hlookup : state.functions.lookup name = none := hnew
            rw [List.lookup_eq_none_iff] at hlookup
            simpa [hname] using hlookup entry hentry

omit [Interpreter] in
/-- A sound state stays sound when another body of the same kind is put in place of its own. -/
theorem State.Sound.inBody {body' : Body} (h : state.Sound) (hscope : state.scope = .body body)
    (hopen : body'.IsOpen) (hkind : body'.kind = body.kind) : (state.inBody body').Sound where
  setup_open := h.setup_open
  body_open := by
    rintro _ ⟨⟩
    exact hopen
  body_new := by
    rintro _ ⟨⟩
    rw [hkind]
    exact h.body_new body hscope
  functions_nodup := h.functions_nodup

omit [Interpreter] in
theorem State.Sound.withEvents (h : state.Sound) (events : List Event) :
    (state.withEvents events).Sound :=
  ⟨h.setup_open, h.body_open, h.body_new, h.functions_nodup⟩

omit [Interpreter] in
theorem State.Sound.bump (h : state.Sound) (name : String) (kind : Numbered) :
    (state.bump name kind).Sound :=
  ⟨h.setup_open, h.body_open, h.body_new, h.functions_nodup⟩

/-- Every change keeps the invariant. -/
theorem State.Sound.change {statement : Statement} (h : state.Sound)
    (hchange : Change predefined state statement state') : state'.Sound := by
  cases hchange with
  | compile hframes hnew hconstants =>
      exact ⟨h.setup_open, nofun, nofun, h.closed.functions_nodup⟩
  | body hframes hnew =>
      refine ⟨h.closed.setup_open, ?_, ?_, h.closed.functions_nodup⟩
      · rintro _ ⟨⟩
        exact ⟨rfl, nofun⟩
      · rintro _ ⟨⟩
        exact hnew
  | branch hscope hnumber =>
      exact (h.bump _ _).inBody hscope ((h.body_open _ hscope).enter _ _ _) rfl
  | loop hscope hnumber =>
      exact (h.bump _ _).inBody hscope ((h.body_open _ hscope).enter _ _ _) rfl
  | otherwise hscope hframes hopening =>
      refine h.inBody hscope (((h.body_open _ hscope).leave hframes _).enter _ _ _) ?_
      rw [Body.kind_enter, Body.kind_leave]
  | closeFrame hscope hframes =>
      exact h.inBody hscope ((h.body_open _ hscope).leave hframes _) (Body.kind_leave ..)
  | closeBlock hscope hframes => exact h.closed
  | commentOutside hscope => exact h
  | commentConstants hscope =>
      exact ⟨h.setup_open, h.body_open, h.body_new, h.functions_nodup⟩
  | commentBody hscope =>
      exact h.inBody hscope ((h.body_open _ hscope).put _) Body.kind_put
  | const hscope hconstants hstate =>
      obtain ⟨defined, events, rfl⟩ := hstate
      exact ⟨h.setup_open, h.body_open, h.body_new, h.functions_nodup⟩
  | reserve hvariable hentry =>
      exact ⟨h.setup_open, h.body_open, h.body_new, h.functions_nodup⟩
  | simple hsimple hscope hleaf =>
      exact (h.withEvents _).inBody hscope ((h.body_open _ hscope).put _) Body.kind_put

end steps

end Shorthand.Lowering
