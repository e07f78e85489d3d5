import Shorthand.Proofs.Flow.Shape
import Shorthand.Proofs.Lowering.Checks
import Shorthand.Proofs.Lowering.Runs

/-!
# Which programs are lowered

Lowering succeeds exactly for the programs that are well-structured: their statements have a
derivation, every block stands once, every variable is declared once, and each statement passes
its own check.

## Strategy

Of a state only four things decide which statements may follow: its shape, its constants, the
variables that are declared, and the blocks that were opened.  Every change does to each of them
what the statement says (`Change.shape`, `Change.constants`, `Change.declared`, `Change.opened`),
and a statement that all four allow can be lowered (`exists_change`).  The induction on the
statements then splits into four conditions that have nothing to do with each other.
-/

namespace Shorthand

open Lowering

/-! ## What a statement adds -/

/-- The head of the block that the statement opens. -/
def Statement.head? : Statement → Option BlockHead
  | block head _ => some head
  | _ => none

/-- The name of the variable that the statement declares. -/
def Statement.variableName? : Statement → Option String
  | declare declaration => if declaration.isVariable then some declaration.name else none
  | _ => none

/-- The name of the function that a head opens. -/
def BlockHead.function? : BlockHead → Option String
  | function name => some name
  | compile | main => none

/-- The statement with the constants that it defines without saying so: the block of constants
begins with those that were given before. -/
def Statement.expand (predefined : Constants) (statement : Statement) : List Statement :=
  if statement.head? = some .compile then statement :: declarations predefined else [statement]

/-- The program is well-structured. -/
structure IsWellStructured [Interpreter] (predefined : Constants)
    (statements : List Statement) : Prop where
  derivation : ∃ program : Program, program.statements = statements
  one_compile : (statements.filterMap Statement.head?).count .compile = 1
  one_main : (statements.filterMap Statement.head?).count .main = 1
  functions_nodup :
    ((statements.filterMap Statement.head?).filterMap BlockHead.function?).Nodup
  variables_nodup : (statements.filterMap Statement.variableName?).Nodup
  /-- Each statement passes its own check, with the constants that are defined before it. -/
  passes : ∀ before statement after,
    statements.flatMap (Statement.expand predefined) = before ++ statement :: after →
      statement.Passes (before.foldl Statement.define [])

/-! ## New elements -/

/-- The new elements differ from the old ones and from each other. -/
def Fresh {α : Type} (old : α → Prop) (new : List α) : Prop :=
  new.Nodup ∧ ∀ x ∈ new, ¬ old x

/-- The first one, if there is one, is old for the others. -/
theorem fresh_toList_append {α : Type} {old : α → Prop} {first? : Option α} {rest : List α} :
    Fresh old (first?.toList ++ rest) ↔
      (∀ x, first? = some x → ¬ old x) ∧ Fresh (fun x => old x ∨ first? = some x) rest := by
  cases first? with
  | none => simp [Fresh]
  | some first =>
      simp only [Fresh, Option.toList_some, List.cons_append, List.nil_append, List.nodup_cons,
        List.forall_mem_cons, Option.some.injEq, forall_eq', not_or]
      constructor
      · rintro ⟨⟨hnotMem, hnodup⟩, hfirst, hrest⟩
        refine ⟨hfirst, hnodup, fun x hx => ⟨hrest x hx, ?_⟩⟩
        rintro rfl
        exact hnotMem hx
      · rintro ⟨hfirst, hnodup, hrest⟩
        exact ⟨⟨fun hx => (hrest first hx).2 rfl, hnodup⟩, hfirst, fun x hx => (hrest x hx).1⟩

theorem filterMap_cons_eq {α β : Type} (f : α → Option β) (a : α) (l : List α) :
    (a :: l).filterMap f = (f a).toList ++ l.filterMap f := by
  cases h : f a <;> simp [h]

namespace Lowering

variable {predefined : Constants} {state state' : State} {statement : Statement} {body : Body}

/-! ## The shape of a state -/

/-- Whether the construct can turn to an alternative. -/
def Opening.turns : Opening → Bool
  | branch => true
  | alternative | loop _ | endless => false

/-- The open constructs of a body, by whether they can turn to an alternative. -/
def Body.turns (body : Body) : List Bool := body.frames.map fun frame => frame.opening.turns

/-- What is open. -/
def Scope.shape : Scope → Shape
  | .nothing => .nothing
  | .compile => .compile
  | .body b => .body b.turns

theorem Scope.isLevel_shape (scope : Scope) :
    scope.shape.isLevel = true ↔ scope.frames = [] := by
  cases scope with
  | nothing | compile => simp [Scope.shape, Shape.isLevel, Scope.frames]
  | body b =>
      cases hframes : b.frames <;>
        simp [Scope.shape, Shape.isLevel, Scope.frames, Body.turns, hframes]

@[simp] theorem Body.turns_put (nodes : List Node) : (body.put nodes).turns = body.turns := by
  have hopenings := congrArg (List.map Opening.turns) (Body.openings_put body nodes)
  simpa [Body.turns, Function.comp_def] using hopenings

@[simp] theorem Body.turns_enter (frame : Frame) :
    (body.enter frame).turns = frame.opening.turns :: body.turns := rfl

theorem Body.turns_leave {frame : Frame} {frames : List Frame}
    (hframes : body.frames = frame :: frames) (leaves : List Leaf) :
    body.turns = frame.opening.turns :: (body.leave frame frames leaves).turns := by
  rw [Body.leave, Body.turns_put, Body.turns, hframes]
  rfl

/-- A change does to the shape what the statement says. -/
theorem Change.shape [Interpreter] (hchange : Change predefined state statement state') :
    state.scope.shape.next? statement = some state'.scope.shape := by
  cases hchange with
  | compile hframes hnew hconstants =>
      rw [← Scope.isLevel_shape] at hframes
      simp only [Shape.next?, hframes, if_true]
      rfl
  | @body kind colon events hframes hnew =>
      rw [← Scope.isLevel_shape] at hframes
      simp only [Shape.next?, hframes, if_true]
      cases kind <;> rfl
  | branch hscope hnumber => simp [hscope, Shape.next?, Scope.shape, Shape.enter?, State.inBody,
      Frame.start, Opening.turns]
  | @loop body cond? number hscope hnumber =>
      have hturns : (loopOpening cond?).turns = false := by cases cond? <;> rfl
      simp [hscope, Shape.next?, Scope.shape, Shape.enter?, State.inBody, Frame.start, hturns]
  | @otherwise body frame frames hscope hframes hopening =>
      have hturns := Body.turns_leave hframes (turningLeaves body.kind.name frame)
      simp [hscope, Shape.next?, Scope.shape, hturns, hopening, Shape.turn?, State.inBody,
        Frame.start, Opening.turns]
  | @closeFrame body frame frames hscope hframes =>
      have hturns := Body.turns_leave hframes
        (endingLeaves frame.opening (frame.name body.kind.name))
      simp [hscope, Shape.next?, Scope.shape, hturns, Shape.leave?, State.inBody]
  | closeBlock hscope hframes =>
      rw [State.scope_closed]
      cases hstate : state.scope with
      | nothing => exact absurd hstate hscope
      | compile => rfl
      | body body =>
          have hnil : body.frames = [] := by simpa [hstate, Scope.frames] using hframes
          simp [Shape.next?, Scope.shape, Body.turns, hnil, Shape.leave?]
  | commentOutside hscope => rfl
  | commentConstants hscope => rfl
  | commentBody hscope => simp [hscope, Shape.next?, Shape.allows, Scope.shape, State.inBody]
  | const hscope hconstants hstate =>
      obtain ⟨defined, events, rfl⟩ := hstate
      simp [hscope, Shape.next?, Shape.allows, Scope.shape, State.withEvents, State.withConstants]
  | reserve hvariable hentry =>
      simp [Shape.next?, Shape.allows, hvariable, State.reserve, State.withEvents]
  | @simple _ body leaf events hsimple hscope hleaf =>
      have hallows : (Shape.body body.turns).allows statement = true := by
        cases statement <;> first | exact absurd hsimple Bool.false_ne_true | rfl
      rw [hscope]
      simp [Scope.shape, State.inBody, Shape.next?_of_allows hallows]

/-! ## The constants of a state -/

theorem expand_eq_self (h : statement.head? ≠ some .compile) :
    statement.expand predefined = [statement] :=
  if_neg h

/-- A statement that is lowered passes its check, and the constants are those after it. -/
theorem Change.constants [Interpreter] (hchange : Change predefined state statement state') :
    Checked state.symbols.constants (statement.expand predefined) ∧
      state'.symbols.constants =
        (statement.expand predefined).foldl Statement.define state.symbols.constants := by
  cases hchange with
  | compile hframes hnew hconstants =>
      obtain ⟨hchecked, hdefine⟩ := defineAll?_eq_some_iff.mp hconstants
      have hnodup := nodup_of_defineAll? state.symbols.nodup_constants hconstants
      exact ⟨⟨trivial, hchecked⟩, (Symbols.constants_withConstants _ hnodup).trans hdefine.symm⟩
  | @body kind colon events hframes hnew =>
      have hexpand : (Statement.block kind.head colon).expand predefined = [_] :=
        expand_eq_self (by cases kind <;> simp [Statement.head?, BodyKind.head])
      rw [hexpand]
      exact ⟨⟨trivial, trivial⟩, by simp [State.inBody, State.withEvents, Statement.define]⟩
  | closeBlock hscope hframes => exact ⟨⟨trivial, trivial⟩, by simp; rfl⟩
  | const hscope hconstants hstate =>
      obtain ⟨defined, events, rfl⟩ := hstate
      obtain ⟨hpasses, hdefine⟩ := define?_eq_some_iff.mp hconstants
      have hnodup := nodup_of_define? state.symbols.nodup_constants hconstants
      exact ⟨⟨hpasses, trivial⟩, (Symbols.constants_withConstants _ hnodup).trans hdefine.symm⟩
  | @reserve declaration entry events hvariable hentry =>
      have hstorage : (storageOf? state.symbols.constants declaration).isSome = true := by
        rw [(reserve?_eq_some_iff.mp hentry).1, Option.isSome_some]
      refine ⟨⟨(storageOf?_isSome_iff hvariable).mp hstorage, trivial⟩, ?_⟩
      cases declaration with
      | const name value => cases hvariable
      | _ => rfl
  | simple hsimple hscope hleaf =>
      have hselected : (selected state.symbols.constants statement).isSome = true := by
        rw [hleaf, Option.isSome_some]
      have hpasses := (selected_isSome_iff hsimple).mp hselected
      cases statement with
      | block | branch | loop | otherwise | close | comment | declare => cases hsimple
      | _ => exact ⟨⟨hpasses, trivial⟩, rfl⟩
  | branch | loop | otherwise | closeFrame | commentOutside | commentConstants | commentBody =>
      exact ⟨⟨trivial, trivial⟩, rfl⟩

/-! ## The variables of a state -/

/-- The variable is declared. -/
def State.Declared (state : State) (name : String) : Prop :=
  (state.symbols.storage? name).isSome = true

/-- A statement that is lowered declares a new variable, if it declares one. -/
theorem Change.declared [Interpreter] (hchange : Change predefined state statement state') :
    (∀ name, statement.variableName? = some name → ¬ state.Declared name) ∧
      ∀ name, state'.Declared name ↔ state.Declared name ∨ statement.variableName? = some name := by
  cases hchange with
  | const hscope hconstants hstate =>
      obtain ⟨defined, events, rfl⟩ := hstate
      simp [Statement.variableName?, Declaration.isVariable, State.Declared, State.withConstants,
        State.withEvents]
  | @reserve declaration entry events hvariable hentry =>
      obtain ⟨hstorage, hnew⟩ := reserve?_eq_some_iff.mp hentry
      have hname := name_of_storageOf? hstorage
      rw [hname] at hnew
      simp only [Statement.variableName?, hvariable, if_true, Option.some.injEq, forall_eq']
      refine ⟨by simp [State.Declared, hnew], fun name => ?_⟩
      rw [State.Declared, State.Declared, State.storage?_reserve, hname]
      by_cases heq : name = declaration.name
      · simp [heq]
      · simp [heq, Ne.symm heq, State.withEvents]
  | simple hsimple hscope hleaf =>
      have hnone : statement.variableName? = none := by
        cases statement <;> first | rfl | cases hsimple
      simp [hnone, State.Declared, State.inBody, State.withEvents]
  | compile | body | branch | loop | otherwise | closeFrame | closeBlock | commentOutside
  | commentConstants | commentBody =>
      simp [Statement.variableName?, State.Declared, State.inBody, State.withEvents, State.bump,
        State.withConstants]

/-! ## The blocks of a state -/

/-- The kind of the open body. -/
def Scope.kind? : Scope → Option BodyKind
  | .nothing | .compile => none
  | .body b => some b.kind

/-- The body is open or finished. -/
def State.Begun (state : State) (kind : BodyKind) : Prop :=
  (state.finished? kind).isSome = true ∨ state.scope.kind? = some kind

/-- The block was opened. -/
def State.Opened (state : State) : BlockHead → Prop
  | .compile => state.compiled = true
  | .main => state.Begun .main
  | .function name => state.Begun (.function name)

theorem State.opened_congr (hcompiled : state'.compiled = state.compiled)
    (hbegun : ∀ kind, state'.Begun kind ↔ state.Begun kind) (head : BlockHead) :
    state'.Opened head ↔ state.Opened head := by
  cases head with
  | compile => rw [State.Opened, State.Opened, hcompiled]
  | main => exact hbegun .main
  | function name => exact hbegun (.function name)

theorem State.begun_congr (hfinished : ∀ kind, state'.finished? kind = state.finished? kind)
    (hkind : state'.scope.kind? = state.scope.kind?) (kind : BodyKind) :
    state'.Begun kind ↔ state.Begun kind := by
  rw [State.Begun, State.Begun, hfinished, hkind]

/-- Closing the scope finishes what was open. -/
theorem State.isSome_finished?_closed {kind : BodyKind} :
    (state.closed.finished? kind).isSome = true ↔ state.Begun kind := by
  -- closing files the open body under its kind and leaves the other kinds alone
  by_cases hkind : state.scope.kind? = some kind
  · cases hscope : state.scope with
    | nothing | compile => simp [hscope, Scope.kind?] at hkind
    | body body =>
        rw [hscope] at hkind
        cases hkind
        simp [State.finished?_closed_body hscope, State.Begun, hscope, Scope.kind?]
  · have hne : ∀ body, state.scope = .body body → body.kind ≠ kind := by
      rintro body hscope rfl
      rw [hscope] at hkind
      exact hkind rfl
    rw [State.finished?_closed_of_ne hne]
    simp [State.Begun, hkind]

theorem State.begun_closed {kind : BodyKind} : state.closed.Begun kind ↔ state.Begun kind := by
  rw [State.Begun, State.isSome_finished?_closed, State.scope_closed]
  simp [Scope.kind?]

/-- Opening a body adds its head to what was opened. -/
private theorem opened_start {kind : BodyKind} {events : List Event} {head : BlockHead} :
    ((state.closed.withEvents events).inBody ⟨kind, .empty, []⟩).Opened head ↔
      state.Opened head ∨ kind.head = head := by
  have hbegun : ∀ kind', ((state.closed.withEvents events).inBody ⟨kind, .empty, []⟩).Begun kind' ↔
      state.Begun kind' ∨ kind = kind' := by
    intro kind'
    have hclosed : (state.closed.finished? kind').isSome = true ↔ state.Begun kind' :=
      State.isSome_finished?_closed
    rw [← hclosed]
    exact or_congr Iff.rfl (by simp [State.inBody, Scope.kind?])
  cases head with
  | compile =>
      have hhead : kind.head ≠ .compile := by cases kind <;> simp [BodyKind.head]
      simp [State.Opened, State.inBody, State.withEvents, hhead]
  | main =>
      rw [State.Opened, State.Opened, hbegun]
      cases kind <;> simp [BodyKind.head]
  | function name =>
      rw [State.Opened, State.Opened, hbegun]
      cases kind <;> simp [BodyKind.head]

private theorem opened_compile {constants : Constants} {block : Block} {events : List Event}
    {head : BlockHead} :
    { (state.closed.withEvents events).withConstants constants with
      setup := block, compiled := true, scope := .compile : State }.Opened head ↔
      state.Opened head ∨ BlockHead.compile = head := by
  have hbegun : ∀ kind,
      { (state.closed.withEvents events).withConstants constants with
        setup := block, compiled := true, scope := .compile : State }.Begun kind ↔
        state.Begun kind := by
    intro kind
    have hclosed : (state.closed.finished? kind).isSome = true ↔ state.Begun kind :=
      State.isSome_finished?_closed
    rw [← hclosed]
    exact or_iff_left nofun
  cases head with
  | compile => simp [State.Opened]
  | main => simpa [State.Opened] using hbegun .main
  | function name => simpa [State.Opened] using hbegun (.function name)

/-- A statement that is lowered opens a new block, if it opens one. -/
theorem Change.opened [Interpreter] (hchange : Change predefined state statement state') :
    (∀ head, statement.head? = some head → ¬ state.Opened head) ∧
      ∀ head, state'.Opened head ↔ state.Opened head ∨ statement.head? = some head := by
  -- all other statements open no block
  have hother : statement.head? = none → state'.compiled = state.compiled →
      (∀ kind, state'.Begun kind ↔ state.Begun kind) →
      (∀ head, statement.head? = some head → ¬ state.Opened head) ∧
        ∀ head, state'.Opened head ↔ state.Opened head ∨ statement.head? = some head := by
    intro hnone hcompiled hbegun
    simp [hnone, State.opened_congr hcompiled hbegun]
  cases hchange with
  | compile hframes hnew hconstants =>
      simp only [Statement.head?, Option.some.injEq, forall_eq']
      exact ⟨by simp [State.Opened, hnew], fun head => opened_compile⟩
  | @body kind colon events hframes hnew =>
      simp only [Statement.head?, Option.some.injEq, forall_eq']
      refine ⟨?_, fun head => opened_start⟩
      -- closed first, the state has every body that was begun among the finished ones
      have hbegun : ¬ state.Begun kind := by
        rw [← State.isSome_finished?_closed, hnew]
        simp
      cases kind <;> exact hbegun
  | closeBlock hscope hframes =>
      exact hother rfl (State.compiled_closed state) fun kind => State.begun_closed
  | const hscope hconstants hstate =>
      obtain ⟨defined, events, rfl⟩ := hstate
      exact hother rfl rfl (State.begun_congr (fun _ => rfl) rfl)
  | reserve hvariable hentry => exact hother rfl rfl (State.begun_congr (fun _ => rfl) rfl)
  | commentOutside hscope => exact hother rfl rfl fun _ => Iff.rfl
  | commentConstants hscope => exact hother rfl rfl (State.begun_congr (fun _ => rfl) rfl)
  | simple hsimple hscope hleaf =>
      have hnone : statement.head? = none := by
        cases statement <;> first | rfl | cases hsimple
      refine hother hnone rfl (State.begun_congr (fun _ => rfl) ?_)
      simp [hscope, State.inBody, Scope.kind?]
  | branch hscope | loop hscope | otherwise hscope | closeFrame hscope | commentBody hscope =>
      refine hother rfl rfl (State.begun_congr (fun _ => rfl) ?_)
      simp [hscope, State.inBody, Scope.kind?]

/-! ## Statements that can be lowered -/

private theorem exists_scope_body {shape' : Shape} {turns : Bool}
    (h : state.scope.shape.enter? turns = some shape') : ∃ body, state.scope = .body body := by
  cases hscope : state.scope with
  | nothing | compile =>
      rw [hscope] at h
      cases h
  | body body => exact ⟨body, rfl⟩

variable [Interpreter]

private theorem exists_change_block {head : BlockHead} {colon : Bool}
    (hlevel : state.scope.shape.isLevel = true)
    (hchecked : Checked state.symbols.constants ((Statement.block head colon).expand predefined))
    (hopened : ¬ state.Opened head) :
    ∃ state', Change predefined state (.block head colon) state' := by
  have hframes := (Scope.isLevel_shape state.scope).mp hlevel
  have hfinished : ∀ kind, ¬ state.Begun kind → state.closed.finished? kind = none := by
    intro kind hkind
    rw [← State.isSome_finished?_closed] at hkind
    simpa using hkind
  cases head with
  | compile =>
      have hnew : state.compiled = false := by simpa [State.Opened] using hopened
      have hconstants := defineAll?_eq_some_iff.mpr ⟨hchecked.2, rfl⟩
      exact ⟨{ (state.closed.withEvents []).withConstants _ with
        setup := state.setup.put (equations []), compiled := true, scope := .compile },
        .compile hframes hnew hconstants⟩
  | main =>
      exact ⟨(state.closed.withEvents []).inBody ⟨.main, .empty, []⟩,
        .body hframes (hfinished .main hopened)⟩
  | function name =>
      exact ⟨(state.closed.withEvents []).inBody ⟨.function name, .empty, []⟩,
        .body hframes (hfinished (.function name) hopened)⟩

private theorem exists_change_otherwise {shape' : Shape}
    (h : state.scope.shape.turn? = some shape') :
    ∃ state', Change predefined state .otherwise state' := by
  cases hscope : state.scope with
  | nothing | compile =>
      rw [hscope] at h
      cases h
  | body body =>
      rw [hscope] at h
      cases hframes : body.frames with
      | nil => simp [Scope.shape, Body.turns, hframes, Shape.turn?] at h
      | cons frame frames =>
          cases hopening : frame.opening with
          | branch => exact ⟨_, .otherwise hscope hframes hopening⟩
          | alternative | loop cond | endless =>
              simp [Scope.shape, Body.turns, hframes, hopening, Opening.turns, Shape.turn?] at h

private theorem exists_change_close {shape' : Shape}
    (h : state.scope.shape.leave? = some shape') :
    ∃ state', Change predefined state .close state' := by
  have hscope : state.scope ≠ .nothing := by
    intro hscope
    rw [hscope] at h
    cases h
  cases hstate : state.scope with
  | nothing => exact absurd hstate hscope
  | compile =>
      have hframes : state.scope.frames = [] := by rw [hstate]; rfl
      exact ⟨_, .closeBlock hscope hframes⟩
  | body body =>
      cases hbody : body.frames with
      | nil =>
          have hframes : state.scope.frames = [] := by rw [hstate]; exact hbody
          exact ⟨_, .closeBlock hscope hframes⟩
      | cons frame frames => exact ⟨_, .closeFrame hstate hbody⟩

private theorem exists_change_comment (text : String) :
    ∃ state', Change predefined state (.comment text) state' := by
  cases hscope : state.scope with
  | nothing => exact ⟨_, .commentOutside hscope⟩
  | compile => exact ⟨_, .commentConstants hscope⟩
  | body body => exact ⟨_, .commentBody hscope⟩

private theorem exists_change_declare {declaration : Declaration}
    (hallows : state.scope.shape.allows (.declare declaration) = true)
    (hpasses : declaration.Passes state.symbols.constants)
    (hdeclared : declaration.isVariable = true → ¬ state.Declared declaration.name) :
    ∃ state', Change predefined state (.declare declaration) state' := by
  by_cases hvariable : declaration.isVariable = true
  · have hstorage := (storageOf?_isSome_iff hvariable).mpr hpasses
    obtain ⟨entry, hentry⟩ := Option.isSome_iff_exists.mp hstorage
    have hname := name_of_storageOf? hentry
    have hnew : state.symbols.storage? entry.1.name = none := by
      rw [hname, ← Option.not_isSome_iff_eq_none]
      exact hdeclared hvariable
    have hreserve := reserve?_eq_some_iff.mpr ⟨hentry, hnew⟩
    exact ⟨(state.withEvents []).reserve entry.1 entry.2, .reserve hvariable hreserve⟩
  · cases declaration with
    | const name value =>
        have hscope : state.scope = .compile := by
          cases hscope : state.scope with
          | compile => rfl
          | nothing | body body => simp [hscope, Shape.allows, Declaration.isVariable,
              Scope.shape] at hallows
        have hstatement : (Statement.declare (.const name value)).Passes _ := hpasses
        have hconstants := define?_eq_some_iff.mpr ⟨hstatement, rfl⟩
        exact ⟨_, .const hscope hconstants ⟨[], [], rfl⟩⟩
    | _ => exact absurd rfl hvariable

private theorem exists_change_simple (hsimple : statement.isSimple = true)
    (hbody : state.scope.shape.isBody = true) (hpasses : statement.Passes state.symbols.constants) :
    ∃ state', Change predefined state statement state' := by
  have hselected := (selected_isSome_iff hsimple).mpr hpasses
  obtain ⟨leaf, hleaf⟩ := Option.isSome_iff_exists.mp hselected
  cases hscope : state.scope with
  | nothing | compile =>
      rw [hscope] at hbody
      cases hbody
  | body body =>
      exact ⟨(state.withEvents []).inBody (body.put [.leaf leaf]), .simple hsimple hscope hleaf⟩

/-- A statement can be lowered if it is allowed by the shape, by the constants, by the variables
and by the blocks. -/
theorem exists_change {shape' : Shape}
    (hshape : state.scope.shape.next? statement = some shape')
    (hchecked : Checked state.symbols.constants (statement.expand predefined))
    (hdeclared : ∀ name, statement.variableName? = some name → ¬ state.Declared name)
    (hopened : ∀ head, statement.head? = some head → ¬ state.Opened head) :
    ∃ state', Change predefined state statement state' := by
  cases statement with
  | block head colon =>
      by_cases hlevel : state.scope.shape.isLevel = true
      · exact exists_change_block hlevel hchecked (hopened head rfl)
      · simp [Shape.next?, hlevel] at hshape
  | branch cond =>
      obtain ⟨body, hscope⟩ := exists_scope_body hshape
      exact ⟨_, .branch hscope rfl⟩
  | loop cond? =>
      obtain ⟨body, hscope⟩ := exists_scope_body hshape
      exact ⟨_, .loop hscope rfl⟩
  | otherwise => exact exists_change_otherwise hshape
  | close => exact exists_change_close hshape
  | comment text => exact exists_change_comment text
  | declare declaration =>
      simp only [Shape.next?, Option.ite_none_right_eq_some] at hshape
      refine exists_change_declare hshape.1 hchecked.1 fun hvariable => ?_
      exact hdeclared _ (by simp [Statement.variableName?, hvariable])
  | _ =>
      simp only [Shape.next?, Option.ite_none_right_eq_some] at hshape
      exact exists_change_simple rfl hshape.1 hchecked.1

/-! ## Programs that can be lowered -/

/-- The four conditions under which statements can be lowered to the end, from a given state. -/
structure Acceptable (predefined : Constants) (state : State) (statements : List Statement) :
    Prop where
  shape : state.scope.shape.Accepts statements
  checked : Checked state.symbols.constants (statements.flatMap (Statement.expand predefined))
  declared : Fresh state.Declared (statements.filterMap Statement.variableName?)
  blocks : Fresh state.Opened (statements.filterMap Statement.head?)
  compile : state.Opened .compile ∨ .compile ∈ statements.filterMap Statement.head?
  main : state.Opened .main ∨ .main ∈ statements.filterMap Statement.head?

/-- A change leaves the other conditions to the statements that follow. -/
theorem Change.acceptable_cons_iff {rest : List Statement}
    (hchange : Change predefined state statement state') :
    Acceptable predefined state (statement :: rest) ↔ Acceptable predefined state' rest := by
  have hshape : state.scope.shape.Accepts (statement :: rest) ↔
      state'.scope.shape.Accepts rest := by
    simp [Shape.Accepts, hchange.shape]
  have hchecked : Checked state.symbols.constants
        ((statement :: rest).flatMap (Statement.expand predefined)) ↔
      Checked state'.symbols.constants (rest.flatMap (Statement.expand predefined)) := by
    rw [List.flatMap_cons, checked_append, hchange.constants.2]
    exact and_iff_right hchange.constants.1
  have hvariables : Fresh state.Declared ((statement :: rest).filterMap Statement.variableName?) ↔
      Fresh state'.Declared (rest.filterMap Statement.variableName?) := by
    rw [filterMap_cons_eq, fresh_toList_append, and_iff_right hchange.declared.1]
    simp only [Fresh, hchange.declared.2]
  have hblocks : Fresh state.Opened ((statement :: rest).filterMap Statement.head?) ↔
      Fresh state'.Opened (rest.filterMap Statement.head?) := by
    rw [filterMap_cons_eq, fresh_toList_append, and_iff_right hchange.opened.1]
    simp only [Fresh, hchange.opened.2]
  -- a block is opened by this statement, by an earlier one or by a later one
  have hmem : ∀ head, (state.Opened head ∨ head ∈ (statement :: rest).filterMap Statement.head?) ↔
      (state'.Opened head ∨ head ∈ rest.filterMap Statement.head?) := by
    intro head
    rw [filterMap_cons_eq, List.mem_append, Option.mem_toList, hchange.opened.2, or_assoc]
  constructor
  · rintro ⟨h1, h2, h3, h4, h5, h6⟩
    exact ⟨hshape.mp h1, hchecked.mp h2, hvariables.mp h3, hblocks.mp h4, (hmem _).mp h5,
      (hmem _).mp h6⟩
  · rintro ⟨h1, h2, h3, h4, h5, h6⟩
    exact ⟨hshape.mpr h1, hchecked.mpr h2, hvariables.mpr h3, hblocks.mpr h4, (hmem _).mpr h5,
      (hmem _).mpr h6⟩

theorem Acceptable.exists_change {rest : List Statement}
    (h : Acceptable predefined state (statement :: rest)) :
    ∃ state', Change predefined state statement state' := by
  obtain ⟨shape', hshape, -⟩ := h.shape
  have hchecked := h.checked
  rw [List.flatMap_cons, checked_append] at hchecked
  have hvariables := h.declared
  rw [filterMap_cons_eq, fresh_toList_append] at hvariables
  have hblocks := h.blocks
  rw [filterMap_cons_eq, fresh_toList_append] at hblocks
  exact Lowering.exists_change hshape hchecked.1 hvariables.1 hblocks.1

/-- At the end, the conditions are those of a conclusion. -/
theorem acceptable_nil_iff :
    Acceptable predefined state [] ↔ ∃ listing, conclude state = .ok listing := by
  have hmain : state.Opened .main ↔ ∃ main, state.closed.main? = some main := by
    rw [← Option.isSome_iff_exists]
    exact State.isSome_finished?_closed.symm
  have hlevel := Scope.isLevel_shape state.scope
  constructor
  · intro h
    have hcompiled : state.Opened .compile := by simpa using h.compile
    have hopened : state.Opened .main := by simpa using h.main
    obtain ⟨main, hfinished⟩ := hmain.mp hopened
    exact ⟨_, conclude_ok_iff.mpr ⟨hlevel.mp h.shape, hcompiled, main, hfinished, rfl⟩⟩
  · rintro ⟨listing, hconclude⟩
    obtain ⟨hframes, hcompiled, main, hfinished, -⟩ := conclude_ok_iff.mp hconclude
    exact ⟨hlevel.mpr hframes, trivial, ⟨.nil, nofun⟩, ⟨.nil, nofun⟩, .inl hcompiled,
      .inl (hmain.mpr ⟨main, hfinished⟩)⟩

/-- Statements are lowered to the end exactly if they are acceptable. -/
theorem steps_conclude_iff {statements : List Located} (hsound : state.Sound) :
    (∃ state' listing, steps predefined state statements = .ok state' ∧
        conclude state' = .ok listing) ↔
      Acceptable predefined state (statements.map Located.statement) := by
  induction statements generalizing state with
  | nil =>
      rw [List.map_nil, acceptable_nil_iff]
      simp [steps]
  | cons located rest ih =>
      cases hstep : step predefined state located with
      | error stop =>
          -- a statement that can be lowered is not refused by the step
          refine iff_of_false (by simp [steps, hstep]) fun h => ?_
          obtain ⟨state', hstate'⟩ := (step_ok_iff hsound).mpr h.exists_change
          rw [hstep] at hstate'
          cases hstate'
      | ok middle =>
          have hchange := change_of_step hsound hstep
          rw [List.map_cons, hchange.acceptable_cons_iff, ← ih (hsound.change hchange)]
          simp [steps, hstep]

end Lowering

/-! ## The conditions of a whole program -/

private theorem mem_filterMap_function? {heads : List BlockHead} {name : String} :
    name ∈ heads.filterMap BlockHead.function? ↔ .function name ∈ heads := by
  rw [List.mem_filterMap]
  constructor
  · rintro ⟨head, hmem, hname⟩
    cases head with
    | compile | main => cases hname
    | function name' =>
        cases hname
        exact hmem
  · intro hmem
    exact ⟨_, hmem, rfl⟩

/-- Blocks do not repeat exactly if neither the constants nor the program proper do, and the names
of functions do not. -/
private theorem nodup_heads_iff {heads : List BlockHead} :
    heads.Nodup ↔ heads.count .compile ≤ 1 ∧ heads.count .main ≤ 1 ∧
      (heads.filterMap BlockHead.function?).Nodup := by
  induction heads with
  | nil => simp
  | cons head heads ih =>
      rw [List.nodup_cons, ih]
      cases head with
      | compile =>
          rw [← List.count_eq_zero, filterMap_cons_eq]
          simp only [List.count_cons_self, BlockHead.function?, Option.toList_none,
            List.nil_append, List.count_cons_of_ne (show BlockHead.compile ≠ .main by decide)]
          constructor
          · rintro ⟨hzero, -, hmain, hfunctions⟩
            exact ⟨by omega, hmain, hfunctions⟩
          · rintro ⟨hcompile, hmain, hfunctions⟩
            exact ⟨by omega, by omega, hmain, hfunctions⟩
      | main =>
          rw [← List.count_eq_zero, filterMap_cons_eq]
          simp only [List.count_cons_self, BlockHead.function?, Option.toList_none,
            List.nil_append, List.count_cons_of_ne (show BlockHead.main ≠ .compile by decide)]
          constructor
          · rintro ⟨hzero, hcompile, -, hfunctions⟩
            exact ⟨hcompile, by omega, hfunctions⟩
          · rintro ⟨hcompile, hmain, hfunctions⟩
            exact ⟨by omega, hcompile, by omega, hfunctions⟩
      | function name =>
          rw [← mem_filterMap_function?, filterMap_cons_eq]
          simp only [BlockHead.function?, Option.toList_some, List.cons_append, List.nil_append,
            List.nodup_cons, List.count_cons_of_ne (show BlockHead.function name ≠ .main by simp),
            List.count_cons_of_ne (show BlockHead.function name ≠ .compile by simp)]
          tauto

private theorem isWellStructured_iff [Interpreter] {predefined : Constants}
    {statements : List Statement} :
    IsWellStructured predefined statements ↔ Acceptable predefined .start statements := by
  have hopened : ∀ head, ¬ State.start.Opened head := by
    intro head
    cases head <;> simp [State.Opened, State.Begun, State.start, State.finished?, Scope.kind?]
  have hdeclared : ∀ name, ¬ State.start.Declared name := by
    intro name
    simp [State.Declared, State.start]
  -- exactly once is at most once, which is freshness, and at least once
  have hcount : ∀ head, (statements.filterMap Statement.head?).count head = 1 ↔
      (statements.filterMap Statement.head?).count head ≤ 1 ∧
        head ∈ statements.filterMap Statement.head? := by
    intro head
    rw [← List.count_pos_iff]
    omega
  constructor
  · intro h
    obtain ⟨hcompile, hcompileMem⟩ := (hcount _).mp h.one_compile
    obtain ⟨hmain, hmainMem⟩ := (hcount _).mp h.one_main
    exact ⟨Shape.accepts_iff.mpr h.derivation, checked_iff.mpr h.passes,
      ⟨h.variables_nodup, fun name _ => hdeclared name⟩,
      ⟨nodup_heads_iff.mpr ⟨hcompile, hmain, h.functions_nodup⟩, fun head _ => hopened head⟩,
      .inr hcompileMem, .inr hmainMem⟩
  · intro h
    obtain ⟨hcompile, hmain, hfunctions⟩ := nodup_heads_iff.mp h.blocks.1
    have hcompileMem := h.compile.resolve_left (hopened _)
    have hmainMem := h.main.resolve_left (hopened _)
    exact ⟨Shape.accepts_iff.mp h.shape, (hcount _).mpr ⟨hcompile, hcompileMem⟩,
      (hcount _).mpr ⟨hmain, hmainMem⟩, hfunctions, h.declared.1, checked_iff.mp h.checked⟩

/-- **Exactly the well-structured programs are lowered.**  For these there is a listing; all
others are interrupted, and then there is none. -/
theorem lower_ok_iff_isWellStructured [Interpreter] (predefined : Constants)
    (statements : List Located) :
    ((∃ listing events, lower predefined statements = .ok (listing, events)) ↔
        IsWellStructured predefined (statements.map Located.statement)) ∧
      ((∃ interrupted, lower predefined statements = .error interrupted) ↔
        ¬ IsWellStructured predefined (statements.map Located.statement)) := by
  rw [isWellStructured_iff, ← steps_conclude_iff State.Sound.start]
  unfold lower
  cases hresult : steps predefined .start statements with
  | error interrupted => simp
  | ok state => cases hlisting : conclude state <;> simp [hlisting]

end Shorthand
