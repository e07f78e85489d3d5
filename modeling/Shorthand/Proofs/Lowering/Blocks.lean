import Shorthand.Proofs.Lowering.Bodies

/-!
# The blocks of a listing

Every body of a listing is the code of one block of the program (`exists_block_of_mem_bodies`), and
every statement of a block stands in the flow of its body (`exists_flow_of_inner`).

Three things are known of the state in which a block is opened.  Numbers were given out only in
bodies that were begun before (`State.Counts`), so that a body whose name is new starts to count
at one.  Constants are defined only in the block of constants: before it there are none, and after
it there will be no more (`constantsAfter_eq`).
-/

namespace Shorthand

open Lowering

/-! ## The flow around a statement -/

/-- Whether the statement can stand in a body only. -/
def Statement.isInner : Statement → Bool
  | branch _ | loop _ | otherwise => true
  | statement => statement.isSimple

namespace Shape

/-- Outside of blocks, a block has to be opened before a statement of a body can be read. -/
private theorem not_accepts_nothing {inner after : List Statement} {statement : Statement}
    (hinner : inner.filterMap Statement.head? = []) (hstatement : statement.isInner = true) :
    ¬ nothing.Accepts (inner ++ statement :: after) := by
  induction inner with
  | nil =>
      rintro ⟨shape', hnext, -⟩
      cases statement with
      | block | close | comment | declare => cases hstatement
      | _ => cases hnext
  | cons first inner ih =>
      rw [filterMap_cons_eq, List.append_eq_nil_iff] at hinner
      rintro ⟨shape', hnext, hrest⟩
      cases first with
      | block head colon => cases hinner.1
      | branch | loop | otherwise | close => cases hnext
      | _ =>
          simp only [next?, Option.ite_none_right_eq_some, Option.some.injEq] at hnext
          obtain ⟨-, rfl⟩ := hnext
          exact ih hinner.2 hrest

/-- A statement of a block that is reached without opening another block stands in the flow of the
body. -/
theorem exists_flow_of_inner {inner after : List Statement} {statement : Statement}
    (h : (body []).Accepts (inner ++ statement :: after))
    (hinner : inner.filterMap Statement.head? = []) (hstatement : statement.isInner = true) :
    ∃ (flow : Flow) (later rest : List Statement),
      flow.statements = inner ++ statement :: later ∧ after = later ++ rest ∧ EndsBody rest := by
  obtain ⟨flow, rest, hsplit, hends⟩ := exists_flow h
  rcases List.append_eq_append_iff.mp hsplit with ⟨later, hflow, hrest⟩ | ⟨gap, hgap, hrest⟩
  · -- the flow goes on after what stands before the statement
    cases later with
    | nil =>
        -- a body cannot end where the statement begins
        rw [List.nil_append] at hrest
        rw [← hrest] at hends
        cases statement with
        | block | close => cases hstatement
        | _ => cases hends
    | cons first later =>
        cases hrest
        exact ⟨flow, later, rest, hflow, rfl, hends⟩
  · -- the body would have ended before the statement
    subst hgap
    rw [List.append_assoc, accepts_flow] at h
    rw [hrest] at hends
    rw [List.filterMap_append, List.append_eq_nil_iff] at hinner
    cases gap with
    | nil =>
        cases statement with
        | block | close => cases hstatement
        | _ => cases hends
    | cons first gap =>
        cases first with
        | block head colon => simp [Statement.head?] at hinner
        | close =>
            obtain ⟨shape', hnext, hlater⟩ := h
            cases hnext
            exact absurd hlater (not_accepts_nothing hinner.2 hstatement)
        | _ => cases hends

end Shape

namespace Lowering

variable [Interpreter] {predefined : Constants} {state state' : State} {statement : Statement}

/-! ## Blocks that were opened -/

omit [Interpreter] in
theorem State.not_opened_start (head : BlockHead) : ¬ State.start.Opened head := by
  cases head <;> simp [State.Opened, State.Begun, State.start, State.finished?, Scope.kind?]

omit [Interpreter] in
theorem State.opened_head {kind : BodyKind} : state.Opened kind.head ↔ state.Begun kind := by
  cases kind <;> rfl

theorem Lowers.opened {statements : List Statement}
    (h : Lowers predefined state statements state') (head : BlockHead) :
    state'.Opened head ↔ state.Opened head ∨ head ∈ statements.filterMap Statement.head? := by
  induction h with
  | done state => simp
  | step hchange _ ih =>
      rw [ih, hchange.opened.2, filterMap_cons_eq, List.mem_append, Option.mem_toList, or_assoc]

/-! ## Numbers that were given out -/

/-- Numbers are given out only in bodies that were begun. -/
def State.Counts (state : State) : Prop :=
  ∀ name kind, state.counters.count name kind ≠ 0 →
    ∃ body : BodyKind, state.Opened body.head ∧ body.name = name

/-- A change gives out a number of the open body, or none. -/
theorem Change.counters (hchange : Change predefined state statement state') :
    state'.counters = state.counters ∨
      ∃ body kind, state.scope = .body body ∧
        state'.counters = state.counters.bump body.kind.name kind := by
  cases hchange with
  | branch hscope => exact .inr ⟨_, .branch, hscope, rfl⟩
  | loop hscope => exact .inr ⟨_, .loop, hscope, rfl⟩
  | const hscope hconstants hstate =>
      obtain ⟨defined, events, rfl⟩ := hstate
      exact .inl rfl
  | compile | body | closeBlock => exact .inl state.counters_closed
  | otherwise | closeFrame | commentOutside | commentConstants | commentBody | reserve | simple =>
      exact .inl rfl

theorem State.Counts.change (h : state.Counts)
    (hchange : Change predefined state statement state') : state'.Counts := by
  intro name kind hcount
  -- what was begun before is still begun
  have hkeep : ∀ body : BodyKind, state.Opened body.head → state'.Opened body.head :=
    fun body hopened => (hchange.opened.2 _).mpr (.inl hopened)
  rcases hchange.counters with hcounters | ⟨body, kind', hscope, hcounters⟩
  · rw [hcounters] at hcount
    obtain ⟨body, hopened, hname⟩ := h name kind hcount
    exact ⟨body, hkeep body hopened, hname⟩
  · rw [hcounters, Counters.count_bump] at hcount
    by_cases hkey : (name, kind) = (body.kind.name, kind')
    · have hbegun : state.Begun body.kind := .inr (by rw [hscope]; rfl)
      cases hkey
      exact ⟨body.kind, hkeep body.kind (State.opened_head.mpr hbegun), rfl⟩
    · rw [if_neg hkey] at hcount
      obtain ⟨body, hopened, hname⟩ := h name kind hcount
      exact ⟨body, hkeep body hopened, hname⟩

theorem Lowers.counts {statements : List Statement}
    (h : Lowers predefined state statements state') (hcounts : state.Counts) : state'.Counts := by
  induction h with
  | done state => exact hcounts
  | step hchange _ ih => exact ih (hcounts.change hchange)

/-- In a body whose name was not used before, no number was given out. -/
theorem Lowers.count_eq_zero {before : List Statement} {first : State} {name : String}
    (h : Lowers predefined .start before first)
    (hnew : ∀ kind : BodyKind, kind.head ∈ before.filterMap Statement.head? → kind.name ≠ name)
    (numbered : Numbered) : first.counters.count name numbered = 0 := by
  by_contra hcount
  have hstart : State.start.Counts := fun _ _ hcount => absurd rfl hcount
  obtain ⟨body, hopened, hname⟩ := h.counts hstart name numbered hcount
  rw [h.opened] at hopened
  exact hnew body (hopened.resolve_left (State.not_opened_start _)) hname

/-! ## Constants that are defined -/

/-- The block of constants was opened, and is closed. -/
def State.Settled (state : State) : Prop := state.compiled = true ∧ state.scope ≠ .compile

/-- Before the block of constants is opened, there are no constants. -/
def State.Unset (state : State) : Prop :=
  state.compiled = false → state.symbols.constants = [] ∧ state.scope ≠ .compile

omit [Interpreter] in
@[simp] theorem State.scope_inBody (state : State) (body : Body) :
    (state.inBody body).scope = .body body := rfl

theorem Change.settled (hchange : Change predefined state statement state')
    (h : state.Settled) : state'.Settled ∧ state'.symbols.constants = state.symbols.constants := by
  cases hchange with
  | compile hframes hnew => rw [h.1] at hnew; cases hnew
  | const hscope => exact absurd hscope h.2
  | commentConstants hscope => exact absurd hscope h.2
  | body => exact ⟨⟨state.compiled_closed.trans h.1, by simp⟩, by simp [State.withEvents]⟩
  | closeBlock =>
      exact ⟨⟨state.compiled_closed.trans h.1, by simp⟩, by simp⟩
  | commentOutside | reserve => exact ⟨h, rfl⟩
  | branch | loop | otherwise | closeFrame | commentBody | simple => exact ⟨⟨h.1, by simp⟩, rfl⟩

theorem Lowers.settled {statements : List Statement}
    (h : Lowers predefined state statements state') (hsettled : state.Settled) :
    state'.symbols.constants = state.symbols.constants := by
  induction h with
  | done state => rfl
  | step hchange _ ih =>
      obtain ⟨hmiddle, hconstants⟩ := hchange.settled hsettled
      exact (ih hmiddle).trans hconstants

theorem Change.unset (hchange : Change predefined state statement state') (h : state.Unset) :
    state'.Unset := by
  intro hcompiled
  cases hchange with
  | compile => cases hcompiled
  | const hscope hconstants hstate =>
      obtain ⟨defined, events, rfl⟩ := hstate
      exact absurd hscope (h hcompiled).2
  | commentConstants hscope => exact absurd hscope (h hcompiled).2
  | body =>
      have hnew : state.compiled = false := state.compiled_closed.symm.trans hcompiled
      exact ⟨by simpa [State.withEvents] using (h hnew).1, by simp⟩
  | closeBlock =>
      have hnew : state.compiled = false := state.compiled_closed.symm.trans hcompiled
      exact ⟨by simpa using (h hnew).1, by simp⟩
  | commentOutside | reserve => exact h hcompiled
  | branch | loop | otherwise | closeFrame | commentBody | simple =>
      exact ⟨(h hcompiled).1, by simp⟩

theorem Lowers.unset {statements : List Statement}
    (h : Lowers predefined state statements state') (hunset : state.Unset) : state'.Unset := by
  induction h with
  | done state => exact hunset
  | step hchange _ ih => exact ih (hchange.unset hunset)

end Lowering

/-! ## Bodies and their blocks -/

/-- The bodies of a listing, each with its code. -/
def Listing.bodies (listing : Listing) : List (BodyKind × List Leaf) :=
  (.main, Node.leavesOf listing.main) ::
    listing.functions.map fun (name, nodes) => (.function name, Node.leavesOf nodes)

namespace Lowering

variable [Interpreter] {predefined : Constants} {statements : List Located} {listing : Listing}
  {events : List Event} {kind : BodyKind} {colon : Bool} {before rest : List Statement}

omit [Interpreter] in
theorem mem_bodies_of_body? {nodes : List Node} (h : listing.body? kind = some nodes) :
    (kind, Node.leavesOf nodes) ∈ listing.bodies := by
  cases kind with
  | main =>
      cases h
      exact List.mem_cons_self ..
  | function name =>
      obtain ⟨first, second, hsplit, -⟩ := List.lookup_eq_some_iff.mp h
      refine List.mem_cons_of_mem _ (List.mem_map.mpr ⟨(name, nodes), ?_, rfl⟩)
      rw [hsplit]
      simp

/-- What follows on the head of a body is read in the body. -/
theorem accepts_of_lower (hlower : lower predefined statements = .ok (listing, events))
    (hsplit : statements.map Located.statement = before ++ .block kind.head colon :: rest) :
    (Shape.body []).Accepts rest := by
  obtain ⟨final, hrun, hconclude⟩ := lowers_of_lower hlower
  have hframes := (conclude_ok_iff.mp hconclude).1
  rw [hsplit] at hrun
  obtain ⟨first, hbefore, hrun⟩ := Lowers.append_iff.mp hrun
  obtain ⟨opened, hopen, hrun⟩ := Lowers.cons_iff.mp hrun
  obtain ⟨doubts, rfl⟩ := hopen.eq_of_head
  exact hrun.accepts hframes

/-- A body is lowered with the constants of the listing if the block of constants stands before it,
and without any if it does not. -/
theorem constantsAfter_eq (hlower : lower predefined statements = .ok (listing, events))
    (hsplit : statements.map Located.statement = before ++ .block kind.head colon :: rest) :
    constantsAfter predefined before =
      if .compile ∈ before.filterMap Statement.head? then listing.symbols.constants else [] := by
  obtain ⟨final, hrun, hconclude⟩ := lowers_of_lower hlower
  obtain ⟨-, -, main, hmain, rfl⟩ := conclude_ok_iff.mp hconclude
  rw [hsplit] at hrun
  obtain ⟨first, hbefore, hrun⟩ := Lowers.append_iff.mp hrun
  obtain ⟨opened, hopen, hrest⟩ := Lowers.cons_iff.mp hrun
  have hconstants : first.symbols.constants = constantsAfter predefined before :=
    hbefore.constants
  have hcompiled : first.compiled = true ↔ .compile ∈ before.filterMap Statement.head? :=
    (hbefore.opened .compile).trans (or_iff_right (State.not_opened_start _))
  obtain ⟨doubts, rfl⟩ := hopen.eq_of_head
  by_cases hmem : .compile ∈ before.filterMap Statement.head?
  · -- nothing can be defined in the body or after it
    have hsettled : ((first.closed.withEvents doubts).inBody ⟨kind, .empty, []⟩).Settled :=
      ⟨first.compiled_closed.trans (hcompiled.mpr hmem), by simp⟩
    have hfinal := hrest.settled hsettled
    rw [if_pos hmem, ← hconstants]
    simpa [State.withEvents, listingOf] using hfinal.symm
  · have hunset : first.Unset := hbefore.unset fun _ => ⟨rfl, by simp [State.start]⟩
    have hnew : first.compiled = false := by simpa [hmem] using hcompiled
    rw [if_neg hmem, ← hconstants, (hunset hnew).1]

/-- The head of a block did not occur before. -/
theorem head_notMem_of_lower (hlower : lower predefined statements = .ok (listing, events))
    (hsplit : statements.map Located.statement = before ++ .block kind.head colon :: rest) :
    kind.head ∉ before.filterMap Statement.head? := by
  obtain ⟨final, hrun, hconclude⟩ := lowers_of_lower hlower
  rw [hsplit] at hrun
  obtain ⟨first, hbefore, hrun⟩ := Lowers.append_iff.mp hrun
  obtain ⟨opened, hopen, hrun⟩ := Lowers.cons_iff.mp hrun
  intro hmem
  exact hopen.opened.1 _ rfl ((hbefore.opened _).mpr (.inr hmem))

/-- The names of the functions of a listing differ. -/
theorem nodup_functions_of_lower (hlower : lower predefined statements = .ok (listing, events)) :
    (listing.functions.map Prod.fst).Nodup := by
  obtain ⟨final, hrun, hconclude⟩ := lowers_of_lower hlower
  obtain ⟨-, -, main, hmain, rfl⟩ := conclude_ok_iff.mp hconclude
  have hsound := (hrun.sound State.Sound.start).closed
  have hnames : ((listingOf final.closed main).functions.map Prod.fst) =
      (final.closed.functions.map Prod.fst).reverse := by
    simp [listingOf, Function.comp_def]
  rw [hnames, List.nodup_reverse]
  exact hsound.functions_nodup

/-- No two bodies of a listing are of the same kind. -/
theorem nodup_kinds_of_lower (hlower : lower predefined statements = .ok (listing, events)) :
    (listing.bodies.map Prod.fst).Nodup := by
  have hfunctions : (listing.bodies.map Prod.fst).tail =
      (listing.functions.map Prod.fst).map BodyKind.function := by
    simp [Listing.bodies, Function.comp_def]
  have hnodup := (nodup_functions_of_lower hlower).map fun name name' h => BodyKind.function.inj h
  rw [← hfunctions] at hnodup
  exact List.nodup_cons.mpr ⟨by simp, hnodup⟩

/-- A body of a listing has the head of its block among the statements. -/
theorem head_mem_of_mem_bodies (hlower : lower predefined statements = .ok (listing, events))
    {code : List Leaf} (hmem : (kind, code) ∈ listing.bodies) :
    kind.head ∈ (statements.map Located.statement).filterMap Statement.head? := by
  obtain ⟨final, hrun, hconclude⟩ := lowers_of_lower hlower
  obtain ⟨-, -, main, hmain, rfl⟩ := conclude_ok_iff.mp hconclude
  have hfinished : (final.closed.finished? kind).isSome = true := by
    rcases List.mem_cons.mp hmem with heq | hmem
    · cases heq
      exact Option.isSome_iff_exists.mpr ⟨main, hmain⟩
    · obtain ⟨⟨name, nodes⟩, hfunction, heq⟩ := List.mem_map.mp hmem
      cases heq
      obtain ⟨⟨name', block⟩, hentry, heq⟩ := List.mem_map.mp hfunction
      cases heq
      rw [List.mem_reverse] at hentry
      simp only [State.finished?, Option.isSome_iff_ne_none, ne_eq, List.lookup_eq_none_iff]
      intro hnone
      simpa using hnone _ hentry
  rw [State.isSome_finished?_closed, ← State.opened_head, hrun.opened] at hfinished
  exact hfinished.resolve_left (State.not_opened_start _)

/-- A statement of a block stands in the flow of the body, whose code the listing has. -/
theorem listing_block_of_inner (hlower : lower predefined statements = .ok (listing, events))
    {inner after : List Statement} {statement : Statement}
    (hsplit : statements.map Located.statement =
      before ++ .block kind.head colon :: (inner ++ statement :: after))
    (hinner : inner.filterMap Statement.head? = []) (hstatement : statement.isInner = true) :
    ∃ (flow : Flow) (later rest : List Statement) (nodes : List Node) (first : State),
      flow.statements = inner ++ statement :: later ∧ after = later ++ rest ∧
        Lowers predefined .start before first ∧ listing.body? kind = some nodes ∧
        flow.IsSelected (selected (constantsAfter predefined before)) ∧
        Node.leavesOf nodes = flow.code (selected (constantsAfter predefined before)) kind.name
          (first.counters.count kind.name .branch) (first.counters.count kind.name .loop) := by
  obtain ⟨flow, later, rest, hflow, rfl, hends⟩ :=
    Shape.exists_flow_of_inner (accepts_of_lower hlower hsplit) hinner hstatement
  have hblock : statements.map Located.statement =
      before ++ .block kind.head colon :: (flow.statements ++ rest) := by
    rw [hsplit, hflow, List.append_assoc, List.cons_append]
  obtain ⟨nodes, first, hbefore, hnodes, hselected, hcode⟩ := listing_block hlower hblock hends
  exact ⟨flow, later, rest, nodes, first, hflow, rfl, hbefore, hnodes, hselected, hcode⟩

/-- Every body of a listing is the code of a block of the program. -/
theorem exists_block_of_mem_bodies (hlower : lower predefined statements = .ok (listing, events))
    {code : List Leaf} (hmem : (kind, code) ∈ listing.bodies) :
    ∃ before colon flow after first,
      statements.map Located.statement =
          before ++ .block kind.head colon :: (Flow.statements flow ++ after) ∧
        EndsBody after ∧ Lowers predefined .start before first ∧
        flow.IsSelected (selected (constantsAfter predefined before)) ∧
        code = flow.code (selected (constantsAfter predefined before)) kind.name
          (first.counters.count kind.name .branch) (first.counters.count kind.name .loop) := by
  obtain ⟨statement, hstatement, hhead⟩ :=
    List.mem_filterMap.mp (head_mem_of_mem_bodies hlower hmem)
  obtain ⟨head, colon⟩ | _ := statement <;> cases hhead
  obtain ⟨before, rest, hsplit⟩ := List.append_of_mem hstatement
  obtain ⟨flow, after, rfl, hends⟩ := exists_flow (accepts_of_lower hlower hsplit)
  obtain ⟨nodes, first, hbefore, hbody, hselected, hcode⟩ := listing_block hlower hsplit hends
  refine ⟨before, colon, flow, after, first, hsplit, hends, hbefore, hselected, ?_⟩
  -- it is the only code that the listing has for the body
  have hsame := List.inj_on_of_nodup_map (nodup_kinds_of_lower hlower) hmem
    (mem_bodies_of_body? hbody) rfl
  exact (congrArg Prod.snd hsame).trans hcode

end Lowering

end Shorthand
