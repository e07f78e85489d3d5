import Shorthand.Proofs.Lowering.Steps

/-!
# Runs of a lowering

A lowering that succeeds is a run of changes, one for each statement (`Lowers`), from the state
at the start to one that can be concluded.  The code of a body is kept from the moment on at
which the body is closed: no later change touches it, and it is what the listing has for the body
(`body?_listingOf`).
-/

namespace Shorthand

namespace Lowering

variable [Interpreter] {predefined : Constants} {state state' : State}

/-! ## Runs -/

/-- Changes one after the other, one for each statement. -/
inductive Lowers (predefined : Constants) : State → List Statement → State → Prop where
  | done (state : State) : Lowers predefined state [] state
  | step {state middle final : State} {statement : Statement} {rest : List Statement}
      (hchange : Change predefined state statement middle)
      (hrest : Lowers predefined middle rest final) :
      Lowers predefined state (statement :: rest) final

namespace Lowers

theorem append_iff {first second : List Statement} :
    Lowers predefined state (first ++ second) state' ↔
      ∃ middle, Lowers predefined state first middle ∧ Lowers predefined middle second state' := by
  induction first generalizing state with
  | nil =>
      constructor
      · intro h
        exact ⟨state, .done state, h⟩
      · rintro ⟨_, ⟨⟩, h⟩
        exact h
  | cons statement first ih =>
      constructor
      · rintro (_ | ⟨hchange, hrest⟩)
        obtain ⟨middle, hfirst, hsecond⟩ := ih.mp hrest
        exact ⟨middle, .step hchange hfirst, hsecond⟩
      · rintro ⟨middle, _ | ⟨hchange, hfirst⟩, hsecond⟩
        exact .step hchange (ih.mpr ⟨middle, hfirst, hsecond⟩)

theorem cons_iff {statement : Statement} {rest : List Statement} :
    Lowers predefined state (statement :: rest) state' ↔
      ∃ middle, Change predefined state statement middle ∧
        Lowers predefined middle rest state' := by
  constructor
  · rintro (_ | ⟨hchange, hrest⟩)
    exact ⟨_, hchange, hrest⟩
  · rintro ⟨middle, hchange, hrest⟩
    exact .step hchange hrest

theorem sound {statements : List Statement} (h : Lowers predefined state statements state')
    (hsound : state.Sound) : state'.Sound := by
  induction h with
  | done state => exact hsound
  | step hchange _ ih => exact ih (hsound.change hchange)

end Lowers

/-- Steps that succeed are a run. -/
theorem lowers_of_steps {statements : List Located} (hsound : state.Sound)
    (h : steps predefined state statements = .ok state') :
    Lowers predefined state (statements.map Located.statement) state' := by
  induction statements generalizing state with
  | nil =>
      cases h
      exact .done _
  | cons located rest ih =>
      unfold steps at h
      cases hstep : step predefined state located with
      | error stop =>
          rw [hstep] at h
          cases h
      | ok middle =>
          rw [hstep] at h
          have hchange := change_of_step hsound hstep
          exact .step hchange (ih (hsound.change hchange) h)

/-! ## Finished bodies -/

omit [Interpreter] in
/-- Closing the scope keeps the bodies that are finished. -/
theorem State.Sound.finished?_closed {kind : BodyKind} {block : Block} (hsound : state.Sound)
    (h : state.finished? kind = some block) : state.closed.finished? kind = some block := by
  rw [State.finished?_closed_of_ne, h]
  rintro body hscope rfl
  -- the body that is open is not finished yet
  rw [hsound.body_new body hscope] at h
  cases h

/-- No change touches the code of a finished body. -/
theorem Change.finished? {statement : Statement} {kind : BodyKind} {block : Block}
    (hchange : Change predefined state statement state') (hsound : state.Sound)
    (h : state.finished? kind = some block) : state'.finished? kind = some block := by
  have hclosed := hsound.finished?_closed h
  cases hchange with
  | compile hframes hnew hconstants => exact hclosed
  | body hframes hnew => exact hclosed
  | closeBlock hscope hframes => exact hclosed
  | const hscope hconstants hstate =>
      obtain ⟨defined, events, rfl⟩ := hstate
      exact h
  | branch | loop | otherwise | closeFrame | commentOutside | commentConstants | commentBody
  | reserve | simple => exact h

theorem Lowers.finished? {statements : List Statement} {kind : BodyKind} {block : Block}
    (hrun : Lowers predefined state statements state') (hsound : state.Sound)
    (h : state.finished? kind = some block) : state'.finished? kind = some block := by
  induction hrun with
  | done state => exact h
  | step hchange _ ih => exact ih (hsound.change hchange) (hchange.finished? hsound h)

/-! ## Conclusions -/

omit [Interpreter] in
/-- A state can be concluded exactly if no construct is open and there are constants and a
program proper. -/
theorem conclude_ok_iff {listing : Listing} :
    conclude state = .ok listing ↔
      state.scope.frames = [] ∧ state.compiled = true ∧
        ∃ main, state.closed.main? = some main ∧ listing = listingOf state.closed main := by
  by_cases hframes : state.scope.frames = []
  · simp only [conclude, closeScope_eq hframes, bind, Except.bind, State.compiled_closed]
    cases hcompiled : state.compiled with
    | false => simp [State.refuse]
    | true =>
        cases hmain : state.closed.main? with
        | none => simp [State.refuse]
        | some main => simp [hframes, pure, Except.pure, eq_comm]
  · obtain ⟨stop, hstop⟩ := closeScope_error hframes
    simp [conclude, hstop, hframes, bind, Except.bind]

/-- A lowering that succeeds is a run to a state that can be concluded. -/
theorem lowers_of_lower {statements : List Located} {listing : Listing} {events : List Event}
    (h : lower predefined statements = .ok (listing, events)) :
    ∃ state, Lowers predefined .start (statements.map Located.statement) state ∧
      conclude state = .ok listing := by
  unfold lower at h
  cases hsteps : steps predefined .start statements with
  | error interrupted =>
      rw [hsteps] at h
      cases h
  | ok state =>
      rw [hsteps] at h
      refine ⟨state, lowers_of_steps State.Sound.start hsteps, ?_⟩
      cases hlisting : conclude state with
      | error stop => simp [hlisting] at h
      | ok listing' =>
          simp only [hlisting, Except.ok.injEq, Prod.mk.injEq] at h
          rw [h.1]

end Lowering

/-! ## Bodies of a listing -/

/-- The code that a listing has for a body. -/
def Listing.body? (listing : Listing) : Lowering.BodyKind → Option (List Node)
  | .main => some listing.main
  | .function name => listing.functions.lookup name

namespace Lowering

private theorem lookup_reverse_map {functions : List (String × Block)} {name : String}
    {block : Block} (hnodup : (functions.map Prod.fst).Nodup)
    (h : functions.lookup name = some block) :
    (functions.reverse.map fun (name, block) => (name, block.close.nodes)).lookup name =
      some block.nodes := by
  obtain ⟨before, after, rfl, -⟩ := List.lookup_eq_some_iff.mp h
  refine List.lookup_eq_some_iff.mpr
    ⟨after.reverse.map fun (name, block) => (name, block.close.nodes),
      before.reverse.map fun (name, block) => (name, block.close.nodes), ?_, ?_⟩
  · simp [Block.close, Block.nodes]
  · -- no later entry has the name, for names do not repeat
    rw [List.map_append, List.map_cons, List.nodup_append, List.nodup_cons] at hnodup
    intro entry hentry
    obtain ⟨later, hlater, rfl⟩ := List.mem_map.mp hentry
    have hmem : later.1 ∈ after.map Prod.fst :=
      List.mem_map_of_mem (List.mem_reverse.mp hlater)
    rw [bne_iff_ne]
    rintro rfl
    exact hnodup.2.1.1 hmem

/-- The listing has the code of every finished body. -/
theorem body?_listingOf {kind : BodyKind} {block main : Block} (hsound : state.Sound)
    (hmain : state.main? = some main) (h : state.finished? kind = some block) :
    (listingOf state main).body? kind = some block.nodes := by
  cases kind with
  | main =>
      have hblock : state.main? = some block := h
      rw [hmain] at hblock
      cases hblock
      rfl
  | function name => exact lookup_reverse_map hsound.functions_nodup h

end Lowering

end Shorthand
