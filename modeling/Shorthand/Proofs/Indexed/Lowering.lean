import Shorthand.Proofs.Indexed.Generator
import Shorthand.Proofs.Lowering.Output
import Shorthand.Proofs.Lowering.Steps

/-!
# Lowering into shared containers is never trapped

A state of a lowering keeps the blocks of open constructs apart from the code around them; a
generator has them inside of it already.  `Mirrors` says how the two belong together: the cells of
the arena are the open constructs, each inside of the one around it, the globals and constants, and
the bodies that are finished.  The append point is the innermost of the constructs, or the body
itself.

A step of the generator is never trapped, and does what the step of the state does (`follows_step`):
the append point is there whenever it is used, every block is put into one place, and no block is
sealed before it is complete.  So a whole lowering is the same (`lower_follow`).
-/

namespace Shorthand.Indexed

open Attempt Lowering
open Arena (Cell)
open Generator (setupNumber mainNumber)

/-! ## Cells of a state -/

/-- A finished function, with the number of its container. -/
structure Finished where
  name : String
  number : Nat
  block : Block

namespace Finished

/-- The function as the generator knows it. -/
def entry (finished : Finished) : String × Nat := (finished.name, finished.number)

/-- The function as the state knows it. -/
def result (finished : Finished) : String × Block := (finished.name, finished.block)

/-- The cell of the function. -/
def cell (finished : Finished) : Cell := ⟨finished.number, finished.block.nodes, none⟩

end Finished

/-- The cell of the globals and the constants. -/
def setupCell (setup : Block) : Cell := ⟨setupNumber, setup.nodes, none⟩

/-- The cell of the program proper while it is not open. -/
def mainCell (main? : Option Block) : Cell := ⟨mainNumber, main?.elim [] Block.nodes, none⟩

/-- The open constructs of a body with the numbers of their containers, the innermost first. -/
abbrev Levels := List (Frame × Nat)

namespace Levels

/-- The constructs. -/
def frames (levels : Levels) : List Frame := levels.map Prod.fst

/-- The append point, in a body with the given container. -/
def top (root : Nat) : Levels → Nat
  | [] => root
  | (_, number) :: _ => number

/-- The constructs as the generator knows them. -/
def stack (root : Nat) : Levels → List Pending
  | [] => []
  | (frame, number) :: levels =>
      ⟨frame.opening, frame.number, number, some (top root levels)⟩ :: stack root levels

/-- The cells of a body, of which the innermost one has `inner?` at its end. -/
def cells (root : Nat) (outside : Block) (inner? : Option Nat) : Levels → List Cell
  | [] => [⟨root, outside.nodes, inner?⟩]
  | (frame, number) :: levels =>
      ⟨number, frame.block.nodes, inner?⟩ :: cells root outside (some number) levels

/-- The cells around the append point. -/
def around (root : Nat) (outside : Block) : Levels → List Cell
  | [] => []
  | (_, number) :: levels => cells root outside (some number) levels

theorem cells_eq (kind : BodyKind) (root : Nat) (outside : Block) (inner? : Option Nat)
    (levels : Levels) :
    levels.cells root outside inner? =
      ⟨levels.top root, (Body.current ⟨kind, outside, levels.frames⟩).nodes, inner?⟩ ::
        levels.around root outside := by
  cases levels <;> rfl

end Levels

/-- What is around a body that is open: its container, whether the program proper was opened, the
functions and the cells of the finished bodies. -/
inductive Opened : BodyKind → List Finished → Option Block → Nat → Bool →
    List (String × Nat) → List Cell → Prop where
  | main (finished : List Finished) :
      Opened .main finished none mainNumber true (finished.map Finished.entry)
        (finished.map Finished.cell)
  | function (name : String) (finished : List Finished) (main? : Option Block) (root : Nat) :
      Opened (.function name) finished main? root main?.isSome
        (finished.map Finished.entry ++ [(name, root)])
        (mainCell main? :: finished.map Finished.cell)

/-- The generator and the state belong together. -/
inductive Mirrors : Generator → State → Prop where
  | outside {facts : State} {arena : Arena} {name : String} {finished : List Finished}
      {setup : Block} {main? : Option Block} {scope : Scope} {scope? : Option BlockHead}
      (hscope : scope = .nothing ∧ scope? = none ∨ scope = .compile ∧ scope? = some .compile)
      (hholds : arena.Holds
        (setupCell setup :: mainCell main? :: finished.map Finished.cell)) :
      Mirrors
        ⟨facts, arena, main?.isSome, finished.map Finished.entry, [], scope?, name, none⟩
        (facts.withOutput ⟨setup, main?, (finished.map Finished.result).reverse, scope⟩)
  | body {facts : State} {arena : Arena} {finished : List Finished} {setup : Block}
      {main? : Option Block} {kind : BodyKind} {block : Block} {levels : Levels} {root : Nat}
      {mained : Bool} {functions : List (String × Nat)} {settled : List Cell}
      (hopened : Opened kind finished main? root mained functions settled)
      (hholds : arena.Holds (levels.cells root block none ++ setupCell setup :: settled)) :
      Mirrors
        ⟨facts, arena, mained, functions, levels.stack root, some kind.head, kind.name,
          some (levels.top root)⟩
        (facts.withOutput ⟨setup, main?, (finished.map Finished.result).reverse,
          .body ⟨kind, block, levels.frames⟩⟩)

/-- The generator does what the state does: both go on and belong together, or both stop with the
same problem. -/
inductive Follows {α β : Type} (R : α → β → Prop) : Attempt Stop α → Except Stop β → Prop where
  | ok {value : α} {result : β} (h : R value result) : Follows R (.ok value) (.ok result)
  | refused (problem : Problem) (events : List Event) :
      Follows R (.error ⟨.problem problem, events⟩) (.error ⟨.problem problem, events⟩)

theorem Follows.bind {α β γ δ : Type} {R : α → β → Prop} {S : γ → δ → Prop}
    {attempt : Attempt Stop α} {result : Except Stop β} {next : α → Attempt Stop γ}
    {rest : β → Except Stop δ} (h : Follows R attempt result)
    (hnext : ∀ value final, result = .ok final → R value final →
      Follows S (next value) (rest final)) :
    Follows S (attempt >>= next) (result >>= rest) := by
  cases h with
  | ok h => exact hnext _ _ rfl h
  | refused problem events => exact .refused problem events

theorem Follows.of_ok {α β : Type} {R : α → β → Prop} {attempt : Attempt Stop α} {result : β}
    (h : Follows R attempt (.ok result)) : ∃ value, attempt = .ok value ∧ R value result := by
  cases h with
  | ok h => exact ⟨_, rfl, h⟩

/-! ## Adding code -/

namespace Generator

section adding

variable (g : Generator) {number : Nat} {nodes : List Node} {cells : List Cell}

theorem addLeaves_holds (h : g.arena.Holds (⟨number, nodes, none⟩ :: cells)) (leaves : List Leaf) :
    ∃ arena, g.addLeaves number leaves = .ok { g with arena := arena } ∧
      arena.Holds (⟨number, nodes ++ Node.ofLeaves leaves, none⟩ :: cells) := by
  obtain ⟨arena, hadd, hholds⟩ := h.add_leaves leaves
  exact ⟨arena, by rw [addLeaves, add, hadd], hholds⟩

theorem nest_holds (hcurrent : g.current? = some number)
    (h : g.arena.Holds (⟨number, nodes, none⟩ :: cells)) (opening : Opening) (index : Nat) :
    ∃ arena inner, g.nest opening index = .ok { g with
        arena := arena, stack := ⟨opening, index, inner, some number⟩ :: g.stack,
        current? := some inner } ∧
      arena.Holds (⟨inner, [], none⟩ :: ⟨number, nodes, some inner⟩ :: cells) := by
  obtain ⟨arena, hadd, hholds⟩ := h.add_made .plain
  refine ⟨arena, _, ?_, hholds⟩
  simp only [nest, append, hcurrent, add, hadd, ok_bind, pure_eq]

theorem enter_holds (hcurrent : g.current? = some number)
    (h : g.arena.Holds (⟨number, nodes, none⟩ :: cells)) (opening : Opening) (index : Nat)
    (leaves : List Leaf) :
    ∃ arena inner, g.enter opening index leaves = .ok { g with
        arena := arena, stack := ⟨opening, index, inner, some number⟩ :: g.stack,
        current? := some inner } ∧
      arena.Holds
        (⟨inner, Node.ofLeaves leaves, none⟩ :: ⟨number, nodes, some inner⟩ :: cells) := by
  obtain ⟨arena, inner, hnest, hholds⟩ := nest_holds g hcurrent h opening index
  obtain ⟨arena', hadd, hholds'⟩ := hholds.add_leaves leaves
  refine ⟨arena', inner, ?_, hholds'⟩
  simp only [enter, hnest, ok_bind, appendLeaves, append, add, hadd]

theorem finish_holds {inner outer : Nat} {inside : List Node}
    (h : g.arena.Holds (⟨inner, inside, none⟩ :: ⟨outer, nodes, some inner⟩ :: cells))
    (opening : Opening) (index : Nat) (outer? : Option Nat) (stack : List Pending)
    (leaves : List Leaf) :
    ∃ arena, g.finish ⟨opening, index, inner, outer?⟩ stack leaves =
        .ok { g with arena := arena, stack := stack, current? := outer? } ∧
      arena.Holds (⟨outer, nodes ++ [.block (inside ++ Node.ofLeaves leaves)], none⟩ :: cells) := by
  obtain ⟨arena, hadd, hholds⟩ := h.add_leaves leaves
  refine ⟨arena.close inner, ?_, hholds.close⟩
  simp only [finish, addLeaves, add, hadd, ok_bind, pure_eq]

end adding

end Generator

/-! ## Constructs -/

section constructs

variable {facts : State} {arena : Arena} {finished : List Finished} {setup : Block}
  {main? : Option Block} {kind : BodyKind} {block : Block} {levels : Levels} {root : Nat}
  {mained : Bool} {functions : List (String × Nat)} {settled : List Cell}

-- Code that is added to a body goes to its first cell, and nothing else changes.
theorem mirrors_put {nodes : List Node}
    (hopened : Opened kind finished main? root mained functions settled)
    (hholds : arena.Holds
      (⟨levels.top root, (Body.current ⟨kind, block, levels.frames⟩).nodes ++ nodes, none⟩ ::
        (levels.around root block ++ setupCell setup :: settled))) :
    Mirrors
      ⟨facts, arena, mained, functions, levels.stack root, some kind.head, kind.name,
        some (levels.top root)⟩
      (facts.withOutput ⟨setup, main?, (finished.map Finished.result).reverse,
        .body (Body.put ⟨kind, block, levels.frames⟩ nodes)⟩) := by
  cases levels with
  | nil =>
      refine @Mirrors.body _ _ _ _ _ _ (block.put nodes) [] _ _ _ _ hopened ?_
      rw [Levels.cells, Block.nodes_put]
      exact hholds
  | cons level levels =>
      obtain ⟨frame, number⟩ := level
      refine @Mirrors.body _ _ _ _ _ _ block
        (({ frame with block := frame.block.put nodes }, number) :: levels) _ _ _ _ hopened ?_
      rw [Levels.cells, Block.nodes_put]
      exact hholds

-- A construct that is opened becomes the first cell.
theorem mirrors_enter {opening : Opening} {number inner : Nat} {leaves : List Leaf}
    (hopened : Opened kind finished main? root mained functions settled)
    (hholds : arena.Holds
      (⟨inner, Node.ofLeaves leaves, none⟩ ::
        ⟨levels.top root, (Body.current ⟨kind, block, levels.frames⟩).nodes, some inner⟩ ::
        (levels.around root block ++ setupCell setup :: settled))) :
    Mirrors
      ⟨facts, arena, mained, functions,
        ⟨opening, number, inner, some (levels.top root)⟩ :: levels.stack root, some kind.head,
        kind.name, some inner⟩
      (facts.withOutput ⟨setup, main?, (finished.map Finished.result).reverse,
        .body (Body.enter ⟨kind, block, levels.frames⟩ (.start opening number leaves))⟩) := by
  refine @Mirrors.body _ _ _ _ _ _ block ((.start opening number leaves, inner) :: levels)
    _ _ _ _ hopened ?_
  rw [Levels.cells, Levels.cells_eq kind]
  simpa [Frame.start, Block.nodes, Block.put, Block.empty] using hholds

theorem follows_enter {opening : Opening} {number : Nat} {leaves : List Leaf}
    (hopened : Opened kind finished main? root mained functions settled)
    (hholds : arena.Holds (levels.cells root block none ++ setupCell setup :: settled)) :
    Follows Mirrors
      (Generator.enter
        ⟨facts, arena, mained, functions, levels.stack root, some kind.head, kind.name,
          some (levels.top root)⟩ opening number leaves)
      (.ok (facts.withOutput ⟨setup, main?, (finished.map Finished.result).reverse,
        .body (Body.enter ⟨kind, block, levels.frames⟩ (.start opening number leaves))⟩)) := by
  rw [Levels.cells_eq kind] at hholds
  obtain ⟨arena', inner, henter, hholds'⟩ := Generator.enter_holds
    ⟨facts, arena, mained, functions, levels.stack root, some kind.head, kind.name,
      some (levels.top root)⟩ rfl hholds opening number leaves
  rw [henter]
  exact .ok (mirrors_enter hopened hholds')

theorem follows_finish {frame : Frame} {number : Nat}
    (hopened : Opened kind finished main? root mained functions settled)
    (hholds : arena.Holds
      (Levels.cells root block none ((frame, number) :: levels) ++ setupCell setup :: settled))
    (leaves : List Leaf) :
    Follows Mirrors
      (Generator.finish
        ⟨facts, arena, mained, functions, Levels.stack root ((frame, number) :: levels),
          some kind.head, kind.name, some number⟩
        ⟨frame.opening, frame.number, number, some (levels.top root)⟩ (levels.stack root) leaves)
      (.ok (facts.withOutput ⟨setup, main?, (finished.map Finished.result).reverse,
        .body (Body.leave ⟨kind, block, Levels.frames ((frame, number) :: levels)⟩ frame
          levels.frames leaves)⟩)) := by
  rw [Levels.cells, Levels.cells_eq kind] at hholds
  obtain ⟨arena', hfinish, hholds'⟩ := Generator.finish_holds
    ⟨facts, arena, mained, functions, Levels.stack root ((frame, number) :: levels),
      some kind.head, kind.name, some number⟩
    hholds frame.opening frame.number (some (levels.top root)) (levels.stack root) leaves
  rw [hfinish]
  exact .ok (mirrors_put hopened hholds')

theorem follows_addLeaves (hopened : Opened kind finished main? root mained functions settled)
    (hholds : arena.Holds (levels.cells root block none ++ setupCell setup :: settled))
    (leaves : List Leaf) :
    Follows Mirrors
      (Generator.addLeaves
        ⟨facts, arena, mained, functions, levels.stack root, some kind.head, kind.name,
          some (levels.top root)⟩ (levels.top root) leaves)
      (.ok (facts.withOutput ⟨setup, main?, (finished.map Finished.result).reverse,
        .body (Body.put ⟨kind, block, levels.frames⟩ (Node.ofLeaves leaves))⟩)) := by
  rw [Levels.cells_eq kind] at hholds
  obtain ⟨arena', hadd, hholds'⟩ := Generator.addLeaves_holds
    ⟨facts, arena, mained, functions, levels.stack root, some kind.head, kind.name,
      some (levels.top root)⟩ hholds leaves
  rw [hadd]
  exact .ok (mirrors_put hopened hholds')

theorem follows_addSetup {scope : Scope} {scope? : Option BlockHead} {name : String}
    (hscope : scope = .nothing ∧ scope? = none ∨ scope = .compile ∧ scope? = some .compile)
    (hholds : arena.Holds (setupCell setup :: mainCell main? :: finished.map Finished.cell))
    (leaves : List Leaf) :
    Follows Mirrors
      (Generator.addLeaves
        ⟨facts, arena, main?.isSome, finished.map Finished.entry, [], scope?, name, none⟩
        setupNumber leaves)
      (.ok (facts.withOutput ⟨setup.put (Node.ofLeaves leaves), main?,
        (finished.map Finished.result).reverse, scope⟩)) := by
  obtain ⟨arena', hadd, hholds'⟩ := Generator.addLeaves_holds
    ⟨facts, arena, main?.isSome, finished.map Finished.entry, [], scope?, name, none⟩
    hholds leaves
  rw [hadd]
  refine .ok (.outside hscope ?_)
  rw [setupCell, Block.nodes_put]
  exact hholds'

end constructs

section steps

variable {g : Generator} {state : State}

theorem follows_openBranch (h : Mirrors g state) (hsound : state.Sound) (cond : Condition) :
    Follows Mirrors (g.openBranch cond) (Lowering.openBranch state cond) := by
  cases h with
  | outside hscope hholds => rcases hscope with ⟨rfl, rfl⟩ | ⟨rfl, rfl⟩ <;> exact .refused _ _
  | body hopened hholds =>
      rw [openBranch_eq rfl (hsound.body_open _ rfl)]
      exact follows_enter hopened hholds

theorem follows_openLoop (h : Mirrors g state) (hsound : state.Sound) (cond? : Option Condition) :
    Follows Mirrors (g.openLoop cond?) (Lowering.openLoop state cond?) := by
  cases h with
  | outside hscope hholds => rcases hscope with ⟨rfl, rfl⟩ | ⟨rfl, rfl⟩ <;> exact .refused _ _
  | body hopened hholds =>
      rw [openLoop_eq rfl (hsound.body_open _ rfl)]
      cases cond? <;> exact follows_enter hopened hholds

theorem follows_nest {body : Body} (h : Mirrors g state) (hscope : state.scope = .body body)
    (opening : Opening) (number : Nat) :
    Follows Mirrors (g.nest opening number)
      (.ok (state.inBody (body.enter (.start opening number [])))) := by
  cases h with
  | outside houtside hholds =>
      rcases houtside with ⟨rfl, rfl⟩ | ⟨rfl, rfl⟩ <;> cases hscope
  | @body facts arena finished setup main? kind block levels root mained functions settled hopened
      hholds =>
      cases hscope
      rw [Levels.cells_eq kind] at hholds
      obtain ⟨arena', inner, hnest, hholds'⟩ := Generator.nest_holds
        ⟨facts, arena, mained, functions, levels.stack root, some kind.head, kind.name,
          some (levels.top root)⟩ rfl hholds opening number
      rw [hnest]
      exact .ok (mirrors_enter hopened hholds')

theorem follows_openAlternative (h : Mirrors g state) (hsound : state.Sound) :
    Follows Mirrors g.openAlternative (Lowering.openAlternative state) := by
  cases h with
  | outside hscope hholds => rcases hscope with ⟨rfl, rfl⟩ | ⟨rfl, rfl⟩ <;> exact .refused _ _
  | @body facts _ _ _ _ kind _ levels _ _ _ _ hopened hholds =>
      rcases levels with _ | ⟨⟨⟨opening, index, inside⟩, number⟩, levels⟩
      · exact .refused _ _
      cases opening with
      | branch =>
          let frame : Frame := ⟨.branch, index, inside⟩
          obtain ⟨g', hfinish, hmirrors⟩ := (@follows_finish facts _ _ _ _ _ _ _ _ _ _ _ frame _
            hopened hholds (turningLeaves kind.name frame)).of_ok
          have hopen := hsound.body_open _ rfl
          rw [openAlternative_eq rfl hopen rfl rfl]
          have hturn := follows_nest hmirrors rfl .alternative index
          rw [← ok_bind g' fun g => g.nest .alternative index, ← hfinish] at hturn
          exact hturn
      | alternative => exact .refused _ _
      | loop cond => exact .refused _ _
      | endless => exact .refused _ _

theorem follows_close (h : Mirrors g state) :
    Follows Mirrors g.close (closeScope state) := by
  cases h with
  | outside hscope hholds =>
      rcases hscope with ⟨rfl, rfl⟩ | ⟨rfl, rfl⟩ <;> exact .ok (.outside (.inl ⟨rfl, rfl⟩) hholds)
  | @body facts arena finished setup main? kind block levels root _ _ _ hopened hholds =>
      rcases levels with _ | ⟨level, levels⟩
      swap
      · exact .refused _ _
      cases hopened with
      | main =>
          refine .ok (@Mirrors.outside _ _ _ _ _ (some block) _ _ (.inl ⟨rfl, rfl⟩) ?_)
          exact hholds.perm (.swap ..)
      | function name =>
          let function : Finished := ⟨name, root, block⟩
          have hentries : finished.map Finished.entry ++ [(name, root)] =
              (finished ++ [function]).map Finished.entry := by simp [Finished.entry, function]
          have hresults : (name, block) :: (finished.map Finished.result).reverse =
              ((finished ++ [function]).map Finished.result).reverse := by
            simp [Finished.result, function]
          have hcells : arena.Holds (setupCell setup :: mainCell main? ::
              (finished ++ [function]).map Finished.cell) := by
            rw [List.map_append]
            exact hholds.perm List.perm_append_comm
          have hclosed := @Mirrors.outside facts _ "" _ _ _ _ _ (.inl ⟨rfl, rfl⟩) hcells
          rw [← hentries, ← hresults] at hclosed
          exact .ok hclosed

theorem follows_closeInnermost (h : Mirrors g state) (hsound : state.Sound) :
    Follows Mirrors g.closeInnermost (Lowering.closeInnermost state) := by
  have hclose := follows_close h
  cases h with
  | outside hscope hholds =>
      rcases hscope with ⟨rfl, rfl⟩ | ⟨rfl, rfl⟩
      · exact .refused _ _
      · exact hclose
  | @body facts _ _ _ _ kind _ levels _ _ _ _ hopened hholds =>
      rcases levels with _ | ⟨⟨frame, number⟩, levels⟩
      · exact hclose
      · rw [closeInnermost_frame_eq rfl (hsound.body_open _ rfl) rfl]
        exact follows_finish hopened hholds _

theorem follows_comment (h : Mirrors g state) (hsound : state.Sound) (text : String) :
    Follows Mirrors (g.comment text) (addComment state text) := by
  cases h with
  | outside hscope hholds =>
      rcases hscope with ⟨rfl, rfl⟩ | ⟨rfl, rfl⟩
      · exact .ok (.outside (.inl ⟨rfl, rfl⟩) hholds)
      · change Follows Mirrors _ (State.addSetup _ [.comment text])
        rw [addSetup_eq hsound.setup_open]
        exact follows_addSetup (.inr ⟨rfl, rfl⟩) hholds _
  | body hopened hholds =>
      change Follows Mirrors _ (State.addTo _ _ [.comment text])
      rw [addTo_eq _ (hsound.body_open _ rfl)]
      exact follows_addLeaves hopened hholds _

/-! ## Constants -/

theorem isSingle_eq (text : String) :
    Generator.isSingle text = .ok (isSingleExpression text) := by
  rw [Generator.isSingle, lex_eq, ok_bind, isSingleExpression]
  match (Shorthand.lex text).tokens with
  | [] => rfl
  | [tok] => rfl
  | first :: second :: rest =>
      have hlength : ((first :: second :: rest).length == 1) = false := by simp
      rw [hlength]
      rfl

theorem follows_permit {α β : Type} {result : Except Stop α} (h : Faultless result)
    (carry : α → β) :
    Follows (fun value final => final = carry value) (Generator.permit result)
      (result.map carry) := by
  cases h with
  | ok value => exact .ok rfl
  | refused problem events => exact .refused problem events

theorem follows_constant [Interpreter] (h : Mirrors g state) (hsetup : state.setup.isSealed = false)
    (hscope : ∀ body, state.scope ≠ .body body) (name value : String) :
    Follows Mirrors (g.constant name value) (defineConstant state name value) := by
  cases h with
  | body hopened hholds => exact absurd rfl (hscope _)
  | @outside facts arena label finished setup main? scope scope? houtside hholds =>
      let output : Output := ⟨setup, main?, (finished.map Finished.result).reverse, scope⟩
      have hdefine : ∀ text (facts : State), Follows Mirrors
          (Generator.addLeaves
            ⟨{ facts with symbols := facts.symbols.setConstant name text }, arena, main?.isSome,
              finished.map Finished.entry, [], scope?, label, none⟩
            setupNumber [.instr ".equ" [name, text]])
          (do
            let state ← (facts.withOutput output).addSetup [.instr ".equ" [name, text]]
            return { state with symbols := state.symbols.setConstant name text }) := by
        intro text facts
        have hopen : (facts.withOutput output).setup.isSealed = false := hsetup
        rw [addSetup_eq hopen]
        exact follows_addSetup houtside hholds _
      unfold Generator.constant defineConstant
      rw [isSingle_eq, ok_bind]
      by_cases hsingle : isSingleExpression value = true
      · simp only [hsingle, if_true, expression_withOutput]
        refine (follows_permit (expression_faultless facts value) output.carry).bind ?_
        rintro ⟨text, facts'⟩ _ _ rfl
        exact hdefine text facts'
      · simp only [hsingle]
        exact hdefine value facts

theorem follows_constants [Interpreter] (h : Mirrors g state)
    (hsetup : state.setup.isSealed = false)
    (hscope : state.scope = .nothing) (defined : List (String × String)) :
    Follows (fun g final => Mirrors g final ∧ final.scope = .nothing) (g.constants defined)
      (defineConstants state defined) := by
  induction defined generalizing g state with
  | nil => exact .ok ⟨h, hscope⟩
  | cons entry defined ih =>
      refine (follows_constant h hsetup (by simp [hscope]) entry.1 entry.2).bind ?_
      intro g' final hfinal hmirrors
      obtain ⟨constants, _, first, events, rfl⟩ :=
        (defineConstant_agrees hsetup entry.1 entry.2).of_ok hfinal
      exact ih hmirrors hsetup hscope

/-! ## Blocks -/

theorem follows_openCompile [Interpreter] (h : Mirrors g state)
    (hsetup : state.setup.isSealed = false)
    (hscope : state.scope = .nothing) (predefined : List (String × String)) :
    Follows Mirrors (g.openCompile predefined) (Lowering.openCompile predefined state) := by
  cases h with
  | body hopened hholds => cases hscope
  | @outside facts arena _ finished setup main? scope scope? houtside hholds =>
      obtain rfl : scope = .nothing := hscope
      have hsame : (facts.withOutput ⟨setup, main?, (finished.map Finished.result).reverse,
          .nothing⟩).compiled = facts.compiled := rfl
      unfold Generator.openCompile Lowering.openCompile
      rw [hsame]
      by_cases hcompiled : facts.compiled = true
      · rw [if_pos hcompiled, if_pos hcompiled]
        exact .refused _ _
      rw [if_neg hcompiled, if_neg hcompiled]
      have hmirrors := @Mirrors.outside { facts with compiled := true } _ "compile" _ _ _ _ _
        houtside hholds
      refine (follows_constants hmirrors hsetup rfl predefined).bind ?_
      rintro g' final _ ⟨hfinal, hnothing⟩
      cases hfinal with
      | body hopened hholds => cases hnothing
      | outside houtside hholds => exact .ok (.outside (.inr ⟨rfl, rfl⟩) hholds)

theorem follows_openMain (h : Mirrors g state) (hscope : state.scope = .nothing) (place : Place)
    (colon : Bool) :
    Follows Mirrors (g.openMain place colon) (Lowering.openMain place colon state) := by
  cases h with
  | body hopened hholds => cases hscope
  | @outside facts arena _ finished setup main? scope scope? houtside hholds =>
      cases main? with
      | some main => exact .refused _ _
      | none => exact .ok (@Mirrors.body _ _ _ _ _ _ .empty [] _ _ _ _ (.main finished)
          (hholds.perm (.swap ..)))

theorem follows_openFunction (h : Mirrors g state) (hscope : state.scope = .nothing)
    (name : String) :
    Follows Mirrors (g.openFunction name) (Lowering.openFunction name state) := by
  cases h with
  | body hopened hholds => cases hscope
  | @outside facts arena _ finished setup main? scope scope? houtside hholds =>
      have hlookup : ((finished.map Finished.entry).lookup name).isSome =
          ((finished.map Finished.result).reverse.lookup name).isSome := by
        rw [Bool.eq_iff_iff, Option.isSome_iff_ne_none, Option.isSome_iff_ne_none, ne_eq, ne_eq,
          List.lookup_eq_none_iff, List.lookup_eq_none_iff]
        simp [Finished.entry, Finished.result]
      have hsame : (facts.withOutput ⟨setup, main?, (finished.map Finished.result).reverse,
          scope⟩).functions = (finished.map Finished.result).reverse := rfl
      unfold Generator.openFunction Lowering.openFunction
      rw [hsame, ← hlookup]
      by_cases hknown : ((finished.map Finished.entry).lookup name).isSome = true
      · rw [if_pos hknown, if_pos hknown]
        exact .refused _ _
      · rw [if_neg hknown, if_neg hknown]
        exact .ok (@Mirrors.body _ _ _ _ _ _ .empty [] _ _ _ _ (.function name finished main? _)
          (hholds.make _))

theorem eq_closed_of_closeScope {final : State} (h : closeScope state = .ok final) :
    final = state.closed := by
  by_cases hframes : state.scope.frames = []
  · exact Except.ok.inj (h.symm.trans (closeScope_eq hframes))
  · obtain ⟨stop, hstop⟩ := closeScope_error hframes
    cases hstop.symm.trans h

theorem follows_openBlock [Interpreter] (h : Mirrors g state) (hsound : state.Sound)
    (predefined : List (String × String)) (place : Place) (head : BlockHead) (colon : Bool) :
    Follows Mirrors (g.openBlock predefined place head colon)
      (Lowering.openBlock predefined place state head colon) := by
  refine (follows_close h).bind ?_
  intro g' final hfinal hmirrors
  obtain rfl := eq_closed_of_closeScope hfinal
  have hscope := State.scope_closed state
  cases head with
  | compile => exact follows_openCompile hmirrors hsound.closed.setup_open hscope predefined
  | main => exact follows_openMain hmirrors hscope place colon
  | function name => exact follows_openFunction hmirrors hscope name

/-! ## Statements -/

theorem follows_declare [Interpreter] (h : Mirrors g state) (hsound : state.Sound)
    (declaration : Declaration) :
    Follows Mirrors (g.declare declaration) (Lowering.declare state declaration) := by
  by_cases hvariable : declaration.isVariable = true
  · -- a variable changes what is not code, whatever the code is
    obtain ⟨output, hstate, hmirrors⟩ : ∃ output, state = g.facts.withOutput output ∧
        ∀ facts, Mirrors { g with facts := facts } (facts.withOutput output) := by
      cases h with
      | outside hscope hholds => exact ⟨_, rfl, fun _ => .outside hscope hholds⟩
      | body hopened hholds => exact ⟨_, rfl, fun _ => .body hopened hholds⟩
    have hdeclare : g.declare declaration = do
        return { g with facts := ← Generator.permit (Lowering.declare g.facts declaration) } := by
      cases declaration with
      | const name value => cases hvariable
      | _ => rfl
    rw [hdeclare, hstate, declare_withOutput g.facts output hvariable]
    have hfaultless := declare_faultless g.facts hvariable
    generalize Lowering.declare g.facts declaration = result at hfaultless ⊢
    cases hfaultless with
    | ok facts => exact .ok (hmirrors facts)
    | refused problem events => exact .refused problem events
  · cases declaration with
    | const name value =>
        have hconstant := follows_constant h hsound.setup_open
        cases h with
        | outside hscope hholds =>
            rcases hscope with ⟨rfl, rfl⟩ | ⟨rfl, rfl⟩
            · exact .refused _ _
            · exact hconstant nofun name value
        | body hopened hholds => cases hopened <;> exact .refused _ _
    | _ => exact absurd rfl hvariable

theorem follows_instruction [Interpreter] (h : Mirrors g state) (hsound : state.Sound)
    {statement : Statement} (hsimple : statement.isSimple = true) :
    Follows Mirrors (g.instruction statement) (addInstruction state statement) := by
  cases h with
  | outside hscope hholds => rcases hscope with ⟨rfl, rfl⟩ | ⟨rfl, rfl⟩ <;> exact .refused _ _
  | @body facts arena finished setup main? kind block levels root mained functions settled hopened
      hholds =>
      let output : Output := ⟨setup, main?, (finished.map Finished.result).reverse,
        .body ⟨kind, block, levels.frames⟩⟩
      have hopen := hsound.body_open _ rfl
      change Follows Mirrors _
        (Lowering.instruction (facts.withOutput output) statement >>= fun entry =>
          entry.2.addTo ⟨kind, block, levels.frames⟩ [entry.1])
      rw [instruction_withOutput]
      refine (follows_permit (instruction_faultless facts hsimple) output.carry).bind ?_
      rintro ⟨leaf, facts'⟩ _ _ rfl
      change Follows Mirrors _ ((facts'.withOutput output).addTo _ [leaf])
      rw [addTo_eq _ hopen]
      exact follows_addLeaves hopened hholds [leaf]

theorem follows_step [Interpreter] (h : Mirrors g state) (hsound : state.Sound)
    (predefined : List (String × String)) (located : Located) :
    Follows Mirrors (g.step predefined located) (Lowering.step predefined state located) := by
  obtain ⟨place, statement⟩ := located
  cases statement with
  | block head colon => exact follows_openBlock h hsound predefined place head colon
  | branch cond => exact follows_openBranch h hsound cond
  | otherwise => exact follows_openAlternative h hsound
  | loop cond? => exact follows_openLoop h hsound cond?
  | close => exact follows_closeInnermost h hsound
  | comment text => exact follows_comment h hsound text
  | declare declaration => exact follows_declare h hsound declaration
  | _ => exact follows_instruction h hsound rfl

-- When all containers are sealed, what is in them are the nodes of the blocks.
theorem nodes_closeAll {arena closed : Arena} {finished : List Finished} {setup main : Block}
    (hholds : arena.Holds (setupCell setup :: mainCell (some main) :: finished.map Finished.cell))
    (hclosed : closed = arena.closeAll
      (setupNumber :: mainNumber :: (finished.map Finished.entry).map Prod.snd)) :
    closed.nodes setupNumber = setup.nodes ∧ closed.nodes mainNumber = main.nodes ∧
      ((finished.map Finished.entry).map fun (name, number) => (name, closed.nodes number)) =
        (finished.map Finished.result).map fun (name, block) => (name, block.nodes) := by
  have hflat : ∀ cell ∈ setupCell setup :: mainCell (some main) :: finished.map Finished.cell,
      cell.inner? = none := by
    simp [setupCell, mainCell, Finished.cell]
  have hnumbers : setupNumber :: mainNumber :: (finished.map Finished.entry).map Prod.snd =
      (setupCell setup :: mainCell (some main) :: finished.map Finished.cell).map Cell.number := by
    simp [setupCell, mainCell, Finished.cell, Finished.entry]
  have hkeeps := (hholds.closeAll hflat).2
  rw [← hnumbers, ← hclosed] at hkeeps
  refine ⟨(hkeeps (setupCell setup) (by simp)).nodes_eq,
    (hkeeps (mainCell (some main)) (by simp)).nodes_eq, ?_⟩
  rw [List.map_map, List.map_map]
  refine List.map_congr_left fun function hfunction => congrArg (Prod.mk function.name) ?_
  exact (hkeeps function.cell (by simpa using .inr (.inr ⟨function, hfunction, rfl⟩))).nodes_eq

theorem follows_conclude (h : Mirrors g state) :
    Follows (fun listing final => listing = final) g.conclude (Lowering.conclude state) := by
  refine (follows_close h).bind ?_
  intro g' final hfinal hmirrors
  have hscope : final.scope = .nothing := by
    rw [eq_closed_of_closeScope hfinal, State.scope_closed]
  cases hmirrors with
  | body hopened hholds => cases hscope
  | @outside facts arena _ finished setup main? scope scope? houtside hholds =>
      have hsame : (facts.withOutput ⟨setup, main?, (finished.map Finished.result).reverse,
          scope⟩).compiled = facts.compiled := rfl
      rw [hsame]
      cases facts.compiled with
      | false => exact .refused _ _
      | true =>
          cases main? with
          | none => exact .refused _ _
          | some main =>
              obtain ⟨hsetup, hmain, hfunctions⟩ := nodes_closeAll hholds rfl
              refine .ok ?_
              simp only [listingOf, Listing.mk.injEq]
              refine ⟨rfl, hsetup, hmain, ?_, rfl, rfl⟩
              change _ = ((finished.map Finished.result).reverse).reverse.map _
              rw [List.reverse_reverse]
              exact hfunctions

end steps

/-! ## Runs -/

theorem mirrors_start : ∃ g, Generator.start = .ok g ∧ Mirrors g .start := by
  have hempty : Arena.empty.Holds [] := ⟨List.nodup_nil, nofun⟩
  have hholds := ((hempty.make .plain).make .main).perm (.swap ..)
  exact (@follows_addSetup .start _ [] .empty none .nothing none "" (.inl ⟨rfl, rfl⟩) hholds
    [.instr ".global" [startLabel]]).of_ok

theorem steps_follow [Interpreter] (predefined : List (String × String)) (statements : List Located)
    {g : Generator} {state : State} (h : Mirrors g state) (hsound : state.Sound) :
    (∃ g' final, steps predefined g statements = .ok g' ∧
      Lowering.steps predefined state statements = .ok final ∧ Mirrors g' final) ∨
    ∃ problem place? events,
      steps predefined g statements = .error ⟨.problem problem, place?, events⟩ ∧
      Lowering.steps predefined state statements = .error ⟨.problem problem, place?, events⟩ := by
  induction statements generalizing g state with
  | nil => exact .inl ⟨g, state, rfl, rfl, h⟩
  | cons located rest ih =>
      have hstep := follows_step h hsound predefined located
      have hnext : ∀ final, Lowering.step predefined state located = .ok final → final.Sound :=
        fun final hfinal => hsound.change (change_of_step hsound hfinal)
      rw [steps, Lowering.steps]
      generalize g.step predefined located = attempt at hstep ⊢
      generalize Lowering.step predefined state located = result at hstep hnext ⊢
      cases hstep with
      | ok hmirrors => exact ih hmirrors (hnext _ rfl)
      | refused problem events => exact .inr ⟨problem, some located.place, events, rfl, rfl⟩

/-- A lowering into shared containers ends as a lowering does: with the same listing and the same
events, or with the same problem.  In particular it is not trapped, and a lowering commits no
fault. -/
theorem lower_follow [Interpreter] (predefined : List (String × String))
    (statements : List Located) :
    (∃ result, lower predefined statements = .ok result ∧
      Lowering.lower predefined statements = .ok result) ∨
    ∃ problem place? events,
      lower predefined statements = .error ⟨.problem problem, place?, events⟩ ∧
      Lowering.lower predefined statements = .error ⟨.problem problem, place?, events⟩ := by
  obtain ⟨g, hstart, hmirrors⟩ := mirrors_start
  rw [lower, hstart, Lowering.lower]
  simp only [interrupt, ok_bind]
  rcases steps_follow predefined statements hmirrors .start with
    ⟨g', final, hsteps, hstate, hmirrors'⟩ | ⟨problem, place?, events, hsteps, hstate⟩
  · have hevents : g'.facts.events = final.events := by cases hmirrors' <;> rfl
    have hconclude := follows_conclude hmirrors'
    rw [hsteps, hstate, ok_bind]
    generalize g'.conclude = attempt at hconclude ⊢
    dsimp only
    generalize Lowering.conclude final = result at hconclude ⊢
    cases hconclude with
    | ok hlisting => exact .inl ⟨_, by rw [hlisting, hevents]; rfl, rfl⟩
    | refused problem events => exact .inr ⟨problem, none, events, rfl, rfl⟩
  · rw [hsteps, hstate]
    exact .inr ⟨problem, place?, events, rfl, rfl⟩

end Shorthand.Indexed
