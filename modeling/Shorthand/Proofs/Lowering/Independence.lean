import Shorthand.Expression.Execute
import Shorthand.Proofs.Listing.Lines
import Shorthand.Proofs.Lowering.Numbering

/-!
# Bodies do not depend on each other

All bodies of a program are lowered with one state, which goes from one to the next.  Nothing of it
that a body leaves behind shows in the code of another: labels are numbered for each body apart,
what is being filled is new for each body, and variables are not looked at.  Only the constants are
shared, and of them only what each name stands for.

So a block with the same statements becomes the same lines in two programs that end with the same
constants, whatever else the programs hold (`bodyLines?_eq_of_same_block`).  The block of constants
has to stand before the block, and the name of the body has to be its own: the program proper and a
function `main` would number their labels together, in the order in which the two stand
(`bodyLines?_ne_of_namesake`).  In what the parser gives the name is always its own
(`BodyKind.hasOwnName_of_mem_parse`), because `main` is a keyword.
-/

namespace Shorthand

open Lowering Machine

namespace Lowering

/-! ## What is selected with the same constants -/

section congr

variable [Interpreter] {constants constants' : Constants}
  (hsame : ∀ name, constants.lookup name = constants'.lookup name)

include hsame

/-- An expression has the same value wherever the names of the constants stand for the same. -/
theorem valueOf?_congr (text : String) : valueOf? constants text = valueOf? constants' text := by
  have hknown : known? constants = known? constants' :=
    funext fun name => congrArg (Option.bind · Text.Integer.signed?) (hsame name)
  rw [valueOf?, valueOf?, hknown]

theorem immediateText?_congr (imm : Immediate) :
    immediateText? constants imm = immediateText? constants' imm := by
  cases imm with
  | expr text => simp only [immediateText?, expressionText?, valueOf?_congr hsame]
  | number text | char text | name text => rfl

/-- The instruction of a statement depends on what the names of the constants stand for. -/
theorem selected_congr (statement : Statement) :
    selected constants statement = selected constants' statement := by
  have himmediate := immediateText?_congr hsame
  cases statement with
  | load dst cast base offset => simp only [selected, himmediate]
  | loadImmediate dst value => simp only [selected, himmediate]
  | loadName dst name cast? => simp only [selected, hsame name]
  | operate dst src op rhs => cases rhs <;> simp only [selected, operationOf?, himmediate]
  | store cast src target => cases target <;> simp only [selected, himmediate]
  | _ => rfl

end congr

/-! ## The code of a block -/

/-- No other body that is begun with one of the heads has the name of this one.  Labels are numbered
for each name apart, and the program proper and a function `main` would share theirs. -/
def BodyKind.HasOwnName (kind : BodyKind) (heads : List BlockHead) : Prop :=
  ∀ kind' : BodyKind, kind'.head ∈ heads → kind'.name = kind.name → kind' = kind

theorem BodyKind.hasOwnName_function {name : String} (hname : name ≠ "main")
    (heads : List BlockHead) : (function name).HasOwnName heads := by
  intro kind' _ hsame
  cases kind' with
  | main => exact absurd hsame.symm hname
  | function name' => exact congrArg function hsame

/-- In what the parser gives, the name of every body is its own: `main` is a keyword, and no
function is called like one. -/
theorem BodyKind.hasOwnName_of_mem_parse {handlers : List Handler} {source : Source}
    {kind : BodyKind}
    (hkind : kind.head ∈
      ((parse handlers source).statements.map Located.statement).filterMap Statement.head?) :
    kind.HasOwnName
      (((parse handlers source).statements.map Located.statement).filterMap Statement.head?) :=
  fun _ hkind' hname =>
    (isNamed_of_head_mem hkind').eq_of_name_eq (isNamed_of_head_mem hkind) hname

/-- The code of a block that stands after the constants is that of its flow, selected with the
constants of the listing and numbered from the first number on. -/
theorem code_of_block [Interpreter] {predefined : Constants} {statements : List Located}
    {listing : Listing}
    {events : List Event} {kind : BodyKind} {colon : Bool} {before after : List Statement}
    {flow : Flow} (hlower : lower predefined statements = .ok (listing, events))
    (hsplit : statements.map Located.statement =
      before ++ .block kind.head colon :: (flow.statements ++ after))
    (hends : EndsBody after) (hcompile : .compile ∈ before.filterMap Statement.head?)
    (hown : kind.HasOwnName ((statements.map Located.statement).filterMap Statement.head?)) :
    ∃ nodes, listing.body? kind = some nodes ∧
      Node.leavesOf nodes = flow.code (selected listing.symbols.constants) kind.name 0 0 := by
  obtain ⟨nodes, first, hbefore, hnodes, -, hcode⟩ := listing_block hlower hsplit hends
  have hconstants := constantsAfter_eq hlower hsplit
  rw [if_pos hcompile] at hconstants
  -- the name of the body was not used before it
  have hnew : ∀ kind' : BodyKind, kind'.head ∈ before.filterMap Statement.head? →
      kind'.name ≠ kind.name := by
    intro kind' hkind' hname
    have hheads : (statements.map Located.statement).filterMap Statement.head? =
        before.filterMap Statement.head? ++
          kind.head :: (flow.statements ++ after).filterMap Statement.head? := by
      rw [hsplit, List.filterMap_append]
      rfl
    rw [hheads] at hown
    obtain rfl := hown kind' (List.mem_append_left _ hkind') hname
    exact head_notMem_of_lower hlower hsplit hkind'
  refine ⟨nodes, hnodes, ?_⟩
  rw [hcode, hconstants, hbefore.count_eq_zero hnew, hbefore.count_eq_zero hnew]

end Lowering

/-! ## The lines of a body -/

/-- The role that the code of a body has in a listing. -/
def Lowering.BodyKind.role : BodyKind → Role
  | main => .main
  | function name => .function name

/-- The lines that a listing has for a body. -/
def Listing.bodyLines? (listing : Listing) (kind : BodyKind) : Option (List String) :=
  (listing.body? kind).map fun nodes => (kind.role.lines nodes).toList

/-- The lines of a body are among those of the listing. -/
theorem Listing.bodyLines_infix {listing : Listing} {kind : BodyKind} {lines : List String}
    (h : listing.bodyLines? kind = some lines) : lines <:+: listing.lines.toList := by
  obtain ⟨nodes, hnodes, rfl⟩ := Option.map_eq_some_iff.mp h
  rw [listing.gives_lines.toList_eq, (kind.role.gives_lines nodes).toList_eq]
  refine List.IsInfix.map _ ?_
  cases kind with
  | main =>
      cases hnodes
      -- the functions, the two kinds of variables and the end come after it
      exact (List.suffix_append _ _).isInfix.trans
        (((List.prefix_append _ _).trans (List.prefix_append _ _)).trans
          ((List.prefix_append _ _).trans (List.prefix_append _ _))).isInfix
  | function name =>
      obtain ⟨first, second, hfunctions, -⟩ := List.lookup_eq_some_iff.mp hnodes
      have hfunction : (name, nodes) ∈ listing.functions := by simp [hfunctions]
      have hlines : (Role.function name).leaves nodes <:+:
          listing.functions.flatMap functionLeaves :=
        (List.suffix_cons (.text "") _).isInfix.trans
          (List.infix_of_mem_flatten (List.mem_map_of_mem hfunction))
      have hsection : (Role.function name).leaves nodes <:+:
          headedLeaves [.text "", .text "# Functions"] listing.functions functionLeaves := by
        rw [headedLeaves, if_neg (by simp [hfunctions])]
        exact hlines.trans (List.suffix_append _ _).isInfix
      exact (hsection.trans (List.suffix_append _ _).isInfix).trans
        (((List.prefix_append _ _).trans (List.prefix_append _ _)).trans
          (List.prefix_append _ _)).isInfix

/-- **A block becomes the same lines in every program.**  Two programs that are lowered and end with
the same constants have the same lines for a body whose block has the same statements in both,
whatever else they hold and in whichever order their blocks stand, if the block of constants stands
before it and its name is its own. -/
theorem bodyLines?_eq_of_same_block [Interpreter] {predefined predefined' : Constants}
    {statements statements' : List Located} {listing listing' : Listing}
    {events events' : List Event} {kind : BodyKind} {colon colon' : Bool} {flow : Flow}
    {before before' after after' : List Statement}
    (hlower : lower predefined statements = .ok (listing, events))
    (hlower' : lower predefined' statements' = .ok (listing', events'))
    (hsplit : statements.map Located.statement =
      before ++ .block kind.head colon :: (flow.statements ++ after))
    (hsplit' : statements'.map Located.statement =
      before' ++ .block kind.head colon' :: (flow.statements ++ after'))
    (hends : EndsBody after) (hends' : EndsBody after')
    (hcompile : .compile ∈ before.filterMap Statement.head?)
    (hcompile' : .compile ∈ before'.filterMap Statement.head?)
    (hown : kind.HasOwnName ((statements.map Located.statement).filterMap Statement.head?))
    (hown' : kind.HasOwnName ((statements'.map Located.statement).filterMap Statement.head?))
    (hconstants : ∀ name, listing.symbols.constant? name = listing'.symbols.constant? name) :
    ∃ lines, listing.bodyLines? kind = some lines ∧ listing'.bodyLines? kind = some lines ∧
      lines <:+: listing.lines.toList ∧ lines <:+: listing'.lines.toList := by
  obtain ⟨nodes, hnodes, hcode⟩ := code_of_block hlower hsplit hends hcompile hown
  obtain ⟨nodes', hnodes', hcode'⟩ := code_of_block hlower' hsplit' hends' hcompile' hown'
  have hselected : selected listing.symbols.constants = selected listing'.symbols.constants := by
    refine funext (selected_congr fun name => ?_)
    rw [Symbols.lookup_constants, Symbols.lookup_constants, hconstants]
  have hleaves : kind.role.leaves nodes = kind.role.leaves nodes' := by
    rw [Role.leaves, Role.leaves, hcode, hcode', hselected]
  have hlines : (kind.role.lines nodes).toList = (kind.role.lines nodes').toList := by
    rw [(kind.role.gives_lines nodes).toList_eq, (kind.role.gives_lines nodes').toList_eq, hleaves]
  have hbody : listing.bodyLines? kind = some (kind.role.lines nodes').toList := by
    rw [Listing.bodyLines?, hnodes, Option.map_some, hlines]
  have hbody' : listing'.bodyLines? kind = some (kind.role.lines nodes').toList := by
    rw [Listing.bodyLines?, hnodes', Option.map_some]
  exact ⟨_, hbody, hbody', Listing.bodyLines_infix hbody, Listing.bodyLines_infix hbody'⟩

/-- A conditional that uses two constants. -/
def sharedFlow : Flow :=
  .branch (.compare "r1" .eq "r2")
    (.simple ⟨.loadName "r3" "N" none, rfl⟩
      (.simple ⟨.loadImmediate "r4" (.expr "$(N+M)"), rfl⟩ .done))
    .done

/-- A program with the conditional as its only function. -/
def sparseProgram : List Statement :=
  [.block .compile true, .declare (.const "N" "2"), .declare (.const "M" "3"), .close,
    .block (.function "f") true] ++ sharedFlow.statements ++ [.close, .block .main true, .close]

/-- A program in which the function comes after other bodies with conditionals, and the constants
are defined in another order. -/
def crowdedProgram : List Statement :=
  [.block .compile true, .declare (.const "N" "2"), .block .main false] ++
    sharedFlow.statements ++ [.declare (.scalar .word "x" []), .block (.function "g") true] ++
    sharedFlow.statements ++ [.close, .block (.function "f") false] ++ sharedFlow.statements

theorem sharedFlow_same_lines :
    ∃ listing listing' events events' lines,
      lower [] (sparseProgram.map (⟨⟨1, ""⟩, ·⟩)) = .ok (listing, events) ∧
      lower [("M", "3")] (crowdedProgram.map (⟨⟨2, ""⟩, ·⟩)) = .ok (listing', events') ∧
      listing.symbols.constants ≠ listing'.symbols.constants ∧
      listing.bodyLines? (.function "f") = some lines ∧
      listing'.bodyLines? (.function "f") = some lines := by
  have hfirst : (lower [] (sparseProgram.map (⟨⟨1, ""⟩, ·⟩))).toOption.map
      (fun result => result.1.symbols.constants) = some [("N", "2"), ("M", "3")] := by
    decide +kernel
  have hsecond : (lower [("M", "3")] (crowdedProgram.map (⟨⟨2, ""⟩, ·⟩))).toOption.map
      (fun result => result.1.symbols.constants) = some [("M", "3"), ("N", "2")] := by
    decide +kernel
  cases hlower : lower [] (sparseProgram.map (⟨⟨1, ""⟩, ·⟩)) with
  | error interrupted => simp [hlower, Except.toOption] at hfirst
  | ok result =>
      cases hlower' : lower [("M", "3")] (crowdedProgram.map (⟨⟨2, ""⟩, ·⟩)) with
      | error interrupted => simp [hlower', Except.toOption] at hsecond
      | ok result' =>
          obtain ⟨listing, events⟩ := result
          obtain ⟨listing', events'⟩ := result'
          replace hfirst : listing.symbols.constants = [("N", "2"), ("M", "3")] := by
            simpa [hlower, Except.toOption] using hfirst
          replace hsecond : listing'.symbols.constants = [("M", "3"), ("N", "2")] := by
            simpa [hlower', Except.toOption] using hsecond
          have hconstants : ∀ name,
              listing.symbols.constant? name = listing'.symbols.constant? name := by
            intro name
            rw [← Symbols.lookup_constants, ← Symbols.lookup_constants, hfirst, hsecond]
            by_cases hname : name = "N"
            · rw [hname]
              rfl
            · have hother : (name == "N") = false := by simpa using hname
              simp only [List.lookup_cons, List.lookup_nil, hother]
          obtain ⟨lines, hlines, hlines', -, -⟩ :=
            @bodyLines?_eq_of_same_block _ _ _ _ _ _ _ _ _ (.function "f") true false sharedFlow
              [.block .compile true, .declare (.const "N" "2"), .declare (.const "M" "3"), .close]
              ([.block .compile true, .declare (.const "N" "2"), .block .main false] ++
                sharedFlow.statements ++
                [.declare (.scalar .word "x" []), .block (.function "g") true] ++
                sharedFlow.statements ++ [.close])
              [.close, .block .main true, .close] [] hlower hlower' rfl rfl trivial trivial
              (by decide) (by decide) (BodyKind.hasOwnName_function (by decide) _)
              (BodyKind.hasOwnName_function (by decide) _) hconstants
          exact ⟨listing, listing', events, events', lines, rfl, rfl,
            by rw [hfirst, hsecond]; decide, hlines, hlines'⟩

/-- A conditional with nothing in it. -/
def emptyBranch : Flow := .branch (.compare "r1" .lt "r2") .done .done

/-- Statements with a conditional in the program proper and one in a function, with the given heads
for the two blocks. -/
def namesakes (first second : BlockHead) : List Statement :=
  [.block .compile true, .block first true] ++ emptyBranch.statements ++
    [.block second true] ++ emptyBranch.statements

/-- **A function with the name of the program proper takes labels away from it.**  No statement that
the parser gives begins such a function; in a list of statements it can stand before the program
proper or after it, and the labels of the program proper are numbered accordingly. -/
theorem bodyLines?_ne_of_namesake :
    ∃ statements statements' listing listing' events events',
      statements.map Located.statement = [.block .compile true] ++ .block BodyKind.main.head true ::
        (emptyBranch.statements ++ .block (.function "main") true :: emptyBranch.statements) ∧
      statements'.map Located.statement =
        ([.block .compile true, .block (.function "main") true] ++ emptyBranch.statements) ++
          .block BodyKind.main.head true :: (emptyBranch.statements ++ []) ∧
      lower [] statements = .ok (listing, events) ∧
      lower [] statements' = .ok (listing', events') ∧
      (∀ name, listing.symbols.constant? name = listing'.symbols.constant? name) ∧
      listing.bodyLines? .main ≠ listing'.bodyLines? .main := by
  -- the fourth line is the branch that a conditional starts with
  have hfirst : (lower [] ((namesakes .main (.function "main")).map (⟨⟨1, ""⟩, ·⟩))).toOption.map
      (fun result => (result.1.symbols.constants, (result.1.bodyLines? .main).map (·[3]?))) =
        some ([], some (some "    bge             r1, r2, main_if1_f")) := by
    decide +kernel
  have hsecond : (lower [] ((namesakes (.function "main") .main).map (⟨⟨1, ""⟩, ·⟩))).toOption.map
      (fun result => (result.1.symbols.constants, (result.1.bodyLines? .main).map (·[3]?))) =
        some ([], some (some "    bge             r1, r2, main_if2_f")) := by
    decide +kernel
  cases hlower : lower [] ((namesakes .main (.function "main")).map (⟨⟨1, ""⟩, ·⟩)) with
  | error interrupted => simp [hlower, Except.toOption] at hfirst
  | ok result =>
      cases hlower' : lower [] ((namesakes (.function "main") .main).map (⟨⟨1, ""⟩, ·⟩)) with
      | error interrupted => simp [hlower', Except.toOption] at hsecond
      | ok result' =>
          rw [hlower] at hfirst
          rw [hlower'] at hsecond
          obtain ⟨hconstants, hlines⟩ := Prod.ext_iff.mp (Option.some.inj hfirst)
          obtain ⟨hconstants', hlines'⟩ := Prod.ext_iff.mp (Option.some.inj hsecond)
          have hsame : result.1.symbols.constants = result'.1.symbols.constants :=
            hconstants.trans hconstants'.symm
          refine ⟨_, _, result.1, result'.1, result.2, result'.2, rfl, rfl, hlower, hlower',
            fun name => ?_, fun hbodies => ?_⟩
          · rw [← Symbols.lookup_constants, hsame, Symbols.lookup_constants]
          simp only [hbodies] at hlines
          exact absurd (hlines.symm.trans hlines') (by decide)

end Shorthand
