import Mathlib.Data.List.Perm.Basic
import Shorthand.Expression.Execute
import Shorthand.Proofs.Listing.Lines
import Shorthand.Proofs.Lowering.Numbering

/-!
# What a listing defines

The labels of a listing are of four kinds: the two of the entry point, the names of the functions,
the labels in the code of the bodies, and the names of the variables.  Within each kind no label is
defined twice: functions and variables are refused if their name is taken, and the labels of bodies
are numbered.  The labels of bodies are never those of the entry point.

Between the other kinds nothing is checked.  So a listing can define a label twice, and
`nodup_definitions_iff` tells exactly when it does not: no function has the name of a variable, and
neither has the name of a label of the entry point or of a body.

For the branches this means that the label they go to is the only one of the bodies, but that a
function or a variable may have its name.  `compile_labels` says so for each branch, and how the
labels of a block are numbered.
-/

namespace Shorthand

open Lowering

/-! ## What is known of variables and constants along a run -/

namespace Lowering

variable {predefined : Constants} {state state' : State} {statement : Statement}

/-- The variables of the listing are those of the table, and the setup defines no label. -/
structure State.Listed (state : State) : Prop where
  setup : labelsOf (Node.leavesOf state.setup.nodes) = []
  names : ((state.words ++ state.bytes).map Variable.name).Perm
    (state.symbols.declared.map Prod.fst)

theorem State.Listed.start : State.start.Listed := ⟨rfl, .nil⟩

theorem labelsOf_equations (defined : List (String × String)) :
    labelsOf (Node.leavesOf (equations defined)) = [] := by
  rw [equations, Node.leavesOf_ofLeaves, labelsOf, List.filterMap_eq_nil_iff]
  intro leaf hleaf
  obtain ⟨entry, -, rfl⟩ := List.mem_map.mp hleaf
  rfl

theorem State.Listed.reserve (h : state.Listed) {v : Variable} (storage : Storage)
    (hnew : state.symbols.storage? v.name = none) : (state.reserve v storage).Listed where
  setup := h.setup
  names := by
    have hnames := h.names.append_right [v.name]
    rw [List.perm_iff_count] at hnames ⊢
    intro name
    have hcount := hnames name
    rw [State.declared_reserve hnew]
    simp only [State.reserve, List.map_append, List.count_append, List.map_cons, List.map_nil,
      List.count_cons, List.count_nil] at hcount ⊢
    split
    · simp only [List.map_cons, List.count_cons]
      omega
    · simp only [List.map_cons, List.count_cons]
      omega

theorem State.Listed.closed (h : state.Listed) : state.closed.Listed := by
  refine ⟨?_, ?_⟩
  · rw [State.setup_closed]
    exact h.setup
  · rw [State.words_closed, State.bytes_closed, State.symbols_closed]
    exact h.names

/-- Only declarations change the variables, and only constants and comments the setup. -/
theorem State.Listed.change [Interpreter] (h : state.Listed)
    (hchange : Change predefined state statement state') : state'.Listed := by
  cases hchange with
  | compile =>
      have hclosed := h.closed
      refine ⟨?_, hclosed.names⟩
      simp [labelsOf_equations, h.setup]
  | body => exact ⟨h.closed.setup, h.closed.names⟩
  | closeBlock => exact h.closed
  | commentConstants =>
      refine ⟨?_, h.names⟩
      simp [h.setup]
  | const hscope hconstants hstate =>
      obtain ⟨defined, events, rfl⟩ := hstate
      refine ⟨?_, h.names⟩
      simp [labelsOf_equations, h.setup]
  | @reserve declaration entry events hvariable hentry =>
      have hlisted : (state.withEvents events).Listed := ⟨h.setup, h.names⟩
      exact hlisted.reserve entry.2 (reserve?_eq_some_iff.mp hentry).2
  | branch | loop | otherwise | closeFrame | commentOutside | commentBody | simple =>
      exact ⟨h.setup, h.names⟩

theorem Lowers.listed [Interpreter] {statements : List Statement}
    (h : Lowers predefined state statements state') (hlisted : state.Listed) : state'.Listed := by
  induction h with
  | done state => exact hlisted
  | step hchange _ ih => exact ih (hlisted.change hchange)

end Lowering

/-! ## The labels of a listing -/

namespace Listing

/-- The names of the functions, in the order of their definition. -/
def functionNames (listing : Listing) : List String := listing.functions.map Prod.fst

/-- The names of the variables, those in words first. -/
def variableNames (listing : Listing) : List String :=
  (listing.words ++ listing.bytes).map Variable.name

/-- The labels in the code of the bodies. -/
def bodyLabels (listing : Listing) : List String :=
  listing.bodies.flatMap fun body => labelsOf body.2

end Listing

@[simp] theorem labelsOf_text (text : String) (rest : List Leaf) :
    labelsOf (.text text :: rest) = labelsOf rest := rfl

/-- The heading of a section defines no label. -/
private theorem labelsOf_headedLeaves {ε : Type} (heading : List Leaf)
    (hheading : labelsOf heading = []) (elements : List ε) (leaves : ε → List Leaf) :
    labelsOf (Listing.headedLeaves heading elements leaves) =
      elements.flatMap fun element => labelsOf (leaves element) := by
  have hflatMap : labelsOf (elements.flatMap leaves) =
      elements.flatMap fun element => labelsOf (leaves element) := List.filterMap_flatMap ..
  cases elements with
  | nil => rfl
  | cons element elements =>
      rw [Listing.headedLeaves, if_neg (by simp), labelsOf_append, hheading, List.nil_append,
        hflatMap]

private theorem labelsOf_functionLeaves (function : String × List Node) :
    labelsOf (Listing.functionLeaves function) =
      function.1 :: labelsOf (Node.leavesOf function.2) := by
  simp [Listing.functionLeaves, Role.leaves, Role.before, Role.after]

private theorem flatMap_labelsOf_variable (vs : List Variable) :
    (vs.flatMap fun v => labelsOf v.leaves) = vs.map Variable.name := by
  simp [Variable.leaves, List.map_eq_flatMap]

/-- The labels of a listing in their order, if its setup defines none. -/
private theorem labelsOf_leaves {listing : Listing}
    (hsetup : labelsOf (Node.leavesOf listing.setup) = []) :
    labelsOf listing.leaves =
      startLabel :: labelsOf (Node.leavesOf listing.main) ++ endLabel ::
        (listing.functions.flatMap fun f => f.1 :: labelsOf (Node.leavesOf f.2)) ++
        listing.variableNames := by
  have hfunctions := labelsOf_headedLeaves [.text "", .text "# Functions"] rfl listing.functions
    Listing.functionLeaves
  have hwords := labelsOf_headedLeaves
    [.text "", .text "# Word-Aligned Variables", .text "", .instr ".org" [Listing.wordOrigin]] rfl
    listing.words Variable.leaves
  have hbytes := labelsOf_headedLeaves [.text "", .text "# Random Variables"] rfl listing.bytes
    Variable.leaves
  rw [flatMap_labelsOf_variable] at hwords hbytes
  simp only [labelsOf_functionLeaves] at hfunctions
  simp [Listing.leaves, hsetup, hfunctions, hwords, hbytes, Role.leaves, Role.before, Role.after,
    Listing.variableNames]

/-- The labels of a listing by their kinds, if its setup defines none. -/
theorem Listing.labelsOf_leaves_perm {listing : Listing}
    (hsetup : labelsOf (Node.leavesOf listing.setup) = []) :
    (labelsOf listing.leaves).Perm
      ((listing.functionNames ++ listing.variableNames) ++
        (startLabel :: endLabel :: listing.bodyLabels)) := by
  have hfunctions := List.map_append_flatMap_perm listing.functions Prod.fst
    fun f => labelsOf (Node.leavesOf f.2)
  have hbodies : listing.bodyLabels = labelsOf (Node.leavesOf listing.main) ++
      listing.functions.flatMap fun f => labelsOf (Node.leavesOf f.2) := by
    simp [bodyLabels, bodies, List.flatMap_map]
  rw [labelsOf_leaves hsetup, hbodies, functionNames]
  rw [List.perm_iff_count] at hfunctions ⊢
  intro name
  have hcount := hfunctions name
  simp only [List.count_append, List.count_cons] at hcount ⊢
  omega

/-! ## No label twice -/

/-- The labels of bodies have a digit before their ending, and those of the entry point have
not. -/
theorem Label.text_ne_entry (body : String) (label : Label) :
    label.text body ≠ startLabel ∧ label.text body ≠ endLabel := by
  obtain ⟨stem, digit, hchars, hdigit⟩ := label.exists_digit body
  have hreverse := congrArg List.reverse hchars
  generalize label.ending = ending at hreverse
  constructor
  · intro h
    rw [h] at hreverse
    rcases ending with _ | _ | (_ | _) <;> simp [Ending.text, startLabel] at hreverse
    -- without an ending, the digit would be the last letter of the label
    rw [← hreverse.1] at hdigit
    exact absurd hdigit (by decide)
  · intro h
    rw [h] at hreverse
    rcases ending with _ | _ | (_ | _) <;> simp [Ending.text, endLabel] at hreverse
    rw [← hreverse.1] at hdigit
    exact absurd hdigit (by decide)

section lowered

variable [Interpreter] {predefined : Constants} {statements : List Located} {listing : Listing}
  {events : List Event}

theorem nodup_entry_labels_of_lower (hlower : lower predefined statements = .ok (listing, events))
    (hbodies : listing.bodyLabels.Nodup) :
    (startLabel :: endLabel :: listing.bodyLabels).Nodup := by
  have hlabels : ∀ text ∈ listing.bodyLabels, text ≠ startLabel ∧ text ≠ endLabel := by
    intro text htext
    obtain ⟨body, hbody, htext⟩ := List.mem_flatMap.mp htext
    obtain ⟨label, rfl⟩ := exists_label_of_mem_bodies hlower hbody htext
    exact label.text_ne_entry body.1.name
  refine List.nodup_cons.mpr ⟨?_, List.nodup_cons.mpr ⟨?_, hbodies⟩⟩
  · intro hmem
    rcases List.mem_cons.mp hmem with heq | hmem
    · exact absurd heq (by decide)
    · exact (hlabels _ hmem).1 rfl
  · exact fun hmem => (hlabels _ hmem).2 rfl

/-- The setup of a listing defines no label, and no variable is defined twice. -/
theorem listed_of_lower (hlower : lower predefined statements = .ok (listing, events)) :
    labelsOf (Node.leavesOf listing.setup) = [] ∧ listing.variableNames.Nodup := by
  obtain ⟨final, hrun, hconclude⟩ := lowers_of_lower hlower
  obtain ⟨-, -, main, -, rfl⟩ := conclude_ok_iff.mp hconclude
  have hlisted := (hrun.listed State.Listed.start).closed
  refine ⟨hlisted.setup, ?_⟩
  have hperm : (listingOf final.closed main).variableNames.Perm
      ((final.closed.words ++ final.closed.bytes).map Variable.name) :=
    (List.reverse_perm _).append (List.reverse_perm _) |>.map _
  exact (hperm.trans hlisted.names).nodup_iff.mpr (Symbols.nodup_declared _)

end lowered

/-- **When no label is defined twice.**  In a program that is compiled, the labels that the lines of
the listing define differ exactly if no function has the name of a variable, and no function and no
variable has the name of a label of the entry point or of the code of a body. -/
theorem nodup_definitions_iff [Interpreter] {compiler : Compiler} {source : Source}
    {listing : Listing} (hcompile : (compiler.compile source).outcome = .ok listing) :
    listing.lines.toList = listing.leaves.map Leaf.line ∧
      ((labelsOf listing.leaves).Nodup ↔
        listing.functionNames.Disjoint listing.variableNames ∧
          (listing.functionNames ++ listing.variableNames).Disjoint
            (startLabel :: endLabel :: listing.bodyLabels)) := by
  refine ⟨listing.gives_lines.toList_eq, ?_⟩
  obtain ⟨events, hlower⟩ := lower_of_compile hcompile
  -- within each kind the labels differ
  have hfunctions : listing.functionNames.Nodup := nodup_functions_of_lower hlower
  have hbodies : listing.bodyLabels.Nodup := nodup_labels_of_lower hlower fun body hbody =>
    isNamed_of_head_mem (head_mem_of_mem_bodies hlower hbody)
  have hentry := nodup_entry_labels_of_lower hlower hbodies
  obtain ⟨hsetup, hvariables⟩ := listed_of_lower hlower
  rw [(Listing.labelsOf_leaves_perm hsetup).nodup_iff, List.nodup_append',
    List.nodup_append']
  exact ⟨fun h => ⟨h.1.2.2, h.2.2⟩, fun h => ⟨⟨hfunctions, hvariables, h.1⟩, hentry, h.2⟩⟩

/-- A program with a function and a variable of the same name. -/
def sharedName : Source :=
  ⟨["compile:", "main:", "end", "func f:", "end", "int f"], none⟩

theorem sharedName_defined_twice :
    ∃ listing, (Compiler.standard.compile sharedName).outcome = .ok listing ∧
      ¬ (labelsOf listing.leaves).Nodup := by
  have hnames : ((Compiler.standard.compile sharedName).outcome.toOption.map
      fun listing => (listing.functionNames, listing.variableNames)) = some (["f"], ["f"]) := by
    decide +kernel
  cases hcompile : (Compiler.standard.compile sharedName).outcome with
  | error rejection => simp [hcompile, Except.toOption] at hnames
  | ok listing =>
      obtain ⟨hf, hv⟩ : listing.functionNames = ["f"] ∧ listing.variableNames = ["f"] := by
        simpa [hcompile, Except.toOption] using hnames
      refine ⟨listing, rfl, fun hnodup => ?_⟩
      have hdisjoint := ((nodup_definitions_iff hcompile).2.mp hnodup).1
      rw [hf, hv] at hdisjoint
      exact hdisjoint (List.mem_cons_self ..) (List.mem_cons_self ..)

/-! ## Where branches go -/

section lowered

variable [Interpreter] {predefined : Constants} {statements : List Located} {listing : Listing}
  {events : List Event}

/-- A label of a body is defined as often as functions and variables have its name, and once in the
code. -/
theorem count_definitions_of_lower
    (hlower : lower predefined statements = .ok (listing, events))
    (hbodies : listing.bodyLabels.Nodup) {label : String} (hlabel : label ∈ listing.bodyLabels) :
    (labelsOf listing.leaves).count label =
      (listing.functionNames ++ listing.variableNames).count label + 1 := by
  have hentry := nodup_entry_labels_of_lower hlower hbodies
  have honce : (startLabel :: endLabel :: listing.bodyLabels).count label = 1 :=
    List.count_eq_one_of_mem hentry (List.mem_cons_of_mem _ (List.mem_cons_of_mem _ hlabel))
  rw [(Listing.labelsOf_leaves_perm (listed_of_lower hlower).1).count_eq, List.count_append, honce]

end lowered

/-- **Labels of bodies are unique, branches go to them, and constructs are numbered in the order of
the source.**  In a program that is compiled, no label is defined twice in the code of all bodies,
and every branch in a body goes to a label of this body.  Of all lines of the listing, only the one
in the body defines this label exactly if no function and no variable has its name.  A statement of
a block that opens a conditional or a loop, or turns to an alternative, has its code in the body of
the block, with names as `Places` tells: the number is the one of the statement among the
conditionals or loops of the block. -/
theorem compile_labels [Interpreter] {compiler : Compiler} {source : Source} {listing : Listing}
    (hcompile : (compiler.compile source).outcome = .ok listing) :
    listing.lines.toList = listing.leaves.map Leaf.line ∧
      listing.bodyLabels.Nodup ∧
      (∀ body ∈ listing.bodies, ∀ target ∈ targetsOf body.2,
        target ∈ labelsOf body.2 ∧
          ((labelsOf listing.leaves).count target = 1 ↔
            target ∉ listing.functionNames ∧ target ∉ listing.variableNames)) ∧
      ∀ (kind : BodyKind) (colon : Bool) (before inner after : List Statement)
        (statement : Statement),
        (parse compiler.handlers source).statements.map Located.statement =
            before ++ .block kind.head colon :: (inner ++ statement :: after) →
          inner.filterMap Statement.head? = [] → statement.isConstruct = true →
            ∃ code piece, (kind, code) ∈ listing.bodies ∧ piece <:+: code ∧
              Places (selected (constantsAfter compiler.predefined before)) kind.name 0 0
                inner statement after piece := by
  obtain ⟨events, hlower⟩ := lower_of_compile hcompile
  have hbodies : listing.bodyLabels.Nodup := nodup_labels_of_lower hlower fun body hbody =>
    isNamed_of_head_mem (head_mem_of_mem_bodies hlower hbody)
  refine ⟨listing.gives_lines.toList_eq, hbodies, fun body hbody target htarget => ?_, ?_⟩
  · have hlabel : target ∈ labelsOf body.2 :=
      (resolves_of_mem_bodies hlower hbody target htarget).resolve_right List.not_mem_nil
    refine ⟨hlabel, ?_⟩
    rw [count_definitions_of_lower hlower hbodies (List.mem_flatMap.mpr ⟨body, hbody, hlabel⟩),
      Nat.add_eq_right, List.count_eq_zero, List.mem_append, not_or]
  · intro kind colon before inner after statement hsplit hinner hconstruct
    exact exists_places_of_lower hlower hsplit hinner hconstruct fun _ => isNamed_of_head_mem

/-- A program with a function called like the label behind the conditional of the program proper. -/
def takenLabel : Source :=
  ⟨["compile:", "end", "main:", "if r1 < r2:", "end", "end", "func main_if1_f:", "end"], none⟩

/-- The branch of the conditional goes to a label that two lines define. -/
theorem takenLabel_defined_twice :
    ∃ listing code piece, (Compiler.standard.compile takenLabel).outcome = .ok listing ∧
      (.main, code) ∈ listing.bodies ∧ piece <:+: code ∧
      Places (selected []) "main" 0 0 [] (.branch (.compare "r1" .lt "r2"))
        [.close, .close, .block (.function "main_if1_f") true, .close] piece ∧
      "main_if1_f" ∈ targetsOf code ∧ "main_if1_f" ∈ labelsOf code ∧
      (labelsOf listing.leaves).count "main_if1_f" ≠ 1 := by
  have hshape : ((Compiler.standard.compile takenLabel).outcome.toOption.map
      fun listing => (listing.functionNames,
        listing.bodies.map fun body => (body.1, targetsOf body.2))) =
        some (["main_if1_f"], [(.main, ["main_if1_f"]), (.function "main_if1_f", [])]) := by
    decide +kernel
  cases hcompile : (Compiler.standard.compile takenLabel).outcome with
  | error rejection => simp [hcompile, Except.toOption] at hshape
  | ok listing =>
      obtain ⟨hfunctions, htargets⟩ : listing.functionNames = ["main_if1_f"] ∧
          listing.bodies.map (fun body => (body.1, targetsOf body.2)) =
            [(.main, ["main_if1_f"]), (.function "main_if1_f", [])] := by
        simpa [hcompile, Except.toOption] using hshape
      obtain ⟨-, -, hbranches, hplaces⟩ := compile_labels hcompile
      obtain ⟨code, piece, hcode, hpiece, hplaced⟩ := hplaces .main true
        [.block .compile true, .close] [] [.close, .close, .block (.function "main_if1_f") true,
          .close] (.branch (.compare "r1" .lt "r2")) (by decide +kernel) rfl rfl
      have htarget : "main_if1_f" ∈ targetsOf code := by
        have hmem : (BodyKind.main, targetsOf code) ∈
            listing.bodies.map (fun body => (body.1, targetsOf body.2)) :=
          List.mem_map_of_mem hcode
        rw [htargets] at hmem
        have hmain : targetsOf code = ["main_if1_f"] := by simpa using hmem
        exact hmain ▸ List.mem_singleton_self _
      obtain ⟨hlabel, hcount⟩ := hbranches _ hcode _ htarget
      refine ⟨listing, code, piece, rfl, hcode, hpiece, hplaced, htarget, hlabel, fun honce => ?_⟩
      exact (hcount.mp honce).1 (by simp [hfunctions])

end Shorthand
