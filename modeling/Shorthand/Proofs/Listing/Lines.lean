import Mathlib.Tactic.Common
import Shorthand.Listing

/-!
# The lines of a listing, as leaves

The lines of a listing are handed to a consumer one by one.  `Sequence.Gives` says that a sequence
hands over the values of a list: whoever the consumer is, and wherever it stops, it sees the same as
if it were fed the list.  Sequences that are put together give their lists put together.

A listing has the lines of its leaves (`gives_lines`), where the lines that are the same in
every listing are leaves too.  So what is said about the leaves of a listing is said about its
lines.
-/

namespace Shorthand

/-! ## Sequences and lists -/

namespace Sequence

variable {α ε σ : Type}

/-- The sequence hands over the values of the list, whoever the consumer is. -/
def Gives (sequence : Sequence α) (values : List α) : Prop :=
  ∀ (σ : Type) (visit : Consumer σ α) (state : σ),
    sequence σ visit state = feed visit state values

theorem feed_append (visit : Consumer σ α) (state : σ) (first second : List α) :
    feed visit state (first ++ second) =
      match feed visit state first with
      | (state, true) => feed visit state second
      | (state, false) => (state, false) := by
  induction first generalizing state with
  | nil => rfl
  | cons value first ih =>
      simp only [List.cons_append, feed]
      split
      · exact ih _
      · rfl

theorem gives_of (values : List α) : (of values).Gives values := fun _ _ _ => rfl

theorem gives_concat_nil : (concat [] : Sequence α).Gives [] := fun _ _ _ => rfl

theorem Gives.concat_cons {first : Sequence α} {rest : List (Sequence α)} {values later : List α}
    (hfirst : first.Gives values) (hrest : (concat rest).Gives later) :
    (concat (first :: rest)).Gives (values ++ later) := by
  intro σ visit state
  rw [feed_append, ← hfirst σ visit state, concat]
  dsimp only
  rcases first σ visit state with ⟨state', _ | _⟩
  · rfl
  · exact hrest σ visit state'

theorem Gives.concat_append {first second : List (Sequence α)} {values later : List α}
    (hfirst : (concat first).Gives values) (hsecond : (concat second).Gives later) :
    (concat (first ++ second)).Gives (values ++ later) := by
  intro σ visit state
  rw [feed_append, ← hfirst σ visit state]
  clear hfirst
  induction first generalizing state with
  | nil => exact hsecond σ visit state
  | cons sequence first ih =>
      rw [List.cons_append, concat, concat]
      dsimp only
      rcases sequence σ visit state with ⟨state', _ | _⟩
      · rfl
      · exact ih state'

theorem gives_each {elements : List ε} {sequence : ε → Sequence α} {values : ε → List α}
    (h : ∀ element ∈ elements, (sequence element).Gives (values element)) :
    (each elements sequence).Gives (elements.flatMap values) := by
  intro σ visit state
  induction elements generalizing state with
  | nil => rfl
  | cons element elements ih =>
      have hrest := ih fun other hother => h other (List.mem_cons_of_mem _ hother)
      rw [List.flatMap_cons, feed_append, ← h element (List.mem_cons_self ..) σ visit state, each,
        feed]
      rcases sequence element σ visit state with ⟨state', _ | _⟩
      · rfl
      · exact hrest state'

theorem Gives.toList_eq {sequence : Sequence α} {values : List α} (h : sequence.Gives values) :
    sequence.toList = values := by
  have hkeep : ∀ kept : List α,
      feed keep (kept, none) values = ((values.reverse ++ kept, none), true) := by
    clear h
    induction values with
    | nil => exact fun kept => rfl
    | cons value values ih =>
        intro kept
        simp only [feed, keep, ih, List.reverse_cons, List.append_assoc, List.cons_append,
          List.nil_append]
  simp [toList, take, h _ keep, hkeep]

end Sequence

open Sequence

/-! ## Leaves -/

mutual

private theorem walk_eq {σ : Type} (visit : Consumer σ String) (state : σ) :
    ∀ node : Node, node.walk visit state = feed visit state (node.leaves.map Leaf.line)
  | .leaf single => by
      simp only [Node.walk, Node.leaves, List.map_cons, List.map_nil, feed]
      split <;> rename_i heq <;> exact heq
  | .block nodes => walkAll_eq visit state nodes

private theorem walkAll_eq {σ : Type} (visit : Consumer σ String) (state : σ) :
    ∀ nodes : List Node,
      Node.walkAll visit state nodes = feed visit state ((Node.leavesOf nodes).map Leaf.line)
  | [] => rfl
  | node :: nodes => by
      rw [Node.leavesOf, List.map_append, feed_append, ← walk_eq visit state node,
        Node.walkAll]
      rcases Node.walk visit state node with ⟨state', _ | _⟩
      · rfl
      · exact walkAll_eq visit state' nodes

end

theorem gives_linesOf (nodes : List Node) :
    (Node.linesOf nodes).Gives ((Node.leavesOf nodes).map Leaf.line) :=
  fun _ visit state => walkAll_eq visit state nodes

/-- The leaves of code in its role. -/
def Role.leaves (role : Role) (nodes : List Node) : List Leaf :=
  role.before ++ Node.leavesOf nodes ++ role.after

theorem Role.gives_lines (role : Role) (nodes : List Node) :
    (role.lines nodes).Gives ((role.leaves nodes).map Leaf.line) := by
  have hlines := (gives_of (role.before.map Leaf.line)).concat_cons
    ((gives_linesOf nodes).concat_cons
      ((gives_of (role.after.map Leaf.line)).concat_cons gives_concat_nil))
  simpa [Role.lines, Role.leaves, leafLines] using hlines

namespace Listing

/-- The leaves of a section: its heading and those of its elements, or nothing if there are no
elements. -/
def headedLeaves {ε : Type} (heading : List Leaf) (elements : List ε) (leaves : ε → List Leaf) :
    List Leaf :=
  if elements.isEmpty then [] else heading ++ elements.flatMap leaves

/-- The leaves of a function, after an empty line. -/
def functionLeaves (function : String × List Node) : List Leaf :=
  .text "" :: (Role.function function.1).leaves function.2

/-- What the lines of the listing are made of. -/
def leaves (listing : Listing) : List Leaf :=
  [.text "# Generated by shasm", .text "", .text "# Setup"] ++ Node.leavesOf listing.setup ++
    [.text ""] ++ Role.main.leaves listing.main ++
    headedLeaves [.text "", .text "# Functions"] listing.functions functionLeaves ++
    headedLeaves
      [.text "", .text "# Word-Aligned Variables", .text "", .instr ".org" [wordOrigin]]
      listing.words Variable.leaves ++
    headedLeaves [.text "", .text "# Random Variables"] listing.bytes Variable.leaves ++
    [.text "", .text "# End of Assembly Source", .instr ".end" []]

private theorem gives_headed {ε : Type} (heading : List Leaf) (elements : List ε)
    {lines : ε → Sequence String} {leaves : ε → List Leaf}
    (h : ∀ element, (lines element).Gives ((leaves element).map Leaf.line)) :
    (concat (headed (heading.map Leaf.line) elements lines)).Gives
      ((headedLeaves heading elements leaves).map Leaf.line) := by
  unfold headed headedLeaves
  split
  · exact gives_concat_nil
  · have heach := gives_each fun element (_ : element ∈ elements) => h element
    have hlines := (gives_of (heading.map Leaf.line)).concat_cons
      (heach.concat_cons gives_concat_nil)
    simpa [List.map_flatMap] using hlines

private theorem gives_functionLines (function : String × List Node) :
    (functionLines function).Gives ((functionLeaves function).map Leaf.line) := by
  have hlines := (gives_of [""]).concat_cons
    (((Role.function function.1).gives_lines function.2).concat_cons gives_concat_nil)
  simpa [functionLines, functionLeaves, Leaf.line] using hlines

/-- The lines of a listing are those of its leaves. -/
theorem gives_lines (listing : Listing) :
    listing.lines.Gives (listing.leaves.map Leaf.line) := by
  have hstart := (gives_of ["# Generated by shasm", "", "# Setup"]).concat_cons
    ((Role.plain.gives_lines listing.setup).concat_cons
      ((gives_of [""]).concat_cons
        ((Role.main.gives_lines listing.main).concat_cons gives_concat_nil)))
  have hend := (gives_of ["", "# End of Assembly Source", Machine.formatLine ".end" []]).concat_cons
    gives_concat_nil
  have hvariable : ∀ v : Variable, v.lines.Gives (v.leaves.map Leaf.line) :=
    fun v => gives_of (v.leaves.map Leaf.line)
  have hfunctions := gives_headed [.text "", .text "# Functions"] listing.functions
    gives_functionLines
  have hwords := gives_headed
    [.text "", .text "# Word-Aligned Variables", .text "", .instr ".org" [wordOrigin]]
    listing.words hvariable
  have hbytes := gives_headed [.text "", .text "# Random Variables"] listing.bytes hvariable
  have hlines := (((hstart.concat_append hfunctions).concat_append hwords).concat_append
    hbytes).concat_append hend
  simpa [lines, leaves, Role.leaves, Role.before, Role.after, Leaf.line] using hlines

end Listing

end Shorthand
