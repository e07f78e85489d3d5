import Shorthand.Proofs.Listing.Forest

/-!
# Consumers that stop early

A consumer that has had enough of the lines says so, and from then on it is left alone.  This holds
of everything that hands over lines (`Composition`): the nodes of the code with all that is nested
in them, its blocks in their roles, variables, containers, whole listings, and whatever is put
together of these.  The consumer is handed their lines in order, up to the first one after which it
wants no more, and not once more (`handed_eq_take`).

## Strategy

`Sequence.Gives` compares a sequence with a list that is fed to the same consumer.  It is kept when
sequences are put together (`Composition.gives`), so nothing has to be said about where in the
nested sequences a consumer stops.  It is kept for a consumer with a record of its calls as well,
and what is recorded when a list is fed to it is known from its answers (`record_feed`).
-/

namespace Shorthand

open Sequence

variable {α σ : Type}

/-! ## What a consumer is handed -/

namespace Sequence

/-- The consumer, with a record of the values that it is handed, in order. -/
def recorded (visit : Consumer σ α) : Consumer (σ × List α) α
  | (state, record), value => (((visit state value).1, record ++ [value]), (visit state value).2)

/-- All values that a consumer is handed, in order. -/
def handed (sequence : Sequence α) (visit : Consumer σ α) (state : σ) : List α :=
  (sequence (σ × List α) (recorded visit) (state, [])).1.2

/-- Whether the consumer wants more after each of the values, if it is handed all of them. -/
def answers (visit : Consumer σ α) : σ → List α → List Bool
  | _, [] => []
  | state, value :: values =>
      (visit state value).2 :: answers visit (visit state value).1 values

/-- What is recorded of a list ends right after the first value that is answered with no. -/
theorem record_feed (visit : Consumer σ α) (state : σ) (record values : List α) :
    (feed (recorded visit) (state, record) values).1.2 =
      record ++ values.take ((answers visit state values).idxOf false + 1) := by
  induction values generalizing state record with
  | nil => rw [feed, List.take_nil, List.append_nil]
  | cons value values ih =>
      rw [feed, answers, recorded]
      cases hanswer : (visit state value).2 with
      | true =>
          dsimp only
          rw [ih, List.idxOf_cons_ne _ (by decide), List.take_succ_cons, List.append_assoc]
          rfl
      | false =>
          dsimp only
          rw [List.idxOf_cons_self, List.take_succ_cons, List.take_zero]

theorem Gives.handed_eq {sequence : Sequence α} {values : List α} (h : sequence.Gives values)
    (visit : Consumer σ α) (state : σ) :
    sequence.handed visit state =
      values.take ((answers visit state values).idxOf false + 1) := by
  rw [handed, h, record_feed, List.nil_append]

end Sequence

/-! ## What hands over lines -/

/-- What hands over lines: the parts of the code, and sequences that are put together. -/
inductive Composition : Type 1 where
  /-- The lines of a list. -/
  | of (lines : List String)
  /-- A leaf, or a block with all that is nested in it. -/
  | node (node : Node)
  /-- Code in its role: plain, of the program proper, or of a function. -/
  | code (role : Role) (nodes : List Node)
  | storage (v : Variable)
  /-- A container with all that is in it, as deep as the depth goes.  As many levels as there are
  containers are all of it, unless it is inside itself. -/
  | container (arena : Arena) (depth number : Nat)
  | listing (listing : Listing)
  | concat (parts : List Composition)
  | each {ε : Type} (elements : List ε) (part : ε → Composition)

namespace Composition

mutual

/-- The sequence that hands over the lines. -/
def sequence : Composition → Sequence String
  | of lines => .of lines
  | node single => Node.linesOf [single]
  | code role nodes => role.lines nodes
  | storage v => v.lines
  | container arena depth number => arena.linesTo depth number
  | listing whole => whole.lines
  | concat parts => .concat (sequences parts)
  | each elements part => .each elements fun element => (part element).sequence

/-- The sequences of parts. -/
def sequences : List Composition → List (Sequence String)
  | [] => []
  | part :: parts => part.sequence :: sequences parts

end

mutual

/-- All lines, in order. -/
def lines : Composition → List String
  | of lines => lines
  | node single => single.leaves.map Leaf.line
  | code role nodes => (role.leaves nodes).map Leaf.line
  | storage v => v.leaves.map Leaf.line
  | container arena depth number => arena.linesDown depth number
  | listing whole => whole.leaves.map Leaf.line
  | concat parts => allLines parts
  | each elements part => elements.flatMap fun element => (part element).lines

/-- All lines of parts, one part after the other. -/
def allLines : List Composition → List String
  | [] => []
  | part :: parts => part.lines ++ allLines parts

end

mutual

/-- Whoever the consumer is, it sees what it would see of the list of all lines. -/
theorem gives : ∀ composition : Composition, composition.sequence.Gives composition.lines
  | of lines => gives_of lines
  | node single => by
      have hlines := gives_linesOf [single]
      rwa [Node.leavesOf, Node.leavesOf, List.append_nil] at hlines
  | code role nodes => role.gives_lines nodes
  | storage v => gives_of (v.leaves.map Leaf.line)
  | container _ depth number => Arena.gives_linesDown depth number
  | listing whole => whole.gives_lines
  | concat parts => gives_concat parts
  | each elements part => gives_each fun element _ => gives (part element)

theorem gives_concat : ∀ parts : List Composition,
    (Sequence.concat (sequences parts)).Gives (allLines parts)
  | [] => gives_concat_nil
  | part :: parts => (gives part).concat_cons (gives_concat parts)

end

/-- **A consumer is handed the lines up to the first one after which it wants no more.**  Whatever
the lines are those of, and whoever the consumer is, the calls of the consumer are these: all of the
lines in order, cut right after the first one to which it answers that it wants no more.  A consumer
that wants all lines is handed all of them. -/
theorem handed_eq_take (composition : Composition) (visit : Consumer σ String) (state : σ) :
    composition.sequence.handed visit state =
        composition.lines.take ((answers visit state composition.lines).idxOf false + 1) ∧
      composition.sequence.toList = composition.lines :=
  ⟨(gives composition).handed_eq visit state, (gives composition).toList_eq⟩

/-- A consumer that wants two lines is not handed the rest of the inner block. -/
example :
    (node (.block [.leaf (.text "a"),
      .block [.leaf (.text "b"), .leaf (.text "c")]])).sequence.handed
      (fun wanted _ => (wanted - 1, 1 < wanted)) 2 = ["a", "b"] := by
  decide

end Composition

end Shorthand
