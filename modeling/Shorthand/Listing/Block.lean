import Shorthand.Listing.Leaf
import Shorthand.Sequence

/-!
# Nodes and the blocks that collect them

Code is a tree of nodes: leaves, and blocks that hold further nodes.  A block is filled at its
end only.  It belongs to at most one other block, and once it is sealed nothing is added to it;
whoever breaks one of these rules commits a fault.
-/

namespace Shorthand

/-- What must never be done. -/
inductive Fault where
  /-- A block is put into a second place. -/
  | secondParent
  /-- Something is added to a sealed block. -/
  | sealedBlock
  /-- A statement is none of those that become an instruction. -/
  | unhandled
deriving DecidableEq

/-- The fault in words. -/
def Fault.message : Fault → String
  | secondParent => "ir: block already has a parent"
  | sealedBlock => "ir: add to sealed block"
  | unhandled => "compiler: unhandled statement"

/-! ## Nodes -/

/-- A node of the code. -/
inductive Node where
  | leaf (leaf : Leaf)
  | block (nodes : List Node)
deriving Inhabited

namespace Node

mutual

/-- The leaves of a node, in order. -/
def leaves : Node → List Leaf
  | leaf single => [single]
  | block nodes => leavesOf nodes

/-- The leaves of nodes, in order. -/
def leavesOf : List Node → List Leaf
  | [] => []
  | node :: nodes => leaves node ++ leavesOf nodes

end

mutual

/-- Hands over the lines of a node. -/
def walk {σ : Type} (visit : Consumer σ String) (state : σ) : Node → σ × Bool
  | leaf single => visit state single.line
  | block nodes => walkAll visit state nodes

/-- Hands over the lines of nodes. -/
def walkAll {σ : Type} (visit : Consumer σ String) (state : σ) : List Node → σ × Bool
  | [] => (state, true)
  | node :: nodes =>
      match walk visit state node with
      | (state, true) => walkAll visit state nodes
      | (state, false) => (state, false)

end

/-- The lines of nodes. -/
def linesOf (nodes : List Node) : Sequence String := fun _ visit state =>
  walkAll visit state nodes

/-- Leaves as nodes. -/
def ofLeaves (leaves : List Leaf) : List Node := leaves.map leaf

end Node

/-- The lines of leaves. -/
def leafLines (leaves : List Leaf) : Sequence String := .of (leaves.map Leaf.line)

/-- The lines of code, by its nodes, in its role. -/
def Role.lines (role : Role) (nodes : List Node) : Sequence String :=
  .concat [leafLines role.before, Node.linesOf nodes, leafLines role.after]

/-- The lines of a variable. -/
def Variable.lines (v : Variable) : Sequence String := leafLines v.leaves

/-! ## Blocks -/

/-- A block that is being filled. -/
structure Block where
  /-- The nodes, the last one first. -/
  reversed : List Node
  attached : Bool
  isSealed : Bool
deriving Inhabited

namespace Block

/-- A new block. -/
def empty : Block := ⟨[], false, false⟩

/-- The nodes in order. -/
def nodes (block : Block) : List Node := block.reversed.reverse

/-- Puts the block into its place. -/
def attach (block : Block) : Except Fault Block :=
  if block.attached then .error .secondParent else .ok { block with attached := true }

/-- Checks that something can be added. -/
def checkOpen (block : Block) : Except Fault Unit :=
  if block.isSealed then .error .sealedBlock else .ok ()

/-- Adds nodes at the end. -/
def add (block : Block) (nodes : List Node) : Except Fault Block := do
  block.checkOpen
  return { block with reversed := nodes.reverse ++ block.reversed }

/-- Adds leaves at the end. -/
def addLeaves (block : Block) (leaves : List Leaf) : Except Fault Block :=
  block.add (Node.ofLeaves leaves)

/-- Seals the block.  The blocks in it were sealed before. -/
def close (block : Block) : Block := { block with isSealed := true }

end Block

end Shorthand
