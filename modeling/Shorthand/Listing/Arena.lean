import Shorthand.Listing.Block

/-!
# Containers that share an arena

Containers of code can be made in any order and put into each other.  They live in an arena and
are known by their numbers.  A container belongs to at most one other; sealing one seals all
that is in it.

Nothing keeps a container from being put into itself, so the functions that descend into
containers take fuel.  As many steps as there are containers are enough wherever none is inside
itself.
-/

namespace Shorthand

/-- What a container holds. -/
inductive Child where
  | leaf (leaf : Leaf)
  | variable (v : Variable)
  /-- Another container, by its number. -/
  | container (number : Nat)
deriving DecidableEq, Inhabited

/-- A container. -/
structure Container where
  role : Role
  children : List Child
  attached : Bool
  isSealed : Bool
deriving DecidableEq, Inhabited

/-- The containers that were made, by their numbers. -/
structure Arena where
  containers : List Container

namespace Arena

/-- No containers. -/
def empty : Arena := ⟨[]⟩

/-- The container with a number. -/
def get? (arena : Arena) (number : Nat) : Option Container := arena.containers[number]?

/-- Changes a container. -/
def update (arena : Arena) (number : Nat) (change : Container → Container) : Arena :=
  ⟨arena.containers.modify number change⟩

/-- Makes a container; its number is the number of those before it. -/
def make (arena : Arena) (role : Role) : Arena × Nat :=
  (⟨arena.containers ++ [⟨role, [], false, false⟩]⟩, arena.containers.length)

/-- Marks a container as having its place. -/
def attach (arena : Arena) (number : Nat) : Except Fault Arena :=
  match arena.get? number with
  | some container =>
      if container.attached then .error .secondParent
      else .ok (arena.update number fun c => { c with attached := true })
  | none => .ok arena

/-- What has to be done with a child before it is added: a container gets its place. -/
def receive (arena : Arena) : Child → Except Fault Arena
  | .container number => arena.attach number
  | .leaf _ | .variable _ => .ok arena

/-- Adds children one by one, up to one that commits a fault. -/
def addOnto (number : Nat) (arena : Arena) : List Child → Arena × Option Fault
  | [] => (arena, none)
  | child :: children =>
      match arena.receive child with
      | .error fault => (arena, some fault)
      | .ok arena =>
          let arena := arena.update number fun c => { c with children := c.children ++ [child] }
          addOnto number arena children

/-- Adds children at the end of a container.  Those before one that commits a fault stay. -/
def add (arena : Arena) (number : Nat) (children : List Child) : Arena × Option Fault :=
  match arena.get? number with
  | some container =>
      if container.isSealed then (arena, some .sealedBlock) else addOnto number arena children
  | none => (arena, none)

/-- Seals a container and all that is in it, as deep as the fuel goes. -/
def sealTo : Nat → Arena → Nat → Arena
  | 0, arena, _ => arena
  | fuel + 1, arena, number =>
      match arena.get? number with
      | none => arena
      | some container =>
          container.children.foldl (fun arena child =>
            match child with
            | .container inner => sealTo fuel arena inner
            | .leaf _ | .variable _ => arena)
            (arena.update number fun c => { c with isSealed := true })

/-- Seals a container and all that is in it. -/
def close (arena : Arena) (number : Nat) : Arena :=
  sealTo arena.containers.length arena number

/-- The lines of a container, as deep as the fuel goes. -/
def linesTo (arena : Arena) : Nat → Nat → Sequence String
  | 0, _ => .of []
  | fuel + 1, number =>
      match arena.get? number with
      | none => .of []
      | some container =>
          .concat [
            leafLines container.role.before,
            .each container.children fun
              | .leaf leaf => .of [leaf.line]
              | .variable v => v.lines
              | .container inner => linesTo arena fuel inner,
            leafLines container.role.after]

/-- The lines of a container. -/
def lines (arena : Arena) (number : Nat) : Sequence String :=
  linesTo arena arena.containers.length number

/-- The kind of a child, for diagnosis. -/
def kindName (arena : Arena) : Child → String
  | .leaf leaf => leaf.kindName
  | .variable _ => "variable"
  | .container number => (arena.get? number).elim "" fun c => c.role.kindName

/-- The children of a container. -/
def children (arena : Arena) (number : Nat) : List Child :=
  (arena.get? number).elim [] Container.children

/-- The kinds of the children of a container. -/
def kinds (arena : Arena) (number : Nat) : Sequence String :=
  .of ((arena.children number).map arena.kindName)

end Arena

end Shorthand
