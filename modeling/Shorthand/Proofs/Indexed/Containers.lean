import Mathlib.Data.List.Nodup
import Shorthand.Listing.Arena

/-!
# Containers that are filled

While code is made, some containers of an arena are open: they are filled at their ends.  All others
are sealed, and nothing changes them any more.  A `Cell` says what an open container holds: the
nodes of the code in it, and after them at most one more container that is open itself.

`Holds` says that an arena holds given cells, each in a container of its own.  What can be done to
an arena is said in terms of the cells: to add leaves to one of them, to nest a new one in it, and
to end the one that is nested.  None of these is ever a fault.
-/

namespace Shorthand.Arena

/-! ## Access -/

/-- The arena with another container in the place of the one with a number. -/
def put (arena : Arena) (number : Nat) (container : Container) : Arena :=
  ⟨arena.containers.set number container⟩

section access

variable {arena : Arena} {number : Nat} {container : Container}

theorem lt_length_of_get? (h : arena.get? number = some container) :
    number < arena.containers.length :=
  (List.getElem?_eq_some_iff.mp h).1

theorem get?_put_self (h : arena.get? number = some container) (changed : Container) :
    (arena.put number changed).get? number = some changed := by
  simp [get?, put, lt_length_of_get? h]

theorem get?_put_of_ne {other : Nat} (h : other ≠ number) :
    (arena.put number container).get? other = arena.get? other := by
  simp [get?, put, List.getElem?_set_ne h.symm]

theorem put_put (first second : Container) :
    (arena.put number first).put number second = arena.put number second := by
  simp [put]

theorem put_self (h : arena.get? number = some container) : arena.put number container = arena := by
  obtain ⟨hlength, hget⟩ := List.getElem?_eq_some_iff.mp h
  rw [put, ← hget, List.set_getElem_self]

theorem update_eq (h : arena.get? number = some container) (change : Container → Container) :
    arena.update number change = arena.put number (change container) := by
  obtain ⟨hlength, hget⟩ := List.getElem?_eq_some_iff.mp h
  rw [update, put, List.modify_eq_set_get _ hlength]
  simp [← hget]

theorem get?_make_self (arena : Arena) (role : Role) :
    (arena.make role).1.get? (arena.make role).2 = some ⟨role, [], false, false⟩ := by
  simp [get?, make]

theorem get?_make_of_some (h : arena.get? number = some container) (role : Role) :
    (arena.make role).1.get? number = some container := by
  rw [get?, make, List.getElem?_append_left (lt_length_of_get? h)]
  exact h

end access

/-! ## Sealed containers -/

mutual

/-- The child is the node: all containers in it are sealed, and their numbers grow inwards. -/
inductive Shows (arena : Arena) : Nat → Child → Node → Prop where
  | leaf {low : Nat} (leaf : Leaf) : Shows arena low (.leaf leaf) (.leaf leaf)
  | block {low number : Nat} {container : Container} {nodes : List Node} (hlow : low < number)
      (hget : arena.get? number = some container) (hsealed : container.isSealed = true)
      (hchildren : ShowsAll arena number container.children nodes) :
      Shows arena low (.container number) (.block nodes)

/-- The children are the nodes. -/
inductive ShowsAll (arena : Arena) : Nat → List Child → List Node → Prop where
  | nil {low : Nat} : ShowsAll arena low [] []
  | cons {low : Nat} {child : Child} {children : List Child} {node : Node} {nodes : List Node}
      (hfirst : Shows arena low child node) (hrest : ShowsAll arena low children nodes) :
      ShowsAll arena low (child :: children) (node :: nodes)

end

/-- What is sealed in the first arena is the same in the second. -/
def Extends (arena arena' : Arena) : Prop :=
  ∀ number container, arena.get? number = some container → container.isSealed = true →
    arena'.get? number = some container

mutual

theorem Shows.mono {arena arena' : Arena} (hextends : arena.Extends arena') :
    ∀ {low : Nat} {child : Child} {node : Node}, Shows arena low child node →
      Shows arena' low child node
  | _, _, _, .leaf leaf => .leaf leaf
  | _, _, _, .block hlow hget hsealed hchildren =>
      .block hlow (hextends _ _ hget hsealed) hsealed (ShowsAll.mono hextends hchildren)

theorem ShowsAll.mono {arena arena' : Arena} (hextends : arena.Extends arena') :
    ∀ {low : Nat} {children : List Child} {nodes : List Node}, ShowsAll arena low children nodes →
      ShowsAll arena' low children nodes
  | _, _, _, .nil => .nil
  | _, _, _, .cons hfirst hrest => .cons (Shows.mono hextends hfirst) (ShowsAll.mono hextends hrest)

end

theorem ShowsAll.append {arena : Arena} {low : Nat} {children more : List Child}
    {nodes others : List Node} (h : ShowsAll arena low children nodes)
    (hmore : ShowsAll arena low more others) :
    ShowsAll arena low (children ++ more) (nodes ++ others) := by
  induction children generalizing nodes with
  | nil =>
      cases h
      exact hmore
  | cons child children ih =>
      cases h with
      | cons hfirst hrest => exact .cons hfirst (ih hrest)

theorem showsAll_leaves (arena : Arena) (low : Nat) (leaves : List Leaf) :
    ShowsAll arena low (leaves.map .leaf) (Node.ofLeaves leaves) := by
  induction leaves with
  | nil => exact .nil
  | cons leaf leaves ih => exact .cons (.leaf leaf) ih

theorem extends_put {arena : Arena} {number : Nat} {container : Container}
    (hget : arena.get? number = some container) (hopen : container.isSealed = false)
    (changed : Container) : arena.Extends (arena.put number changed) := by
  intro other kept hkept hsealed
  rw [get?_put_of_ne, hkept]
  rintro rfl
  obtain rfl := Option.some.inj (hkept.symm.trans hget)
  rw [hopen] at hsealed
  cases hsealed

theorem extends_make (arena : Arena) (role : Role) : arena.Extends (arena.make role).1 :=
  fun _ _ hget _ => get?_make_of_some hget role

/-! ## Sealing -/

mutual

-- What is sealed already is not changed by sealing it once more, however deep that goes.
theorem sealTo_eq_self {arena : Arena} : ∀ {low number : Nat} {node : Node} (fuel : Nat),
    Shows arena low (.container number) node → sealTo fuel arena number = arena
  | _, _, _, 0, _ => rfl
  | _, _, _, fuel + 1, @Shows.block _ _ _ container _ _ hget hsealed hchildren => by
      have hsame : { container with isSealed := true } = container := by rw [← hsealed]
      rw [sealTo, hget]
      dsimp only
      rw [update_eq hget, hsame, put_self hget]
      exact sealChildren_eq_self fuel hchildren

theorem sealChildren_eq_self {arena : Arena} : ∀ {low : Nat} {children : List Child}
    {nodes : List Node} (fuel : Nat), ShowsAll arena low children nodes →
    children.foldl (fun arena child =>
      match child with
      | .container inner => sealTo fuel arena inner
      | .leaf _ | .variable _ => arena) arena = arena
  | _, _, _, _, .nil => rfl
  | _, _, _, fuel, @ShowsAll.cons _ _ child _ _ _ hfirst hrest => by
      rw [List.foldl_cons]
      rcases child with _ | _ | inner
      · exact sealChildren_eq_self fuel hrest
      · exact sealChildren_eq_self fuel hrest
      · dsimp only
        rw [sealTo_eq_self fuel hfirst]
        exact sealChildren_eq_self fuel hrest

end

theorem close_eq {arena : Arena} {number : Nat} {container : Container} {nodes : List Node}
    (hget : arena.get? number = some container) (hopen : container.isSealed = false)
    (hchildren : ShowsAll arena number container.children nodes) :
    arena.close number = arena.put number { container with isSealed := true } := by
  obtain ⟨fuel, hfuel⟩ : ∃ fuel, arena.containers.length = fuel + 1 :=
    Nat.exists_eq_succ_of_ne_zero (Nat.ne_of_gt (Nat.zero_lt_of_lt (lt_length_of_get? hget)))
  rw [close, hfuel, sealTo, hget]
  dsimp only
  rw [update_eq hget]
  exact sealChildren_eq_self fuel (hchildren.mono (extends_put hget hopen _))

/-! ## Cells -/

/-- What an open container holds. -/
structure Cell where
  number : Nat
  /-- The code in it, except what is still open. -/
  nodes : List Node
  /-- The container at its end, if that is open. -/
  inner? : Option Nat

/-- The arena holds the cell: its container is open, and has in it what the cell says. -/
def Fills (arena : Arena) (cell : Cell) : Prop :=
  ∃ container children, arena.get? cell.number = some container ∧ container.isSealed = false ∧
    container.children = children ++ cell.inner?.toList.map .container ∧
    ShowsAll arena cell.number children cell.nodes ∧ ∀ inner ∈ cell.inner?, cell.number < inner

/-- The arena holds the cells, each in a container of its own. -/
structure Holds (arena : Arena) (cells : List Cell) : Prop where
  distinct : (cells.map Cell.number).Nodup
  fills : ∀ cell ∈ cells, arena.Fills cell

section cells

variable {arena : Arena} {number : Nat} {container : Container} {cell : Cell} {cells : List Cell}

theorem Fills.put (h : arena.Fills cell) (hget : arena.get? number = some container)
    (hopen : container.isSealed = false) (hne : cell.number ≠ number) (changed : Container) :
    (arena.put number changed).Fills cell := by
  obtain ⟨kept, children, hkept, hcell, hchildren, hshows, hinner⟩ := h
  refine ⟨kept, children, ?_, hcell, hchildren, hshows.mono (extends_put hget hopen changed),
    hinner⟩
  rw [get?_put_of_ne hne, hkept]

theorem Fills.make (h : arena.Fills cell) (role : Role) : (arena.make role).1.Fills cell := by
  obtain ⟨kept, children, hkept, hcell, hchildren, hshows, hinner⟩ := h
  exact ⟨kept, children, get?_make_of_some hkept role, hcell, hchildren,
    hshows.mono (extends_make arena role), hinner⟩

theorem Fills.lt_length (h : arena.Fills cell) : cell.number < arena.containers.length := by
  obtain ⟨kept, _, hkept, _⟩ := h
  exact lt_length_of_get? hkept

theorem Holds.head (h : arena.Holds (cell :: cells)) : arena.Fills cell :=
  h.fills cell (List.mem_cons_self ..)

theorem Holds.tail (h : arena.Holds (cell :: cells)) : arena.Holds cells where
  distinct := (List.nodup_cons.mp h.distinct).2
  fills := fun other hother => h.fills other (List.mem_cons_of_mem _ hother)

theorem Holds.perm {others : List Cell} (h : arena.Holds cells) (hperm : cells.Perm others) :
    arena.Holds others where
  distinct := (hperm.map Cell.number).nodup_iff.mp h.distinct
  fills := fun other hother => h.fills other (hperm.mem_iff.mpr hother)

-- A change of the first cell leaves the others as they are.
theorem Holds.change (h : arena.Holds (cell :: cells))
    (hget : arena.get? cell.number = some container) (hopen : container.isSealed = false)
    (changed : Container) : (arena.put cell.number changed).Holds cells where
  distinct := h.tail.distinct
  fills := by
    intro other hother
    refine (h.tail.fills other hother).put hget hopen ?_ changed
    intro heq
    exact (List.nodup_cons.mp h.distinct).1 (heq ▸ List.mem_map_of_mem hother)

theorem Holds.cons {changed : Cell} (h : arena.Holds cells) (hcell : arena.Fills changed)
    (hnew : changed.number ∉ cells.map Cell.number) : arena.Holds (changed :: cells) where
  distinct := List.nodup_cons.mpr ⟨hnew, h.distinct⟩
  fills := List.forall_mem_cons.mpr ⟨hcell, h.fills⟩

/-- A new container is a cell without anything in it. -/
theorem Holds.make (h : arena.Holds cells) (role : Role) :
    (arena.make role).1.Holds (⟨(arena.make role).2, [], none⟩ :: cells) := by
  have hcells : (arena.make role).1.Holds cells :=
    ⟨h.distinct, fun cell hcell => (h.fills cell hcell).make role⟩
  refine hcells.cons ⟨_, [], get?_make_self arena role, rfl, rfl, .nil, nofun⟩ ?_
  rintro hmem
  obtain ⟨cell, hcell, hnumber⟩ := List.mem_map.mp hmem
  exact Nat.lt_irrefl _ (hnumber ▸ (h.fills cell hcell).lt_length)

end cells

/-! ## Filling cells -/

theorem addOnto_leaves {arena : Arena} {number : Nat} {container : Container}
    (hget : arena.get? number = some container) (leaves : List Leaf) :
    addOnto number arena (leaves.map .leaf) =
      (arena.put number { container with children := container.children ++ leaves.map .leaf },
        none) := by
  induction leaves generalizing arena container with
  | nil => simp [addOnto, put_self hget]
  | cons leaf leaves ih =>
      rw [List.map_cons, addOnto, receive]
      dsimp only
      rw [update_eq hget, ih (get?_put_self hget _), put_put]
      simp

theorem add_eq_addOnto {arena : Arena} {number : Nat} {container : Container}
    (hget : arena.get? number = some container) (hopen : container.isSealed = false)
    (children : List Child) : arena.add number children = addOnto number arena children := by
  rw [add, hget]
  exact if_neg (by simp [hopen])

section filling

variable {arena : Arena} {number : Nat} {nodes : List Node} {cells : List Cell}

theorem Holds.add_leaves (h : arena.Holds (⟨number, nodes, none⟩ :: cells)) (leaves : List Leaf) :
    ∃ arena', arena.add number (leaves.map .leaf) = (arena', none) ∧
      arena'.Holds (⟨number, nodes ++ Node.ofLeaves leaves, none⟩ :: cells) := by
  obtain ⟨container, children, hget, hopen, hchildren, hshows, _⟩ := h.head
  obtain rfl : container.children = children := by simpa using hchildren
  refine ⟨_, (add_eq_addOnto hget hopen _).trans (addOnto_leaves hget leaves), ?_⟩
  refine (h.change hget hopen _).cons ?_ (List.nodup_cons.mp h.distinct).1
  refine ⟨_, _, get?_put_self hget _, hopen, (List.append_nil _).symm, ?_, nofun⟩
  exact (hshows.mono (extends_put hget hopen _)).append (showsAll_leaves ..)

/-- A container that has no place yet goes to the end of the second cell. -/
theorem Holds.add_container {inner : Nat} {inside : List Node} {container : Container}
    (h : arena.Holds (⟨inner, inside, none⟩ :: ⟨number, nodes, none⟩ :: cells))
    (hinner : arena.get? inner = some container) (hfree : container.attached = false)
    (hlt : number < inner) :
    ∃ arena', arena.add number [.container inner] = (arena', none) ∧
      arena'.Holds (⟨inner, inside, none⟩ :: ⟨number, nodes, some inner⟩ :: cells) := by
  obtain ⟨_, inner', hget, hopen, hchildren, hshows, _⟩ := h.head
  obtain rfl := Option.some.inj (hinner.symm.trans hget)
  -- first the inner container gets its place
  let placed : Container := { container with attached := true }
  have hattach : arena.attach inner = .ok (arena.put inner placed) := by
    rw [attach, hinner]
    exact (if_neg (by simp [hfree])).trans (by rw [update_eq hinner])
  have hplaced : (arena.put inner placed).Holds
      (⟨inner, inside, none⟩ :: ⟨number, nodes, none⟩ :: cells) := by
    refine (h.change hinner hopen placed).cons ?_ (List.nodup_cons.mp h.distinct).1
    exact ⟨placed, inner', get?_put_self hinner _, hopen, hchildren,
      hshows.mono (extends_put hinner hopen _), nofun⟩
  -- then it is added to the outer one
  have hswapped := hplaced.perm (.swap ..)
  obtain ⟨_, _, houter, houterOpen, _⟩ := h.tail.head
  obtain ⟨outer, children, hget, hopen, hchildren, hshows, _⟩ := hswapped.head
  have hadd : arena.add number [.container inner] =
      ((arena.put inner placed).put number
        { outer with children := outer.children ++ [.container inner] }, none) := by
    rw [add_eq_addOnto houter houterOpen, addOnto, receive, hattach]
    dsimp only
    rw [update_eq hget, addOnto]
  refine ⟨_, hadd, Holds.perm ?_ (.swap ..)⟩
  refine (hswapped.change hget hopen _).cons ?_ (List.nodup_cons.mp hswapped.distinct).1
  refine ⟨_, children, get?_put_self hget _, hopen, ?_,
    hshows.mono (extends_put hget hopen _), ?_⟩
  · rw [hchildren]
    simp
  · rintro _ ⟨⟩
    exact hlt

/-- A new container goes to the end of the first cell and becomes a cell itself. -/
theorem Holds.add_made (h : arena.Holds (⟨number, nodes, none⟩ :: cells)) (role : Role) :
    ∃ arena', (arena.make role).1.add number [.container (arena.make role).2] = (arena', none) ∧
      arena'.Holds (⟨(arena.make role).2, [], none⟩ ::
        ⟨number, nodes, some (arena.make role).2⟩ :: cells) :=
  (h.make role).add_container (get?_make_self arena role) rfl h.head.lt_length

/-- The first cell, which is at the end of the second one, is sealed. -/
theorem Holds.close {inner : Nat} {inside : List Node}
    (h : arena.Holds (⟨inner, inside, none⟩ :: ⟨number, nodes, some inner⟩ :: cells)) :
    (arena.close inner).Holds (⟨number, nodes ++ [.block inside], none⟩ :: cells) := by
  obtain ⟨container, children, hget, hopen, hchildren, hinside, _⟩ := h.head
  obtain rfl : container.children = children := by simpa using hchildren
  rw [close_eq hget hopen hinside]
  have hextends := extends_put hget hopen { container with isSealed := true }
  have hrest := h.change hget hopen { container with isSealed := true }
  obtain ⟨outer, children, houter, houterOpen, houterChildren, hshows, hlt⟩ := hrest.head
  refine hrest.tail.cons ?_ (List.nodup_cons.mp hrest.distinct).1
  refine ⟨outer, outer.children, houter, houterOpen, by simp, ?_, nofun⟩
  rw [houterChildren]
  refine hshows.append (.cons ?_ .nil)
  exact .block (hlt inner rfl) (get?_put_self hget _) rfl (hinside.mono hextends)

end filling

/-! ## Reading -/

/-- The nodes of a container, as deep as the fuel goes. -/
def nodesTo (arena : Arena) : Nat → Nat → List Node
  | 0, _ => []
  | fuel + 1, number => (arena.children number).map fun
      | .leaf leaf => .leaf leaf
      | .variable v => .block (Node.ofLeaves v.leaves)
      | .container inner => .block (nodesTo arena fuel inner)

/-- The nodes of a container. -/
def nodes (arena : Arena) (number : Nat) : List Node := nodesTo arena arena.containers.length number

mutual

-- The numbers grow inwards, so that the fuel is enough if it is for the outermost container.
theorem nodesTo_eq {arena : Arena} : ∀ {low number fuel : Nat} {nodes : List Node},
    Shows arena low (.container number) (.block nodes) →
    arena.containers.length ≤ fuel + number → arena.nodesTo fuel number = nodes
  | _, number, 0, _, .block _ hget _ _, hfuel => by
      have := lt_length_of_get? hget
      omega
  | _, number, fuel + 1, _, .block _ hget _ hchildren, hfuel => by
      rw [nodesTo, children, hget]
      exact map_nodesTo_eq hchildren (by omega)

theorem map_nodesTo_eq {arena : Arena} : ∀ {low fuel : Nat} {children : List Child}
    {nodes : List Node}, ShowsAll arena low children nodes →
    arena.containers.length ≤ fuel + 1 + low →
    (children.map fun
      | .leaf leaf => .leaf leaf
      | .variable v => .block (Node.ofLeaves v.leaves)
      | .container inner => .block (nodesTo arena fuel inner)) = nodes
  | _, _, _, _, .nil, _ => rfl
  | _, _, _, _, @ShowsAll.cons _ _ child _ node _ hfirst hrest, hfuel => by
      rw [List.map_cons, map_nodesTo_eq hrest hfuel]
      congr 1
      match child, node, hfirst with
      | _, _, .leaf leaf => rfl
      | _, _, .block hlow hget hsealed hchildren =>
          exact congrArg Node.block
            (nodesTo_eq (.block hlow hget hsealed hchildren) (by omega))

end

/-- The container of the cell is sealed, and has in it what the cell says. -/
def Keeps (arena : Arena) (cell : Cell) : Prop :=
  ∃ container, arena.get? cell.number = some container ∧ container.isSealed = true ∧
    ShowsAll arena cell.number container.children cell.nodes

theorem Keeps.mono {arena arena' : Arena} {cell : Cell} (h : arena.Keeps cell)
    (hextends : arena.Extends arena') : arena'.Keeps cell := by
  obtain ⟨container, hget, hsealed, hshows⟩ := h
  exact ⟨container, hextends _ _ hget hsealed, hsealed, hshows.mono hextends⟩

theorem Keeps.nodes_eq {arena : Arena} {cell : Cell} (h : arena.Keeps cell) :
    arena.nodes cell.number = cell.nodes := by
  obtain ⟨container, hget, _, hshows⟩ := h
  obtain ⟨fuel, hfuel⟩ : ∃ fuel, arena.containers.length = fuel + 1 :=
    Nat.exists_eq_succ_of_ne_zero (Nat.ne_of_gt (Nat.zero_lt_of_lt (lt_length_of_get? hget)))
  rw [nodes, hfuel, nodesTo, children, hget]
  exact map_nodesTo_eq hshows (by omega)

/-- Seals containers in order. -/
def closeAll (arena : Arena) (numbers : List Nat) : Arena := numbers.foldl close arena

-- A container that is sealed is not changed when another one is.
theorem Holds.closeAll {arena : Arena} {cells : List Cell} (h : arena.Holds cells)
    (hflat : ∀ cell ∈ cells, cell.inner? = none) :
    arena.Extends (arena.closeAll (cells.map Cell.number)) ∧
      ∀ cell ∈ cells, (arena.closeAll (cells.map Cell.number)).Keeps cell := by
  induction cells generalizing arena with
  | nil => exact ⟨fun _ _ hget _ => hget, nofun⟩
  | cons cell cells ih =>
      obtain ⟨hnone, hrest⟩ := List.forall_mem_cons.mp hflat
      obtain ⟨container, children, hget, hopen, hchildren, hshows, _⟩ := h.head
      obtain rfl : container.children = children := by simpa [hnone] using hchildren
      have hclose := close_eq hget hopen hshows
      have hextends := extends_put hget hopen { container with isSealed := true }
      have hcells := h.change hget hopen { container with isSealed := true }
      rw [← hclose] at hextends hcells
      have hkeeps : (arena.close cell.number).Keeps cell := by
        refine ⟨{ container with isSealed := true }, ?_, rfl, hshows.mono hextends⟩
        rw [hclose, get?_put_self hget]
      obtain ⟨hextends', hkept⟩ := ih hcells hrest
      refine ⟨fun number kept hkept hsealed => ?_, List.forall_mem_cons.mpr ⟨?_, hkept⟩⟩
      · exact hextends' number kept (hextends number kept hkept hsealed) hsealed
      · exact hkeeps.mono hextends'

end Shorthand.Arena
