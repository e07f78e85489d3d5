import Shorthand.Proofs.Listing.Descent

/-!
# Who owns a container

Containers are made, filled and sealed in any order.  Filling may commit a fault midway, and what
was added before it stays.  As long as no container comes into itself or into one of its
descendants, every container has at most one place among all children, it is marked as attached just
when it has one, everything in a sealed container is sealed, and the lines of a sealed container
never change again.

## Strategy

`Owned` is what every operation keeps.

* A call of `add` is a row of single additions, up to its fault (`Fed`).  `Gains` says what one of
  them does: an open container gets one more child at its end, and if the child is a container, it
  had no place and has one now.  An edge to a container from which the way does not lead back closes
  no circle (`Gains.cases_transGen`), and it stays so for the additions after it
  (`Gains.reaches_number`).
* `close` seals a container and its descendants (`seals_sealTo`), because the fuel is enough where
  nothing is inside itself.
* `Preserves` says that what was sealed is still sealed and has the content that it had.  All that
  is below a sealed container is sealed, so its lines are made of sealed containers only.
-/

namespace Shorthand.Arena

/-! ## Operations -/

/-- What can be done with containers. -/
inductive Operation where
  | make (role : Role)
  /-- Adds children to the container with a number. -/
  | add (number : Nat) (children : List Child)
  /-- Seals the container with a number. -/
  | close (number : Nat)

/-- The arena after an operation.  Of an addition that commits a fault, this is what is left. -/
def perform (arena : Arena) : Operation → Arena
  | .make role => (arena.make role).1
  | .add number children => (arena.add number children).1
  | .close number => arena.close number

/-- The arena after operations. -/
def performAll (arena : Arena) (operations : List Operation) : Arena :=
  operations.foldl perform arena

/-- The children that a container gets when children are added to it: all of them, if there is no
fault. -/
def added (arena : Arena) (number : Nat) (children : List Child) : List Child :=
  ((arena.add number children).1.children number).drop (arena.children number).length

/-- Only containers that were made are added, and none gets into itself or one of its
descendants. -/
def Allows (arena : Arena) : Operation → Prop
  | .make _ | .close _ => True
  | .add number children =>
      (∀ inner, .container inner ∈ children → inner < arena.containers.length) ∧
        ∀ inner, .container inner ∈ arena.added number children → ¬ arena.Reaches inner number

/-- Every operation is allowed where it is performed. -/
def AllowsAll (arena : Arena) : List Operation → Prop
  | [] => True
  | operation :: operations =>
      arena.Allows operation ∧ (arena.perform operation).AllowsAll operations

/-- The children of all containers. -/
def allChildren (arena : Arena) : List Child := arena.containers.flatMap Container.children

/-! ## What operations keep -/

/-- Containers have at most one place, sealed ones hold sealed ones, and none is inside itself. -/
structure Owned (arena : Arena) : Prop where
  count_eq : ∀ number, arena.allChildren.count (.container number) =
    if arena.isAttached number then 1 else 0
  sealed_below : ∀ outer inner, arena.Contains outer inner → arena.isSealed outer = true →
    arena.isSealed inner = true
  acyclic : arena.Acyclic

/-- What is sealed stays sealed, with what it holds, and no container is lost. -/
structure Preserves (arena arena' : Arena) : Prop where
  length_le : arena.containers.length ≤ arena'.containers.length
  isSealed : ∀ number, arena.isSealed number = true → arena'.isSealed number = true
  content_eq : ∀ number, arena.isSealed number = true →
    arena'.content number = arena.content number

section invariants

variable {arena arena' arena'' : Arena} {number : Nat} {container changed : Container}

theorem Preserves.refl (arena : Arena) : arena.Preserves arena :=
  ⟨Nat.le_refl _, fun _ h => h, fun _ _ => rfl⟩

theorem Preserves.trans (h : arena.Preserves arena') (hmore : arena'.Preserves arena'') :
    arena.Preserves arena'' where
  length_le := Nat.le_trans h.length_le hmore.length_le
  isSealed number hsealed := hmore.isSealed number (h.isSealed number hsealed)
  content_eq number hsealed :=
    (hmore.content_eq number (h.isSealed number hsealed)).trans (h.content_eq number hsealed)

theorem Contains.mem_allChildren {outer inner : Nat} (h : arena.Contains outer inner) :
    .container inner ∈ arena.allChildren := by
  cases hget : arena.get? outer with
  | none =>
      rw [Contains, children_of_get?_none hget] at h
      cases h
  | some container =>
      rw [Contains, children_of_get? hget] at h
      exact List.mem_flatMap.mpr ⟨container, List.mem_of_getElem? hget, h⟩

theorem Owned.attached_iff (h : arena.Owned) (number : Nat) :
    arena.isAttached number = true ↔ .container number ∈ arena.allChildren := by
  rw [← List.count_pos_iff, h.count_eq]
  split <;> simp_all

/-- A container that is a child was made. -/
theorem Owned.lt_length (h : arena.Owned) {outer inner : Nat}
    (hinner : arena.Contains outer inner) :
    inner < arena.containers.length :=
  lt_length_of_isAttached ((h.attached_iff inner).mpr hinner.mem_allChildren)

/-- All that is in a sealed container is sealed. -/
theorem Owned.isSealed_of_reaches (h : arena.Owned) {outer inner : Nat}
    (hsealed : arena.isSealed outer = true) (hreaches : arena.Reaches outer inner) :
    arena.isSealed inner = true := by
  induction hreaches with
  | refl => exact hsealed
  | tail _ hinner ih => exact h.sealed_below _ _ hinner ih

/-- Fuel for every container is enough. -/
theorem Owned.within (h : arena.Owned) (hnumber : number < arena.containers.length) :
    arena.Within arena.containers.length number :=
  within_of_acyclic h.acyclic (fun _ _ => h.lt_length) hnumber

/-- Sealed containers keep their lines. -/
theorem Owned.lines_eq (h : arena.Owned) (hpreserves : arena.Preserves arena')
    (hsealed : arena.isSealed number = true) : arena'.lines number = arena.lines number := by
  have hnumber := lt_length_of_isSealed hsealed
  calc arena'.lines number
      = linesTo arena' arena'.containers.length number := rfl
    _ = linesTo arena arena'.containers.length number :=
        linesTo_eq_of_contents _ number fun other hother =>
          hpreserves.content_eq other (h.isSealed_of_reaches hsealed hother)
    _ = linesTo arena arena.containers.length number :=
        linesTo_eq_of_within _ number _ (h.within hnumber) hpreserves.length_le
    _ = arena.lines number := rfl

/-! ## Making and sealing containers -/

theorem allChildren_congr (h : ∀ number, arena'.content number = arena.content number) :
    arena'.allChildren = arena.allChildren := by
  have hmap : arena'.containers.map Container.children =
      arena.containers.map Container.children := by
    refine List.ext_getElem? fun number => ?_
    have hcontent := congrArg (Option.map Prod.snd) (h number)
    simpa [content, get?, Function.comp_def] using hcontent
  rw [allChildren, allChildren, List.flatMap_def, List.flatMap_def, hmap]

theorem Owned.empty : Arena.empty.Owned := by
  have hnone : ∀ number, Arena.empty.children number = [] := fun _ => rfl
  have hcontains : ∀ outer inner, ¬ Arena.empty.Contains outer inner := by
    intro outer inner h
    rw [Contains, hnone] at h
    cases h
  refine ⟨fun _ => rfl, fun outer inner h => absurd h (hcontains outer inner), ?_⟩
  intro number hcircle
  obtain ⟨inner, hinner, -⟩ := Relation.TransGen.head'_iff.mp hcircle
  exact hcontains number inner hinner

/-- A new container reads like one that was not made yet. -/
theorem getD_make {α : Type} (f : Container → α) (arena : Arena) (role : Role) (other : Nat) :
    (((arena.make role).1.get? other).map f).getD (f ⟨role, [], false, false⟩) =
      ((arena.get? other).map f).getD (f ⟨role, [], false, false⟩) := by
  rcases Nat.lt_trichotomy other arena.containers.length with hlt | rfl | hgt
  · simp [get?, make, List.getElem?_append_left hlt]
  · simp [get?, make]
  · have hnew : (arena.make role).1.get? other = none := by
      refine List.getElem?_eq_none ?_
      rw [make, List.length_append]
      exact hgt
    have hold : arena.get? other = none := List.getElem?_eq_none (Nat.le_of_lt hgt)
    rw [hnew, hold]

theorem Owned.make (h : arena.Owned) (role : Role) :
    (arena.make role).1.Owned ∧ arena.Preserves (arena.make role).1 := by
  have hall : (arena.make role).1.allChildren = arena.allChildren := by
    simp [allChildren, Arena.make]
  have hchildren : (arena.make role).1.children = arena.children := by
    funext other
    rw [children_eq_getD, children_eq_getD]
    exact getD_make Container.children arena role other
  have hsealed : (arena.make role).1.isSealed = arena.isSealed :=
    funext (getD_make Container.isSealed arena role)
  have hattached : (arena.make role).1.isAttached = arena.isAttached :=
    funext (getD_make Container.attached arena role)
  have hcontains := contains_congr hchildren
  refine ⟨⟨?_, ?_, ?_⟩, ⟨?_, ?_, ?_⟩⟩
  · rw [hall, hattached]
    exact h.count_eq
  · rw [hcontains, hsealed]
    exact h.sealed_below
  · rw [Acyclic, hcontains]
    exact h.acyclic
  · simp [Arena.make]
  · rw [hsealed]
    exact fun _ hother => hother
  · intro other hother
    cases hget : arena.get? other with
    | none => simp [isSealed, hget] at hother
    | some container =>
        rw [content_of_get? hget, content_of_get? (get?_make_of_some hget role)]

/-- Sealing a container with its descendants. -/
theorem Owned.close (h : arena.Owned) (number : Nat) :
    (arena.close number).Owned ∧ arena.Preserves (arena.close number) := by
  by_cases hnumber : number < arena.containers.length
  · have hseals : arena.Seals (arena.Reaches number) (arena.close number) :=
      seals_sealTo _ arena number (h.within hnumber)
    have hcontains := contains_congr hseals.children_eq
    refine ⟨⟨?_, ?_, ?_⟩, ⟨?_, ?_, ?_⟩⟩
    · intro other
      rw [allChildren_congr hseals.content_eq, hseals.isAttached_eq]
      exact h.count_eq other
    · intro outer inner hinner hsealed
      rw [hcontains] at hinner
      rw [hseals.isSealed_iff hinner.lt_length] at hsealed
      rw [hseals.isSealed_iff (h.lt_length hinner)]
      -- what is below a descendant is a descendant
      rcases hsealed with hold | hnew
      · exact .inl (h.sealed_below outer inner hinner hold)
      · exact .inr (hnew.tail hinner)
    · rw [Acyclic, hcontains]
      exact h.acyclic
    · exact Nat.le_of_eq hseals.length_eq.symm
    · intro other hsealed
      exact (hseals.isSealed_iff (lt_length_of_isSealed hsealed)).mpr (.inl hsealed)
    · exact fun other _ => hseals.content_eq other
  · have hnone : arena.get? number = none := List.getElem?_eq_none (Nat.le_of_not_lt hnumber)
    have hsame : arena.close number = arena := by
      rw [Arena.close]
      cases arena.containers.length with
      | zero => rfl
      | succ fuel => rw [sealTo, hnone]
    rw [hsame]
    exact ⟨h, .refl arena⟩

/-! ## Adding one child -/

theorem map_get?_put {α : Type} (f : Container → α) (hget : arena.get? number = some container)
    (hsame : f changed = f container) (other : Nat) :
    ((arena.put number changed).get? other).map f = (arena.get? other).map f := by
  by_cases heq : other = number
  · subst heq
    rw [get?_put_self hget, hget]
    exact congrArg some hsame
  · rw [get?_put_of_ne heq]

theorem isSealed_put (hget : arena.get? number = some container)
    (hsame : changed.isSealed = container.isSealed) :
    (arena.put number changed).isSealed = arena.isSealed := by
  funext other
  rw [isSealed, map_get?_put Container.isSealed hget hsame]
  rfl

theorem isAttached_put (hget : arena.get? number = some container)
    (hsame : changed.attached = container.attached) :
    (arena.put number changed).isAttached = arena.isAttached := by
  funext other
  rw [isAttached, map_get?_put Container.attached hget hsame]
  rfl

theorem length_put (arena : Arena) (number : Nat) (changed : Container) :
    (arena.put number changed).containers.length = arena.containers.length :=
  List.length_set

/-- Changing what one container holds changes the count by what changed there. -/
theorem count_put (hget : arena.get? number = some container) (changed : Container)
    (child : Child) :
    (arena.put number changed).allChildren.count child + container.children.count child =
      arena.allChildren.count child + changed.children.count child := by
  obtain ⟨hlength, hcontainer⟩ := List.getElem?_eq_some_iff.mp hget
  have hsplit : arena.containers = arena.containers.take number ++
      container :: arena.containers.drop (number + 1) := by
    rw [← hcontainer, List.getElem_cons_drop, List.take_append_drop]
  have hput : (arena.put number changed).containers = arena.containers.take number ++
      changed :: arena.containers.drop (number + 1) := by
    rw [put, List.set_eq_take_append_cons_drop, if_pos hlength]
  have hcount : arena.allChildren.count child =
      ((arena.containers.take number ++ container :: arena.containers.drop (number + 1)).flatMap
        Container.children).count child := by rw [← hsplit, allChildren]
  rw [hcount, allChildren, hput]
  simp only [List.flatMap_append, List.flatMap_cons, List.count_append]
  omega

/-- The child is marked as having its place, if it is a container, and it had none before. -/
structure Receives (arena : Arena) (child : Child) (arena' : Arena) : Prop where
  length_eq : arena'.containers.length = arena.containers.length
  isSealed_eq : arena'.isSealed = arena.isSealed
  isAttached_eq : ∀ other, arena'.isAttached other =
    (arena.isAttached other || decide (child = .container other))
  free : ∀ inner, child = .container inner → arena.isAttached inner = false

/-- The container with the number gets the child at its end. -/
structure Gains (arena : Arena) (number : Nat) (child : Child) (arena' : Arena) : Prop
    extends Receives arena child arena' where
  content_of_ne : ∀ other, other ≠ number → arena'.content other = arena.content other
  children_self : arena'.children number = arena.children number ++ [child]
  count_eq : ∀ other, arena'.allChildren.count (.container other) =
    arena.allChildren.count (.container other) + if child = .container other then 1 else 0

theorem receives_of_receive {child : Child}
    (hknown : ∀ inner, child = .container inner → inner < arena.containers.length)
    (hreceive : arena.receive child = .ok arena') :
    arena.Receives child arena' ∧ ∀ other, arena'.content other = arena.content other := by
  rcases child with leaf | v | inner
  · obtain rfl := Except.ok.inj hreceive
    exact ⟨⟨rfl, rfl, by simp, nofun⟩, fun _ => rfl⟩
  · obtain rfl := Except.ok.inj hreceive
    exact ⟨⟨rfl, rfl, by simp, nofun⟩, fun _ => rfl⟩
  · obtain ⟨container, hget⟩ := exists_get? (hknown inner rfl)
    rw [receive, attach, hget] at hreceive
    dsimp only at hreceive
    split at hreceive
    · cases hreceive
    · rename_i hfree
      obtain rfl := Except.ok.inj hreceive
      rw [update_eq hget]
      refine ⟨⟨length_put .., isSealed_put hget rfl, ?_, ?_⟩, ?_⟩
      · intro other
        by_cases heq : other = inner
        · subst heq
          simp [isAttached, get?_put_self hget]
        · simp [isAttached, get?_put_of_ne heq, Ne.symm heq]
      · rintro other heq
        obtain rfl := Child.container.inj heq
        rw [isAttached_of_get? hget]
        simpa using hfree
      · exact map_get?_put (fun c => (c.role, c.children)) hget rfl

/-- A child that is received and put at the end is gained. -/
theorem gains_of_receive {child : Child} (hnumber : number < arena.containers.length)
    (hknown : ∀ inner, child = .container inner → inner < arena.containers.length)
    (hreceive : arena.receive child = .ok arena') :
    arena.Gains number child
      (arena'.update number fun c => { c with children := c.children ++ [child] }) := by
  obtain ⟨hreceives, hcontent⟩ := receives_of_receive hknown hreceive
  obtain ⟨container, hget⟩ := exists_get? (hreceives.length_eq.symm ▸ hnumber)
  have hall := allChildren_congr hcontent
  rw [update_eq hget]
  refine { length_eq := (length_put ..).trans hreceives.length_eq
           isSealed_eq := ?_, isAttached_eq := ?_, free := hreceives.free
           content_of_ne := ?_, children_self := ?_, count_eq := ?_ }
  · rw [← hreceives.isSealed_eq]
    exact isSealed_put hget rfl
  · intro other
    have hsame : (arena'.put number
        { container with children := container.children ++ [child] }).isAttached =
          arena'.isAttached := isAttached_put hget rfl
    rw [hsame, hreceives.isAttached_eq]
  · intro other hne
    rw [← hcontent other, content, content, get?_put_of_ne hne]
  · rw [← children_eq_of_content_eq (hcontent number), children_of_get? hget,
      children_of_get? (get?_put_self hget _)]
  · intro other
    have hcount := count_put hget
      { container with children := container.children ++ [child] }
      (.container other)
    rw [hall, List.count_append, List.count_singleton] at hcount
    simp only [beq_iff_eq] at hcount
    omega

namespace Gains

variable {child : Child}

theorem children_of_ne (h : arena.Gains number child arena') {other : Nat} (hne : other ≠ number) :
    arena'.children other = arena.children other :=
  children_eq_of_content_eq (h.content_of_ne other hne)

/-- The only new edge leads from the container to the child. -/
theorem cases_contains (h : arena.Gains number child arena') {outer inner : Nat}
    (hinner : arena'.Contains outer inner) :
    arena.Contains outer inner ∨ outer = number ∧ child = .container inner := by
  by_cases heq : outer = number
  · rw [Contains, heq, h.children_self, List.mem_append, List.mem_singleton] at hinner
    rcases hinner with hold | hnew
    · exact .inl (heq ▸ hold)
    · exact .inr ⟨heq, hnew.symm⟩
  · rw [Contains, h.children_of_ne heq] at hinner
    exact .inl hinner

/-- A way to the container that gained a child needs no edge from it. -/
theorem reaches_number (h : arena.Gains number child arena') {outer : Nat}
    (hreaches : arena'.Reaches outer number) : arena.Reaches outer number := by
  induction hreaches using Relation.ReflTransGen.head_induction_on with
  | refl => exact .refl
  | head hinner _ ih =>
      rcases h.cases_contains hinner with hold | ⟨rfl, -⟩
      · exact .head hold ih
      · exact .refl

/-- A way through the new edge comes to the container and goes on from the child. -/
theorem cases_transGen (h : arena.Gains number child arena') {first last : Nat}
    (hway : Relation.TransGen arena'.Contains first last) :
    Relation.TransGen arena.Contains first last ∨
      ∃ inner, child = .container inner ∧ arena.Reaches first number ∧
        arena.Reaches inner last := by
  induction hway with
  | single hinner =>
      rcases h.cases_contains hinner with hold | ⟨rfl, rfl⟩
      · exact .inl (.single hold)
      · exact .inr ⟨_, rfl, .refl, .refl⟩
  | tail _ hinner ih =>
      rcases h.cases_contains hinner with hold | ⟨rfl, rfl⟩
      · rcases ih with hway | ⟨inner, rfl, hfirst, hrest⟩
        · exact .inl (hway.tail hold)
        · exact .inr ⟨inner, rfl, hfirst, hrest.tail hold⟩
      · refine .inr ⟨_, rfl, ?_, .refl⟩
        rcases ih with hway | ⟨inner, -, hfirst, -⟩
        · exact hway.to_reflTransGen
        · exact hfirst

/-- Adding a child from which the way does not lead back keeps what operations keep. -/
theorem owned (h : arena.Gains number child arena') (howned : arena.Owned)
    (hopen : arena.isSealed number = false)
    (hback : ∀ inner, child = .container inner → ¬ arena.Reaches inner number) : arena'.Owned where
  count_eq := by
    intro other
    rw [h.count_eq, h.isAttached_eq, howned.count_eq]
    by_cases heq : child = .container other
    · simp [heq, h.free other heq]
    · simp [heq]
  sealed_below := by
    intro outer inner hinner hsealed
    rw [h.isSealed_eq] at hsealed ⊢
    rcases h.cases_contains hinner with hold | ⟨rfl, -⟩
    · exact howned.sealed_below outer inner hold hsealed
    · rw [hopen] at hsealed
      cases hsealed
  acyclic := by
    intro other hcircle
    rcases h.cases_transGen hcircle with hold | ⟨inner, hchild, hfirst, hrest⟩
    · exact howned.acyclic other hold
    · exact hback inner hchild (hrest.trans hfirst)

theorem preserves (h : arena.Gains number child arena') (hopen : arena.isSealed number = false) :
    arena.Preserves arena' where
  length_le := Nat.le_of_eq h.length_eq.symm
  isSealed := by
    rw [h.isSealed_eq]
    exact fun _ hother => hother
  content_eq := by
    rintro other hsealed
    refine h.content_of_ne other ?_
    rintro rfl
    rw [hopen] at hsealed
    cases hsealed

end Gains

/-! ## Adding children -/

/-- The container with the number gets the children, one after the other. -/
inductive Fed (number : Nat) : Arena → List Child → Arena → Prop where
  | nil (arena : Arena) : Fed number arena [] arena
  | cons {arena next last : Arena} {child : Child} {children : List Child}
      (hgains : arena.Gains number child next) (hrest : Fed number next children last) :
      Fed number arena (child :: children) last

theorem Fed.children_eq {children : List Child} (h : Fed number arena children arena') :
    arena'.children number = arena.children number ++ children := by
  induction h with
  | nil arena => exact (List.append_nil _).symm
  | cons hgains _ ih => rw [ih, hgains.children_self, List.append_assoc, List.singleton_append]

/-- Adding goes on to the first child that commits a fault. -/
theorem fed_addOnto (children : List Child) : ∀ arena : Arena, number < arena.containers.length →
    (∀ inner, .container inner ∈ children → inner < arena.containers.length) →
      ∃ done, Fed number arena done (addOnto number arena children).1 := by
  induction children with
  | nil => exact fun arena _ _ => ⟨[], .nil arena⟩
  | cons child children ih =>
      intro arena hnumber hknown
      cases hreceive : arena.receive child with
      | error fault =>
          rw [addOnto, hreceive]
          exact ⟨[], .nil arena⟩
      | ok next =>
          have hgains := gains_of_receive hnumber
            (fun inner hinner => hknown inner (hinner ▸ List.mem_cons_self ..)) hreceive
          have hlength := hgains.length_eq
          obtain ⟨done, hdone⟩ := ih _ (hlength ▸ hnumber) fun inner hinner =>
            hlength ▸ hknown inner (List.mem_cons_of_mem _ hinner)
          rw [addOnto, hreceive]
          exact ⟨child :: done, .cons hgains hdone⟩

/-- Adding children from which no way leads back keeps what operations keep. -/
theorem Fed.owned {children : List Child} (h : Fed number arena children arena')
    (howned : arena.Owned) (hopen : arena.isSealed number = false)
    (hback : ∀ inner, .container inner ∈ children → ¬ arena.Reaches inner number) :
    arena'.Owned ∧ arena.Preserves arena' := by
  induction h with
  | nil arena => exact ⟨howned, .refl arena⟩
  | @cons arena next last child children hgains _ ih =>
      have hnext : next.Owned := hgains.owned howned hopen fun inner hinner =>
        hback inner (hinner ▸ List.mem_cons_self ..)
      -- the additions before do not open a way back
      have hrest : ∀ inner, .container inner ∈ children → ¬ next.Reaches inner number :=
        fun inner hinner hreaches =>
          hback inner (List.mem_cons_of_mem _ hinner) (hgains.reaches_number hreaches)
      obtain ⟨hlast, hkeeps⟩ := ih hnext (by rw [hgains.isSealed_eq, hopen]) hrest
      exact ⟨hlast, (hgains.preserves hopen).trans hkeeps⟩

theorem Owned.add (h : arena.Owned) {children : List Child}
    (hallows : arena.Allows (.add number children)) :
    (arena.add number children).1.Owned ∧ arena.Preserves (arena.add number children).1 := by
  obtain ⟨hknown, hback⟩ := hallows
  cases hget : arena.get? number with
  | none =>
      rw [Arena.add, hget]
      exact ⟨h, .refl arena⟩
  | some container =>
      cases hsealed : container.isSealed with
      | true =>
          rw [Arena.add, hget]
          dsimp only
          rw [if_pos hsealed]
          exact ⟨h, .refl arena⟩
      | false =>
          have hadd : arena.add number children = addOnto number arena children := by
            rw [Arena.add, hget]
            dsimp only
            rw [if_neg (by simp [hsealed])]
          obtain ⟨done, hdone⟩ := fed_addOnto children arena (lt_length_of_get? hget) hknown
          have hadded : arena.added number children = done := by
            rw [added, hadd, hdone.children_eq, List.drop_left]
          rw [hadded] at hback
          rw [hadd]
          exact hdone.owned h ((isSealed_of_get? hget).trans hsealed) hback

/-! ## Runs -/

/-- One operation keeps what operations keep, and what is sealed. -/
theorem Owned.perform (h : arena.Owned) {operation : Operation} (hallows : arena.Allows operation) :
    (arena.perform operation).Owned ∧ arena.Preserves (arena.perform operation) := by
  cases operation with
  | make role => exact h.make role
  | add number children => exact h.add hallows
  | close number => exact h.close number

/-- So do any operations. -/
theorem Owned.performAll (operations : List Operation) : ∀ {arena : Arena}, arena.Owned →
    arena.AllowsAll operations →
      (arena.performAll operations).Owned ∧ arena.Preserves (arena.performAll operations) := by
  induction operations with
  | nil => exact fun howned _ => ⟨howned, .refl _⟩
  | cons operation operations ih =>
      intro arena howned hallows
      obtain ⟨hnext, hkeeps⟩ := howned.perform hallows.1
      obtain ⟨hlast, hmore⟩ := ih hnext hallows.2
      exact ⟨hlast, hkeeps.trans hmore⟩

theorem performAll_append (arena : Arena) (operations more : List Operation) :
    arena.performAll (operations ++ more) = (arena.performAll operations).performAll more :=
  List.foldl_append

theorem allowsAll_append (operations more : List Operation) : ∀ arena : Arena,
    arena.AllowsAll (operations ++ more) ↔
      arena.AllowsAll operations ∧ (arena.performAll operations).AllowsAll more := by
  induction operations with
  | nil => exact fun arena => (true_and _).symm ▸ Iff.rfl
  | cons operation operations ih =>
      intro arena
      rw [List.cons_append, AllowsAll, AllowsAll, ih, and_assoc]
      rfl

end invariants

/-- **Containers have one owner, and sealing is for good.**  After any operations that put no
container into itself or one of its descendants, faults included, every container stands at most
once among the children of all containers, and it is marked as attached just when it stands there;
everything in a sealed container is sealed; and whatever is done next, the lines of a sealed
container stay as they are. -/
theorem ownership_and_sealing (operations more : List Operation)
    (hallows : Arena.empty.AllowsAll (operations ++ more)) :
    (∀ number, (empty.performAll operations).allChildren.count (.container number) ≤ 1) ∧
    (∀ number, (empty.performAll operations).isAttached number = true ↔
      .container number ∈ (empty.performAll operations).allChildren) ∧
    (∀ outer inner, (empty.performAll operations).isSealed outer = true →
      (empty.performAll operations).Reaches outer inner →
        (empty.performAll operations).isSealed inner = true) ∧
    ∀ number, (empty.performAll operations).isSealed number = true →
      (empty.performAll (operations ++ more)).lines number =
        (empty.performAll operations).lines number := by
  obtain ⟨hbefore, hmore⟩ := (allowsAll_append operations more empty).mp hallows
  obtain ⟨howned, -⟩ := Owned.empty.performAll operations hbefore
  obtain ⟨-, hkeeps⟩ := howned.performAll more hmore
  refine ⟨?_, howned.attached_iff, ?_, ?_⟩
  · intro number
    rw [howned.count_eq]
    split <;> simp
  · exact fun outer inner hsealed hreaches => howned.isSealed_of_reaches hsealed hreaches
  · intro number hsealed
    rw [performAll_append]
    exact howned.lines_eq hkeeps hsealed

/-- Whether the child is no container, or one with a number of the list. -/
def isIn (numbers : List Nat) : Child → Bool
  | .container number => numbers.contains number
  | .leaf _ | .variable _ => true

theorem mem_of_all_isIn {numbers : List Nat} {children : List Child} {inner : Nat}
    (h : children.all (isIn numbers) = true) (hinner : .container inner ∈ children) :
    inner ∈ numbers := by
  have hin := List.all_eq_true.mp h _ hinner
  simpa [isIn] using hin

/-- An addition is allowed if the containers that are added are among some that hold only each
other, without the one that they are added to. -/
theorem allows_add {arena : Arena} {number : Nat} {children : List Child} (below : List Nat)
    (hknown : children.all (isIn (List.range arena.containers.length)) = true)
    (hadded : (arena.added number children).all (isIn below) = true)
    (hclosed : (below.all fun outer => (arena.children outer).all (isIn below)) = true)
    (hnumber : number ∉ below) : arena.Allows (.add number children) := by
  refine ⟨fun inner hinner => List.mem_range.mp (mem_of_all_isIn hknown hinner), ?_⟩
  intro inner hinner hreaches
  have hbelow : ∀ other, arena.Reaches inner other → other ∈ below := by
    intro other hother
    induction hother with
    | refl => exact mem_of_all_isIn hadded hinner
    | tail _ hedge ih => exact mem_of_all_isIn (List.all_eq_true.mp hclosed _ ih) hedge
  exact hnumber (hbelow number hreaches)

/-- Three plain containers and a function.  The first one gets a leaf and the second, and then a
fault, since the second has its place; it is sealed, put into the function, and can get nothing
more. -/
def mixedOperations : List Operation :=
  [.make .plain, .make .plain, .make .plain, .make (.function "f"),
    .add 0 [.leaf (.label "a"), .container 1, .container 1, .container 2], .close 0,
    .add 3 [.container 0, .container 2], .add 0 [.container 3]]

/-- More of them: a fault at a sealed container, and what is still open is filled and sealed. -/
def laterOperations : List Operation :=
  [.add 1 [.leaf (.label "b")], .add 2 [.leaf (.label "c")], .close 3]

/-- The container that was sealed first keeps its lines, also within the function. -/
theorem mixedOperations_lines :
    (empty.performAll mixedOperations).isSealed 0 = true ∧
      (empty.performAll (mixedOperations ++ laterOperations)).lines 0 =
        (empty.performAll mixedOperations).lines 0 := by
  have hallows : empty.AllowsAll (mixedOperations ++ laterOperations) := by
    refine ⟨trivial, trivial, trivial, trivial, ?_, trivial, ?_, ?_, ?_, ?_, trivial, trivial⟩
    · exact allows_add [1] (by decide) (by decide) (by decide) (by decide)
    · exact allows_add [0, 1, 2] (by decide) (by decide) (by decide) (by decide)
    · exact allows_add [] (by decide) (by decide) (by decide) (by decide)
    · exact allows_add [] (by decide) (by decide) (by decide) (by decide)
    · exact allows_add [] (by decide) (by decide) (by decide) (by decide)
  have hsealed : (empty.performAll mixedOperations).isSealed 0 = true := by decide
  obtain ⟨-, -, -, hlines⟩ := ownership_and_sealing mixedOperations laterOperations hallows
  exact ⟨hsealed, hlines 0 hsealed⟩

end Shorthand.Arena
