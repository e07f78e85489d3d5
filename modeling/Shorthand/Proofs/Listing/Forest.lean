import Shorthand.Proofs.Listing.Lines
import Shorthand.Proofs.Listing.Ownership

/-!
# When containers are a forest

A container that has its place cannot get another one, but this does not keep containers from being
inside themselves: one without a place can be put into itself, or into something that it holds, and
no fault is committed.  Then there is no end to writing its lines or to sealing it.

`acyclic_iff_allowsAll` says that this is the only way to lose the forest.  As long as no container
is put into itself or into one of its descendants, no container is its own descendant, and both ways
down come to an end; and the first addition that does so leaves a container for which neither ends.

## Strategy

* **Ends.**  `linesIn?` and `sealIn?` go down like `linesTo` and `sealTo`, and have no result when
  the fuel is used up before the end.  They have one just when every way down is within the fuel
  (`isSome_linesIn?_iff`, `sealIn?_of_within`), and on a circle no fuel is enough
  (`not_within_of_circle`).
* **Circles stay.**  No operation takes a child away (`children_prefix_perform`), so a circle that
  an addition closes is there after all further operations.
-/

namespace Shorthand.Arena

/-! ## Writing lines and sealing, to the end -/

/-- The lines of a child, with those of containers. -/
def childLines (below : Nat → List String) : Child → List String
  | .leaf leaf => [leaf.line]
  | .variable v => v.leaves.map Leaf.line
  | .container inner => below inner

/-- The lines of a container, as deep as the fuel goes. -/
def linesDown (arena : Arena) : Nat → Nat → List String
  | 0, _ => []
  | fuel + 1, number =>
      match arena.get? number with
      | none => []
      | some container =>
          container.role.before.map Leaf.line ++
            container.children.flatMap (childLines (linesDown arena fuel)) ++
            container.role.after.map Leaf.line

/-- The lines of a child, if those of a container come to an end. -/
def childLines? (below : Nat → Option (List String)) : Child → Option (List String)
  | .leaf leaf => some [leaf.line]
  | .variable v => some (v.leaves.map Leaf.line)
  | .container inner => below inner

/-- The lines of children, one after the other, if all of them come to an end. -/
def allLines? (below : Nat → Option (List String)) : List Child → Option (List String)
  | [] => some []
  | child :: children =>
      (childLines? below child).bind fun lines => (allLines? below children).map (lines ++ ·)

/-- The lines of a container, if the fuel is enough to come to their end. -/
def linesIn? (arena : Arena) : Nat → Nat → Option (List String)
  | 0, _ => none
  | fuel + 1, number =>
      match arena.get? number with
      | none => some []
      | some container =>
          (allLines? (linesIn? arena fuel) container.children).map fun lines =>
            container.role.before.map Leaf.line ++ lines ++ container.role.after.map Leaf.line

/-- The arena after the containers among children are sealed, if this comes to an end. -/
def sealChildren? (below : Arena → Nat → Option Arena) (arena : Arena) :
    List Child → Option Arena
  | [] => some arena
  | .leaf _ :: children | .variable _ :: children => sealChildren? below arena children
  | .container inner :: children => do sealChildren? below (← below arena inner) children

/-- The arena after a container and all that is in it is sealed, if the fuel is enough to come to
the end. -/
def sealIn? : Nat → Arena → Nat → Option Arena
  | 0, _, _ => none
  | fuel + 1, arena, number =>
      match arena.get? number with
      | none => some arena
      | some container =>
          sealChildren? (sealIn? fuel)
            (arena.update number fun c => { c with isSealed := true }) container.children

section ends

variable {arena : Arena} {number : Nat} {container : Container}

theorem within_of_get?_none (h : arena.get? number = none) (fuel : Nat) :
    arena.Within (fuel + 1) number := by
  intro inner hinner
  rw [Contains, children_of_get?_none h] at hinner
  cases hinner

theorem within_succ_iff (h : arena.get? number = some container) (fuel : Nat) :
    arena.Within (fuel + 1) number ↔
      ∀ inner, .container inner ∈ container.children → arena.Within fuel inner := by
  simp only [Within, Contains, children_of_get? h]

theorem isSome_allLines?_iff (below : Nat → Option (List String)) (children : List Child) :
    (allLines? below children).isSome = true ↔
      ∀ inner, .container inner ∈ children → (below inner).isSome = true := by
  induction children with
  | nil => simp [allLines?]
  | cons child children ih =>
      rcases child with leaf | v | first
      · simp [allLines?, childLines?, ← ih]
      · simp [allLines?, childLines?, ← ih]
      · cases hfirst : below first with
        | none => simp [allLines?, childLines?, hfirst]
        | some lines => simp [allLines?, childLines?, hfirst, ← ih]

/-- The lines come to an end just when every way down does. -/
theorem isSome_linesIn?_iff (fuel : Nat) : ∀ number : Nat,
    (arena.linesIn? fuel number).isSome = true ↔ arena.Within fuel number := by
  induction fuel with
  | zero => simp [linesIn?, Within]
  | succ fuel ih =>
      intro number
      cases hget : arena.get? number with
      | none => simp [linesIn?, hget, within_of_get?_none hget]
      | some container =>
          rw [within_succ_iff hget]
          simp only [← ih]
          rw [← isSome_allLines?_iff, linesIn?, hget, Option.isSome_map]

/-- Children whose lines come to an end have them one after the other. -/
theorem eq_of_allLines? {below : Nat → Option (List String)} {down : Nat → List String}
    (hbelow : ∀ number lines, below number = some lines → lines = down number)
    (children : List Child) : ∀ lines : List String, allLines? below children = some lines →
      lines = children.flatMap (childLines down) := by
  induction children with
  | nil => exact fun lines h => (Option.some.inj h).symm
  | cons child children ih =>
      intro lines h
      obtain ⟨first, hfirst, hrest⟩ := Option.bind_eq_some_iff.mp h
      obtain ⟨rest, hlater, rfl⟩ := Option.map_eq_some_iff.mp hrest
      have hchild : first = childLines down child := by
        rcases child with leaf | v | inner
        · exact (Option.some.inj hfirst).symm
        · exact (Option.some.inj hfirst).symm
        · exact hbelow inner first hfirst
      rw [List.flatMap_cons, ← hchild, ← ih rest hlater]

/-- If the fuel is enough to come to the end of the lines, all of them are there. -/
theorem eq_linesDown (fuel : Nat) : ∀ (number : Nat) (lines : List String),
    arena.linesIn? fuel number = some lines → lines = arena.linesDown fuel number := by
  induction fuel with
  | zero => exact fun _ _ => nofun
  | succ fuel ih =>
      intro number lines h
      rw [linesIn?] at h
      rw [linesDown]
      cases hget : arena.get? number with
      | none =>
          rw [hget] at h
          exact (Option.some.inj h).symm
      | some container =>
          rw [hget] at h
          obtain ⟨inner, hinner, rfl⟩ := Option.map_eq_some_iff.mp h
          rw [eq_of_allLines? ih _ _ hinner]

/-- The lines are handed over as deep as the fuel goes. -/
theorem gives_linesDown (fuel : Nat) : ∀ number : Nat,
    (linesTo arena fuel number).Gives (arena.linesDown fuel number) := by
  induction fuel with
  | zero => exact fun _ => Sequence.gives_of []
  | succ fuel ih =>
      intro number
      rw [linesTo, linesDown]
      cases arena.get? number with
      | none => exact Sequence.gives_of []
      | some container =>
          dsimp only
          rw [List.append_assoc]
          refine (Sequence.gives_of _).concat_cons (.concat_cons (Sequence.gives_each ?_) ?_)
          · intro child _
            rcases child with leaf | v | inner
            · exact Sequence.gives_of _
            · exact Sequence.gives_of _
            · exact ih inner
          · rw [← List.append_nil (container.role.after.map Leaf.line)]
            exact (Sequence.gives_of _).concat_cons Sequence.gives_concat_nil

/-- If the lines come to an end, they are the lines that are handed over. -/
theorem gives_linesTo (fuel : Nat) (number : Nat) (lines : List String)
    (h : arena.linesIn? fuel number = some lines) : (linesTo arena fuel number).Gives lines := by
  rw [eq_linesDown fuel number lines h]
  exact gives_linesDown fuel number

/-! ## Sealing changes no children -/

theorem children_sealAll {fuel : Nat}
    (hbelow : ∀ (arena : Arena) (number : Nat),
      (sealTo fuel arena number).children = arena.children)
    (children : List Child) : ∀ arena : Arena,
      (sealAll fuel arena children).children = arena.children := by
  induction children with
  | nil => exact fun _ => rfl
  | cons child children ih =>
      intro arena
      rcases child with leaf | v | inner
      · exact ih arena
      · exact ih arena
      · exact (ih _).trans (hbelow arena inner)

/-- Sealing changes no children, however deep the fuel goes. -/
theorem children_sealTo (fuel : Nat) : ∀ (arena : Arena) (number : Nat),
    (sealTo fuel arena number).children = arena.children := by
  induction fuel with
  | zero => exact fun _ _ => rfl
  | succ fuel ih =>
      intro arena number
      cases hget : arena.get? number with
      | none => rw [sealTo, hget]
      | some container =>
          rw [sealTo_of_get? fuel hget]
          exact (children_sealAll ih _ _).trans (Seals.single hget).children_eq

theorem within_sealTo_iff (fuel first number : Nat) :
    (sealTo fuel arena first).Within fuel number ↔ arena.Within fuel number :=
  within_congr (children_sealTo fuel arena first) fuel number

theorem sealChildren?_of_within {fuel : Nat}
    (hbelow : ∀ (arena : Arena) (number : Nat), arena.Within fuel number →
      sealIn? fuel arena number = some (sealTo fuel arena number))
    (children : List Child) : ∀ arena : Arena,
      (∀ inner, .container inner ∈ children → arena.Within fuel inner) →
        sealChildren? (sealIn? fuel) arena children = some (sealAll fuel arena children) := by
  induction children with
  | nil => exact fun _ _ => rfl
  | cons child children ih =>
      intro arena hwithin
      have hrest : ∀ inner, .container inner ∈ children → arena.Within fuel inner :=
        fun inner hinner => hwithin inner (List.mem_cons_of_mem _ hinner)
      rcases child with leaf | v | first
      · exact ih arena hrest
      · exact ih arena hrest
      · rw [sealChildren?, hbelow arena first (hwithin first (List.mem_cons_self ..))]
        exact ih _ fun inner hinner => (within_sealTo_iff fuel first inner).mpr (hrest inner hinner)

/-- Fuel that is enough gives the result that comes of fuel which is simply used up. -/
theorem sealIn?_of_within (fuel : Nat) : ∀ (arena : Arena) (number : Nat),
    arena.Within fuel number → sealIn? fuel arena number = some (sealTo fuel arena number) := by
  induction fuel with
  | zero => exact fun _ _ hwithin => hwithin.elim
  | succ fuel ih =>
      intro arena number hwithin
      cases hget : arena.get? number with
      | none => rw [sealIn?, sealTo, hget]
      | some container =>
          rw [sealTo_of_get? fuel hget, sealIn?, hget]
          dsimp only
          rw [update_eq hget]
          refine sealChildren?_of_within ih _ _ fun inner hinner => ?_
          rw [within_congr (Seals.single hget).children_eq]
          exact (within_succ_iff hget fuel).mp hwithin inner hinner

theorem within_of_sealChildren? {fuel : Nat}
    (hbelow : ∀ (arena arena' : Arena) (number : Nat),
      sealIn? fuel arena number = some arena' → arena.Within fuel number)
    (children : List Child) : ∀ arena arena' : Arena,
      sealChildren? (sealIn? fuel) arena children = some arena' →
        ∀ inner, .container inner ∈ children → arena.Within fuel inner := by
  induction children with
  | nil => exact fun _ _ _ _ => nofun
  | cons child children ih =>
      intro arena arena' h inner hinner
      rcases child with leaf | v | first
      · exact ih arena arena' h inner (by simpa using hinner)
      · exact ih arena arena' h inner (by simpa using hinner)
      · obtain ⟨next, hfirst, hrest⟩ := Option.bind_eq_some_iff.mp h
        have hwithin := hbelow arena next first hfirst
        rcases List.mem_cons.mp hinner with heq | hmem
        · obtain rfl := Child.container.inj heq
          exact hwithin
        · obtain rfl := Option.some.inj (hfirst.symm.trans (sealIn?_of_within _ _ _ hwithin))
          exact (within_sealTo_iff fuel first inner).mp (ih _ _ hrest inner hmem)

/-- Sealing comes to an end only if every way down does. -/
theorem within_of_sealIn? (fuel : Nat) : ∀ (arena arena' : Arena) (number : Nat),
    sealIn? fuel arena number = some arena' → arena.Within fuel number := by
  induction fuel with
  | zero => exact fun _ _ _ => nofun
  | succ fuel ih =>
      intro arena arena' number h
      rw [sealIn?] at h
      cases hget : arena.get? number with
      | none => exact within_of_get?_none hget fuel
      | some container =>
          rw [hget] at h
          dsimp only at h
          rw [update_eq hget] at h
          rw [within_succ_iff hget]
          intro inner hinner
          rw [← within_congr (Seals.single hget).children_eq]
          exact within_of_sealChildren? ih _ _ _ h inner hinner

/-! ## Circles -/

/-- On a circle there is no end of the ways down. -/
theorem not_within_of_circle (fuel : Nat) : ∀ number : Nat,
    Relation.TransGen arena.Contains number number → ¬ arena.Within fuel number := by
  induction fuel with
  | zero => exact fun _ _ hwithin => hwithin
  | succ fuel ih =>
      intro number hcircle hwithin
      -- the next container on the circle is on a circle as well
      obtain ⟨inner, hinner, hback⟩ := Relation.TransGen.head'_iff.mp hcircle
      exact ih inner (Relation.TransGen.tail' hback hinner) (hwithin inner hinner)

end ends

/-! ## Operations take no children away -/

/-- Only containers that were made are added. -/
def Knows (arena : Arena) : Operation → Prop
  | .make _ | .close _ => True
  | .add _ children => ∀ inner, .container inner ∈ children → inner < arena.containers.length

/-- Every operation adds only containers that were made before. -/
def KnowsAll (arena : Arena) : List Operation → Prop
  | [] => True
  | operation :: operations =>
      arena.Knows operation ∧ (arena.perform operation).KnowsAll operations

section runs

variable {arena arena' : Arena} {number : Nat}

theorem Fed.children_prefix {children : List Child} (h : Fed number arena children arena')
    (other : Nat) : arena.children other <+: arena'.children other := by
  induction h with
  | nil arena => exact List.prefix_rfl
  | @cons arena next last child children hgains _ ih =>
      refine List.IsPrefix.trans ?_ ih
      by_cases heq : other = number
      · subst heq
        rw [hgains.children_self]
        exact List.prefix_append ..
      · exact hgains.children_of_ne heq ▸ List.prefix_rfl

theorem children_prefix_perform {operation : Operation} (hknown : arena.Knows operation)
    (other : Nat) : arena.children other <+: (arena.perform operation).children other := by
  cases operation with
  | make role =>
      have hsame : (arena.perform (.make role)).children other = arena.children other := by
        rw [children_eq_getD, children_eq_getD]
        exact getD_make Container.children arena role other
      exact hsame ▸ List.prefix_rfl
  | close number =>
      have hsame : (arena.perform (.close number)).children = arena.children :=
        children_sealTo _ arena number
      exact hsame ▸ List.prefix_rfl
  | add number children =>
      rw [perform, Arena.add]
      cases hget : arena.get? number with
      | none => exact List.prefix_rfl
      | some container =>
          dsimp only
          split
          · exact List.prefix_rfl
          · obtain ⟨done, hdone⟩ := fed_addOnto children arena (lt_length_of_get? hget) hknown
            exact hdone.children_prefix other

theorem Contains.perform {operation : Operation} (hknown : arena.Knows operation)
    {outer inner : Nat} (h : arena.Contains outer inner) :
    (arena.perform operation).Contains outer inner :=
  (children_prefix_perform hknown outer).subset h

/-- A circle is there for good. -/
theorem circle_performAll (operations : List Operation) : ∀ {arena : Arena},
    arena.KnowsAll operations → Relation.TransGen arena.Contains number number →
      Relation.TransGen (arena.performAll operations).Contains number number := by
  induction operations with
  | nil => exact fun _ hcircle => hcircle
  | cons operation operations ih =>
      intro arena hknown hcircle
      exact ih hknown.2 (Relation.TransGen.mono (fun _ _ => Contains.perform hknown.1) _ _ hcircle)

/-- An addition that is not allowed closes a circle. -/
theorem allows_of_acyclic {operation : Operation} (hknown : arena.Knows operation)
    (hacyclic : (arena.perform operation).Acyclic) : arena.Allows operation := by
  cases operation with
  | make role => trivial
  | close number => trivial
  | add number children =>
      refine ⟨hknown, fun inner hinner hreaches => hacyclic number ?_⟩
      have hedge : (arena.perform (.add number children)).Contains number inner :=
        List.mem_of_mem_drop hinner
      exact .head' hedge
        (Relation.ReflTransGen.mono (fun _ _ => Contains.perform hknown) _ _ hreaches)

theorem allowsAll_of_acyclic (operations : List Operation) : ∀ {arena : Arena},
    arena.KnowsAll operations → (arena.performAll operations).Acyclic →
      arena.AllowsAll operations := by
  induction operations with
  | nil => exact fun _ _ => trivial
  | cons operation operations ih =>
      intro arena hknown hacyclic
      refine ⟨allows_of_acyclic hknown.1 fun number hcircle => ?_, ih hknown.2 hacyclic⟩
      exact hacyclic number (circle_performAll operations hknown.2 hcircle)

end runs

/-- **Containers are a forest just as long as none is put into itself or into one of its
descendants.**  After any operations, faults included, no container is its own descendant exactly if
every addition was such.  In a forest, writing the lines of any container comes to an end, and they
are the lines that are handed over; and so does sealing it.  For a container that is its own
descendant, neither comes to an end. -/
theorem acyclic_iff_allowsAll (operations : List Operation) (hknown : empty.KnowsAll operations) :
    let arena := empty.performAll operations
    (arena.Acyclic ↔ empty.AllowsAll operations) ∧
      (arena.Acyclic → ∀ number < arena.containers.length, ∃ fuel lines,
        arena.linesIn? fuel number = some lines ∧ (arena.lines number).Gives lines ∧
          sealIn? fuel arena number = some (arena.close number)) ∧
      ∀ number, Relation.TransGen arena.Contains number number →
        ∀ fuel, arena.linesIn? fuel number = none ∧ sealIn? fuel arena number = none := by
  intro arena
  have hiff : arena.Acyclic ↔ empty.AllowsAll operations :=
    ⟨allowsAll_of_acyclic operations hknown,
      fun hallows => (Owned.empty.performAll operations hallows).1.acyclic⟩
  refine ⟨hiff, ?_, ?_⟩
  · intro hacyclic number hnumber
    have howned := (Owned.empty.performAll operations (hiff.mp hacyclic)).1
    have hwithin := howned.within hnumber
    obtain ⟨lines, hlines⟩ := Option.isSome_iff_exists.mp
      ((isSome_linesIn?_iff _ number).mpr hwithin)
    exact ⟨_, lines, hlines, gives_linesTo _ _ _ hlines, sealIn?_of_within _ _ _ hwithin⟩
  · intro number hcircle fuel
    have hnever := not_within_of_circle fuel number hcircle
    constructor
    · rw [← Option.not_isSome_iff_eq_none, isSome_linesIn?_iff]
      exact hnever
    · refine Option.eq_none_iff_forall_ne_some.mpr fun arena' hseal => hnever ?_
      exact within_of_sealIn? _ _ _ _ hseal

/-- A block and a function are put into each other, without a fault. -/
def circleOperations : List Operation :=
  [.make .plain, .make (.function "f"), .add 0 [.leaf (.label "a"), .container 1],
    .add 1 [.container 0]]

/-- Each of the two is its own descendant, and there is no end to their lines. -/
theorem circleOperations_not_acyclic :
    empty.KnowsAll circleOperations ∧
      ((empty.performAll (circleOperations.take 2)).add 0
        [.leaf (.label "a"), .container 1]).2 = none ∧
      ((empty.performAll (circleOperations.take 3)).add 1 [.container 0]).2 = none ∧
      ¬ (empty.performAll circleOperations).Acyclic ∧ ¬ empty.AllowsAll circleOperations ∧
      ∀ fuel, (empty.performAll circleOperations).linesIn? fuel 0 = none := by
  have hknown : empty.KnowsAll circleOperations := by
    refine ⟨trivial, trivial, fun inner hinner => ?_, fun inner hinner => ?_, trivial⟩
    · obtain rfl : inner = 1 := by simpa using hinner
      decide
    · obtain rfl : inner = 0 := by simpa using hinner
      decide
  have hcircle : Relation.TransGen (empty.performAll circleOperations).Contains 0 0 := by
    have hdown : (empty.performAll circleOperations).Contains 0 1 := by
      unfold Contains
      decide
    have hup : (empty.performAll circleOperations).Contains 1 0 := by
      unfold Contains
      decide
    exact .tail (.single hdown) hup
  obtain ⟨hiff, -, hnever⟩ := acyclic_iff_allowsAll circleOperations hknown
  have hnot : ¬ (empty.performAll circleOperations).Acyclic := fun hacyclic => hacyclic 0 hcircle
  exact ⟨hknown, by decide, by decide, hnot, fun hallows => hnot (hiff.mpr hallows),
    fun fuel => (hnever 0 hcircle fuel).1⟩

end Shorthand.Arena
