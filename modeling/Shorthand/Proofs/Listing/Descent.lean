import Mathlib.Logic.Relation
import Shorthand.Proofs.Indexed.Containers

/-!
# Descending into containers

Sealing a container and writing its lines go down into the containers in it, with fuel for as many
levels as there are containers.  This file shows that the fuel is enough wherever no container is
inside itself: sealing then seals the container and all that can be reached from it, and nothing
else changes; and the lines are the same with any more fuel.

## Strategy

* **Depth.**  `Within arena fuel number` says that every way down from a container ends within the
  fuel.  Numbers on a way down are distinct when nothing is inside itself, so there are no more of
  them than containers (`within_of_acyclic`).
* **Sealing.**  `Seals` says which containers become sealed, and that this is all that happens.  It
  composes, so sealing the children one after the other is read off sealing each
  (`seals_sealTo`).
* **Lines.**  They are read from the contents of the containers that can be reached, and from
  nothing else (`linesTo_eq_of_contents`).
-/

namespace Shorthand.Arena

/-! ## Containers in containers -/

/-- What the lines of a container are made of. -/
def content (arena : Arena) (number : Nat) : Option (Role × List Child) :=
  (arena.get? number).map fun container => (container.role, container.children)

/-- Whether a container is sealed. -/
def isSealed (arena : Arena) (number : Nat) : Bool :=
  ((arena.get? number).map Container.isSealed).getD false

/-- Whether a container is marked as having its place. -/
def isAttached (arena : Arena) (number : Nat) : Bool :=
  ((arena.get? number).map Container.attached).getD false

/-- The second container is a child of the first. -/
def Contains (arena : Arena) (outer inner : Nat) : Prop :=
  .container inner ∈ arena.children outer

/-- The second container is the first, or one of its descendants. -/
def Reaches (arena : Arena) : Nat → Nat → Prop := Relation.ReflTransGen arena.Contains

/-- No container is one of its own descendants. -/
def Acyclic (arena : Arena) : Prop := ∀ number, ¬ Relation.TransGen arena.Contains number number

section descent

variable {arena arena' : Arena} {number : Nat} {container : Container}

theorem exists_get? (h : number < arena.containers.length) :
    ∃ container, arena.get? number = some container :=
  ⟨_, List.getElem?_eq_getElem h⟩

theorem children_of_get? (h : arena.get? number = some container) :
    arena.children number = container.children := by
  rw [children, h]
  rfl

theorem children_of_get?_none (h : arena.get? number = none) : arena.children number = [] := by
  rw [children, h]
  rfl

theorem content_of_get? (h : arena.get? number = some container) :
    arena.content number = some (container.role, container.children) := by
  rw [content, h]
  rfl

theorem isSealed_of_get? (h : arena.get? number = some container) :
    arena.isSealed number = container.isSealed := by
  rw [isSealed, h]
  rfl

theorem isAttached_of_get? (h : arena.get? number = some container) :
    arena.isAttached number = container.attached := by
  rw [isAttached, h]
  rfl

theorem children_eq_getD (arena : Arena) (number : Nat) :
    arena.children number = ((arena.get? number).map Container.children).getD [] := by
  rw [children]
  cases arena.get? number <;> rfl

theorem children_eq_of_content_eq (h : arena'.content number = arena.content number) :
    arena'.children number = arena.children number := by
  have hchildren := congrArg (Option.map Prod.snd) h
  simp only [content, Option.map_map] at hchildren
  rw [children_eq_getD, children_eq_getD]
  exact congrArg (Option.getD · []) hchildren

theorem lt_length_of_isSealed (h : arena.isSealed number = true) :
    number < arena.containers.length := by
  cases hget : arena.get? number with
  | none => simp [isSealed, hget] at h
  | some container => exact lt_length_of_get? hget

theorem lt_length_of_isAttached (h : arena.isAttached number = true) :
    number < arena.containers.length := by
  cases hget : arena.get? number with
  | none => simp [isAttached, hget] at h
  | some container => exact lt_length_of_get? hget

/-- A container that has something in it was made. -/
theorem Contains.lt_length {outer inner : Nat} (h : arena.Contains outer inner) :
    outer < arena.containers.length := by
  rw [Contains, children] at h
  cases hget : arena.get? outer with
  | none => simp [hget] at h
  | some container => exact lt_length_of_get? hget

theorem contains_congr (h : arena'.children = arena.children) :
    arena'.Contains = arena.Contains := by
  funext outer inner
  rw [Contains, h]
  rfl

theorem reaches_congr (h : arena'.children = arena.children) : arena'.Reaches = arena.Reaches := by
  rw [Reaches, contains_congr h]
  rfl

/-- A descendant is the container itself or below one of its children. -/
theorem reaches_iff {outer other : Nat} :
    arena.Reaches outer other ↔
      other = outer ∨ ∃ inner, arena.Contains outer inner ∧ arena.Reaches inner other := by
  constructor
  · intro h
    rcases Relation.ReflTransGen.cases_head h with rfl | ⟨inner, hinner, hrest⟩
    · exact .inl rfl
    · exact .inr ⟨inner, hinner, hrest⟩
  · rintro (rfl | ⟨inner, hinner, hrest⟩)
    · exact .refl
    · exact .head hinner hrest

end descent

/-! ## Depth -/

/-- Every way down from a container ends before the fuel does. -/
def Within (arena : Arena) : Nat → Nat → Prop
  | 0, _ => False
  | fuel + 1, number => ∀ inner, arena.Contains number inner → Within arena fuel inner

theorem within_congr {arena arena' : Arena} (h : arena'.children = arena.children) (fuel : Nat) :
    ∀ number, arena'.Within fuel number ↔ arena.Within fuel number := by
  induction fuel with
  | zero => exact fun _ => Iff.rfl
  | succ fuel ih =>
      intro number
      unfold Within
      rw [contains_congr h]
      exact forall_congr' fun inner => imp_congr_right fun _ => ih inner

/-- The way down to a container has passed distinct others, so it ends before there are none
left. -/
theorem within_of_above {arena : Arena} (hacyclic : arena.Acyclic)
    (hknown : ∀ outer inner, arena.Contains outer inner → inner < arena.containers.length) :
    ∀ (fuel number : Nat) (above : List Nat), number < arena.containers.length →
      (∀ other ∈ above, other < arena.containers.length ∧
        Relation.TransGen arena.Contains other number) → above.Nodup →
      fuel + above.length = arena.containers.length → arena.Within fuel number := by
  intro fuel
  induction fuel with
  | zero =>
      intro number above hnumber habove hnodup hlength
      have hfresh : number ∉ above := fun hmem => hacyclic number (habove number hmem).2
      have hall : ∀ other ∈ number :: above, other ∈ List.range arena.containers.length := by
        intro other hother
        rw [List.mem_range]
        rcases List.mem_cons.mp hother with rfl | hmem
        · exact hnumber
        · exact (habove other hmem).1
      -- one more container than there are would have been passed
      have hle := (List.nodup_cons.mpr ⟨hfresh, hnodup⟩).length_le_of_subset hall
      rw [List.length_cons, List.length_range] at hle
      omega
  | succ fuel ih =>
      intro number above hnumber habove hnodup hlength inner hinner
      have hfresh : number ∉ above := fun hmem => hacyclic number (habove number hmem).2
      refine ih inner (number :: above) (hknown _ _ hinner) ?_
        (List.nodup_cons.mpr ⟨hfresh, hnodup⟩) ?_
      · intro other hother
        rcases List.mem_cons.mp hother with rfl | hmem
        · exact ⟨hnumber, .single hinner⟩
        · exact ⟨(habove other hmem).1, (habove other hmem).2.tail hinner⟩
      · rw [List.length_cons]
        omega

/-- As many levels as there are containers are enough. -/
theorem within_of_acyclic {arena : Arena} (hacyclic : arena.Acyclic)
    (hknown : ∀ outer inner, arena.Contains outer inner → inner < arena.containers.length)
    {number : Nat} (hnumber : number < arena.containers.length) :
    arena.Within arena.containers.length number :=
  within_of_above hacyclic hknown _ number [] hnumber nofun .nil rfl

/-! ## Sealing -/

/-- The containers that `which` selects are sealed in the second arena, and this is all that
differs. -/
structure Seals (arena : Arena) (which : Nat → Prop) (arena' : Arena) : Prop where
  length_eq : arena'.containers.length = arena.containers.length
  get?_eq : ∀ number container, arena.get? number = some container →
    ∃ flag, arena'.get? number = some { container with isSealed := flag } ∧
      (flag = true ↔ container.isSealed = true ∨ which number)

namespace Seals

variable {arena arena' arena'' : Arena} {which also : Nat → Prop}

theorem get?_none (h : arena.Seals which arena') {number : Nat} (hnone : arena.get? number = none) :
    arena'.get? number = none := by
  rw [get?, List.getElem?_eq_none_iff] at hnone ⊢
  rw [h.length_eq]
  exact hnone

theorem content_eq (h : arena.Seals which arena') (number : Nat) :
    arena'.content number = arena.content number := by
  cases hget : arena.get? number with
  | none => rw [content, content, h.get?_none hget, hget]
  | some container =>
      obtain ⟨flag, hflag, -⟩ := h.get?_eq number container hget
      rw [content_of_get? hget, content_of_get? hflag]

theorem children_eq (h : arena.Seals which arena') : arena'.children = arena.children :=
  funext fun number => children_eq_of_content_eq (h.content_eq number)

theorem isAttached_eq (h : arena.Seals which arena') (number : Nat) :
    arena'.isAttached number = arena.isAttached number := by
  cases hget : arena.get? number with
  | none => rw [isAttached, isAttached, h.get?_none hget, hget]
  | some container =>
      obtain ⟨flag, hflag, -⟩ := h.get?_eq number container hget
      rw [isAttached_of_get? hget, isAttached_of_get? hflag]

theorem isSealed_iff (h : arena.Seals which arena') {number : Nat}
    (hnumber : number < arena.containers.length) :
    arena'.isSealed number = true ↔ arena.isSealed number = true ∨ which number := by
  obtain ⟨container, hget⟩ := exists_get? hnumber
  obtain ⟨flag, hflag, hiff⟩ := h.get?_eq number _ hget
  rw [isSealed_of_get? hget, isSealed_of_get? hflag]
  exact hiff

theorem trans (h : arena.Seals which arena') (hmore : arena'.Seals also arena'') :
    arena.Seals (fun number => which number ∨ also number) arena'' where
  length_eq := hmore.length_eq.trans h.length_eq
  get?_eq := by
    intro number container hget
    obtain ⟨flag, hflag, hwhich⟩ := h.get?_eq number container hget
    obtain ⟨flag', hflag', halso⟩ := hmore.get?_eq number _ hflag
    refine ⟨flag', hflag', halso.trans ?_⟩
    rw [hwhich, or_assoc]

/-- The containers may be described otherwise. -/
theorem congr (h : arena.Seals which arena')
    (hsame : ∀ number < arena.containers.length, which number ↔ also number) :
    arena.Seals also arena' where
  length_eq := h.length_eq
  get?_eq := by
    intro number container hget
    obtain ⟨flag, hflag, hwhich⟩ := h.get?_eq number container hget
    exact ⟨flag, hflag, hwhich.trans (or_congr_right (hsame number (lt_length_of_get? hget)))⟩

theorem none (arena : Arena) : arena.Seals (fun _ => False) arena where
  length_eq := rfl
  get?_eq := fun _ container hget => ⟨container.isSealed, hget, by simp⟩

theorem single {number : Nat} {container : Container} (hget : arena.get? number = some container) :
    arena.Seals (fun other => other = number)
      (arena.put number { container with isSealed := true }) where
  length_eq := by simp [put]
  get?_eq := by
    intro other kept hkept
    by_cases heq : other = number
    · subst heq
      obtain rfl := Option.some.inj (hkept.symm.trans hget)
      exact ⟨true, get?_put_self hget _, by simp⟩
    · exact ⟨kept.isSealed, by rw [get?_put_of_ne heq, hkept], by simp [heq]⟩

end Seals

/-- Seals the containers among children, one after the other. -/
def sealAll (fuel : Nat) (arena : Arena) (children : List Child) : Arena :=
  children.foldl (fun arena child =>
    match child with
    | .container inner => sealTo fuel arena inner
    | .leaf _ | .variable _ => arena) arena

theorem sealTo_of_get? {arena : Arena} {number : Nat} {container : Container} (fuel : Nat)
    (hget : arena.get? number = some container) :
    sealTo (fuel + 1) arena number =
      sealAll fuel (arena.put number { container with isSealed := true }) container.children := by
  rw [sealTo, hget]
  dsimp only
  rw [update_eq hget]
  rfl

/-- Sealing children seals what can be reached from the containers among them. -/
theorem seals_sealAll {fuel : Nat}
    (hsealTo : ∀ (arena : Arena) (number : Nat), arena.Within fuel number →
      arena.Seals (arena.Reaches number) (sealTo fuel arena number)) :
    ∀ (children : List Child) (arena : Arena),
      (∀ inner, .container inner ∈ children → arena.Within fuel inner) →
      arena.Seals (fun other => ∃ inner, .container inner ∈ children ∧ arena.Reaches inner other)
        (sealAll fuel arena children) := by
  intro children
  induction children with
  | nil =>
      intro arena _
      exact (Seals.none arena).congr (by simp)
  | cons child children ih =>
      intro arena hwithin
      have hrest : ∀ inner, .container inner ∈ children → arena.Within fuel inner :=
        fun inner hinner => hwithin inner (List.mem_cons_of_mem _ hinner)
      rcases child with leaf | v | first
      · exact (ih arena hrest).congr (by simp)
      · exact (ih arena hrest).congr (by simp)
      · have hfirst := hsealTo arena first (hwithin first (List.mem_cons_self ..))
        have hsame := hfirst.children_eq
        have hmore := ih (sealTo fuel arena first)
          fun inner hinner => (within_congr hsame fuel inner).mpr (hrest inner hinner)
        refine (hfirst.trans hmore).congr ?_
        intro other _
        rw [reaches_congr hsame]
        simp [or_and_right, exists_or]

/-- Sealing seals a container and its descendants, if there is fuel for all of them. -/
theorem seals_sealTo (fuel : Nat) : ∀ (arena : Arena) (number : Nat), arena.Within fuel number →
    arena.Seals (arena.Reaches number) (sealTo fuel arena number) := by
  induction fuel with
  | zero => exact fun _ _ hwithin => hwithin.elim
  | succ fuel ih =>
      intro arena number hwithin
      cases hget : arena.get? number with
      | none =>
          have hsame : sealTo (fuel + 1) arena number = arena := by rw [sealTo, hget]
          rw [hsame]
          refine (Seals.none arena).congr ?_
          intro other hother
          rw [reaches_iff]
          constructor
          · exact False.elim
          · rintro (rfl | ⟨inner, hinner, -⟩)
            · rw [get?, List.getElem?_eq_none_iff] at hget
              omega
            · rw [Contains, children_of_get?_none hget] at hinner
              cases hinner
      | some container =>
          rw [sealTo_of_get? fuel hget]
          have hfirst := Seals.single hget
          have hsame := hfirst.children_eq
          have hmore := seals_sealAll ih container.children
            (arena.put number { container with isSealed := true }) (by
              intro inner hinner
              rw [within_congr hsame]
              apply hwithin
              rw [Contains, children_of_get? hget]
              exact hinner)
          refine (hfirst.trans hmore).congr ?_
          intro other _
          rw [reaches_iff, reaches_congr hsame]
          simp only [Contains, children_of_get? hget]

/-! ## Lines -/

/-- Sequences of elements are equal if they are so for each element. -/
theorem each_congr {ε α : Type} {elements : List ε} {first second : ε → Sequence α}
    (h : ∀ element ∈ elements, first element = second element) :
    Sequence.each elements first = Sequence.each elements second := by
  funext σ visit state
  unfold Sequence.each
  induction elements generalizing state with
  | nil => rfl
  | cons element elements ih =>
      have hrest := ih fun other hother => h other (List.mem_cons_of_mem _ hother)
      simp only [Sequence.feed, h element (List.mem_cons_self ..)]
      split
      · exact hrest _
      · rfl

/-- The lines are the same where the content is, and the lines of the containers in it are. -/
theorem linesTo_succ_congr {arena arena' : Arena} {fuel fuel' number : Nat}
    (hcontent : arena'.content number = arena.content number)
    (hinner : ∀ inner, arena.Contains number inner →
      linesTo arena' fuel' inner = linesTo arena fuel inner) :
    linesTo arena' (fuel' + 1) number = linesTo arena (fuel + 1) number := by
  unfold linesTo
  cases hget : arena.get? number with
  | none =>
      have hnone : arena'.get? number = none := by
        simpa [content, hget] using hcontent
      rw [hnone]
  | some container =>
      obtain ⟨changed, hchanged, hpair⟩ : ∃ changed, arena'.get? number = some changed ∧
          (changed.role, changed.children) = (container.role, container.children) := by
        simpa [content, hget] using hcontent
      obtain ⟨hrole, hchildren⟩ := Prod.mk.inj hpair
      rw [hchanged]
      dsimp only
      rw [hrole, hchildren]
      congr 3
      refine each_congr fun child hchild => ?_
      rcases child with leaf | v | inner
      · rfl
      · rfl
      · apply hinner
        rw [Contains, children_of_get? hget]
        exact hchild

/-- The lines are made of the contents of a container and of its descendants. -/
theorem linesTo_eq_of_contents {arena arena' : Arena} (fuel : Nat) : ∀ number : Nat,
    (∀ other, arena.Reaches number other → arena'.content other = arena.content other) →
      linesTo arena' fuel number = linesTo arena fuel number := by
  induction fuel with
  | zero => exact fun _ _ => rfl
  | succ fuel ih =>
      intro number hsame
      refine linesTo_succ_congr (hsame number .refl) ?_
      intro inner hinner
      exact ih inner fun other hother => hsame other (.head hinner hother)

/-- More fuel than enough does not change the lines. -/
theorem linesTo_eq_of_within {arena : Arena} (fuel : Nat) : ∀ (number larger : Nat),
    arena.Within fuel number → fuel ≤ larger →
      linesTo arena larger number = linesTo arena fuel number := by
  induction fuel with
  | zero => exact fun _ _ hwithin => hwithin.elim
  | succ fuel ih =>
      intro number larger hwithin hle
      obtain ⟨larger, rfl⟩ : ∃ smaller, larger = smaller + 1 :=
        Nat.exists_eq_succ_of_ne_zero (by omega)
      refine linesTo_succ_congr rfl ?_
      intro inner hinner
      exact ih inner larger (hwithin inner hinner) (Nat.le_of_succ_le_succ hle)

end Shorthand.Arena
