import Mathlib.Algebra.BigOperators.Fin
import Mathlib.Data.Finset.Basic
import Shorthand.Expression.Show

/-!
# The texts of nested values

A list can hold itself, and what is shown of a value is cut off where a list or a dictionary comes
again.  So the way down from a value enters every object once at most, and between two objects it
goes down the tuples that are nested there.  `unseen` adds up how deep they are in the objects that
were not entered yet: together with the depth of the value itself it bounds how far down the text
still goes.

Fuel beyond that is inert (`showValue_eq_of_le`), and the fuel that `shownText` starts with is that
much (`showValue_eq_shownText`).  There is no value, however deep, whose text is cut off by it.
-/

namespace Shorthand.Expression

/-! ## Depths -/

namespace Value

theorem one_le_depth (value : Value) : 1 ≤ value.depth := by
  cases value <;> simp [depth]

theorem depth_le_depthOfAll {items : List Value} {item : Value} (h : item ∈ items) :
    item.depth ≤ depthOfAll items := by
  induction items with
  | nil => cases h
  | cons first items ih =>
      rw [depthOfAll]
      rcases List.mem_cons.mp h with rfl | hrest
      · exact Nat.le_max_left ..
      · exact (ih hrest).trans (Nat.le_max_right ..)

end Value

section entries

variable {entries : List (Value × Value)} {readers : Nat} {entry : Value × Value}

theorem Object.depth_key_le (h : entry ∈ entries) : entry.1.depth ≤ (dict entries readers).depth :=
  (Value.depth_le_depthOfAll (List.mem_map_of_mem h)).trans (Nat.le_max_left ..)

theorem Object.depth_value_le (h : entry ∈ entries) :
    entry.2.depth ≤ (dict entries readers).depth :=
  (Value.depth_le_depthOfAll (List.mem_map_of_mem h)).trans (Nat.le_max_right ..)

end entries

/-- How deep tuples are nested in the object at an address, if there is one. -/
def depthAt (objects : Array Object) (address : Nat) : Nat :=
  (objects[address]?.map Object.depth).getD 0

/-- How deep tuples are nested in the objects that are not on the path, one below the other. -/
def unseen (objects : Array Object) (path : List Nat) : Nat :=
  ∑ address ∈ (Finset.range objects.size).filter (· ∉ path), depthAt objects address

variable {objects : Array Object} {path : List Nat} {address : Nat} {object : Object}

/-- An object that is entered is not counted any more. -/
theorem unseen_cons (hobject : objects[address]? = some object) (hnew : address ∉ path) :
    unseen objects (address :: path) + object.depth = unseen objects path := by
  obtain ⟨hlt, -⟩ := Array.getElem?_eq_some_iff.mp hobject
  have hmem : address ∈ (Finset.range objects.size).filter (· ∉ path) := by
    simp [hlt, hnew]
  have hrest : (Finset.range objects.size).filter (· ∉ address :: path) =
      ((Finset.range objects.size).filter (· ∉ path)).erase address := by
    ext other
    simp only [Finset.mem_filter, Finset.mem_erase, List.mem_cons, not_or]
    tauto
  have hdepth : depthAt objects address = object.depth := by
    rw [depthAt, hobject]
    rfl
  rw [unseen, hrest, ← hdepth, Finset.sum_erase_add _ _ hmem]
  rfl

theorem foldl_depth_eq (objects : List Object) (start : Nat) :
    objects.foldl (fun depth object => depth + object.depth) start =
      start + ∑ address ∈ Finset.range objects.length,
        (objects[address]?.map Object.depth).getD 0 := by
  induction objects generalizing start with
  | nil => rfl
  | cons object objects ih =>
      rw [List.foldl_cons, ih, List.length_cons, Finset.sum_range_succ']
      simp only [List.getElem?_cons_succ, List.getElem?_cons_zero, Option.map_some,
        Option.getD_some]
      omega

/-- At the start every object is counted. -/
theorem showDepth_eq (objects : Array Object) (value : Value) :
    showDepth objects value = value.depth + unseen objects [] + 1 := by
  have hall : (Finset.range objects.size).filter (· ∉ ([] : List Nat)) =
      Finset.range objects.size := by
    simp
  rw [showDepth, ← Array.foldl_toList, foldl_depth_eq, unseen, hall, Array.length_toList]
  simp only [Array.getElem?_toList, depthAt]
  omega

/-! ## Fuel -/

/-- Fuel beyond the depth of a value and of the objects that are not on the path is inert. -/
theorem showValue_eq_of_le {fuel larger : Nat} {value : Value}
    (hfuel : value.depth + unseen objects path ≤ fuel) (hle : fuel ≤ larger) :
    showValue objects larger path value = showValue objects fuel path value := by
  induction fuel generalizing larger path value with
  | zero =>
      have hpos := value.one_le_depth
      omega
  | succ fuel ih =>
      obtain ⟨larger, rfl⟩ : ∃ more, larger = more + 1 := ⟨larger - 1, by omega⟩
      have hle' : fuel ≤ larger := by omega
      -- items of a tuple are less deep, with the same objects before them
      have htuple (items : List Value) (hvalue : value = .tuple items) :
          ∀ item ∈ items, showValue objects larger path item = showValue objects fuel path item := by
        intro item hitem
        have hdepth := Value.depth_le_depthOfAll hitem
        rw [hvalue, Value.depth] at hfuel
        exact ih (by omega) hle'
      -- what an object holds is less deep than the object is, which is counted no more
      have hobject (address : Nat) (object : Object) (hvalue : value.depth = 1)
          (hget : objects[address]? = some object) (hnew : address ∉ path) (item : Value)
          (hitem : item.depth ≤ object.depth) :
          showValue objects larger (address :: path) item =
            showValue objects fuel (address :: path) item := by
        have hrest := unseen_cons hget hnew
        exact ih (by omega) hle'
      unfold showValue
      cases value with
      | tuple items =>
          cases items with
          | nil => rfl
          | cons first rest =>
              cases rest with
              | nil =>
                  exact congrArg ("(" ++ · ++ ",)") (htuple _ rfl first List.mem_cons_self)
              | cons second rest =>
                  exact congrArg ("(" ++ ", ".intercalate · ++ ")")
                    (List.map_congr_left (htuple _ rfl))
      | list address =>
          dsimp only
          split
          · rfl
          · rename_i hpath
            have hnew : address ∉ path := by simpa using hpath
            split
            · rename_i items readers hget
              have hitems := List.map_congr_left fun item hitem =>
                hobject address _ rfl hget hnew item (Value.depth_le_depthOfAll hitem)
              rw [hitems]
            · rfl
      | dict address =>
          dsimp only
          split
          · rfl
          · rename_i hpath
            have hnew : address ∉ path := by simpa using hpath
            split
            · rename_i entries readers hget
              congr 3
              refine List.map_congr_left fun entry hentry => ?_
              rw [hobject address _ rfl hget hnew entry.1 (Object.depth_key_le hentry),
                hobject address _ rfl hget hnew entry.2 (Object.depth_value_le hentry)]
            · rfl
      | view view bytes => cases view <;> rfl
      | _ => rfl

/-- **The text of a value does not depend on the fuel.**  Whatever else there is and however deep the
value is, more fuel than `shownText` starts with gives the same text. -/
theorem showValue_eq_shownText {fuel : Nat} {value : Value}
    (hfuel : showDepth objects value ≤ fuel) :
    showValue objects fuel [] value = shownText objects value := by
  refine showValue_eq_of_le ?_ hfuel
  rw [showDepth_eq]
  exact Nat.le_succ _

end Shorthand.Expression
