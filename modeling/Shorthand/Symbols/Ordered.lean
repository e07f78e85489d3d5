/-!
# Values by name

Values are found by their names, and the names are kept in the order in which they got their first
values.  The map and the order are apart: a value is found without the order, and setting it again
leaves the order as it is.
-/

namespace Shorthand

/-- Values of type `β` by name, and the names in their order. -/
@[ext]
structure Ordered (β : Type) where
  value? : String → Option β
  order : List String
  nodup : order.Nodup
  /-- The names of the order are those with a value. -/
  isSome_iff (name : String) : (value? name).isSome = true ↔ name ∈ order

namespace Ordered

variable {β : Type} {o o' : Ordered β} {name : String} {value : β}

/-- No values. -/
def empty : Ordered β where
  value? _ := none
  order := []
  nodup := List.nodup_nil
  isSome_iff _ := by simp

instance : Inhabited (Ordered β) := ⟨empty⟩

/-- The order after a name got a value.  A name that had none comes last. -/
def orderWith (o : Ordered β) (name : String) : List String :=
  if (o.value? name).isSome then o.order else o.order ++ [name]

theorem mem_orderWith (o : Ordered β) (name other : String) :
    other ∈ o.orderWith name ↔ other = name ∨ other ∈ o.order := by
  unfold orderWith
  split
  · rename_i hold
    rw [o.isSome_iff] at hold
    refine ⟨.inr, ?_⟩
    rintro (rfl | hmem)
    · exact hold
    · exact hmem
  · rw [List.mem_append, List.mem_singleton, or_comm]

theorem nodup_orderWith (o : Ordered β) (name : String) : (o.orderWith name).Nodup := by
  unfold orderWith
  split
  · exact o.nodup
  · rename_i hnew
    rw [o.isSome_iff] at hnew
    refine List.nodup_append.mpr ⟨o.nodup, List.pairwise_singleton .., ?_⟩
    rintro other hother _ hname rfl
    exact hnew (List.mem_singleton.mp hname ▸ hother)

/-- The value of a name is set. -/
def set (o : Ordered β) (name : String) (value : β) : Ordered β where
  value? other := if other = name then some value else o.value? other
  order := o.orderWith name
  nodup := o.nodup_orderWith name
  isSome_iff other := by
    rw [mem_orderWith, ← o.isSome_iff]
    split
    · rename_i hname
      simp [hname]
    · rename_i hname
      simp [hname]

/-- The names in their order, each with its value. -/
def entries (o : Ordered β) : List (String × β) :=
  o.order.filterMap fun name => (o.value? name).map fun value => (name, value)

theorem mem_entries : (name, value) ∈ o.entries ↔ o.value? name = some value := by
  rw [entries, List.mem_filterMap]
  constructor
  · rintro ⟨other, -, hentry⟩
    obtain ⟨_, hvalue, heq⟩ := Option.map_eq_some_iff.mp hentry
    cases heq
    exact hvalue
  · intro hvalue
    refine ⟨name, (o.isSome_iff name).mp ?_, ?_⟩
    · rw [hvalue, Option.isSome_some]
    · rw [hvalue, Option.map_some]

theorem map_fst_entries (o : Ordered β) : o.entries.map Prod.fst = o.order := by
  have hnames : ∀ names : List String, (∀ name ∈ names, name ∈ o.order) →
      (names.filterMap fun name => (o.value? name).map fun value => (name, value)).map Prod.fst =
        names := by
    intro names hnames
    induction names with
    | nil => rfl
    | cons name names ih =>
        obtain ⟨hname, hrest⟩ := List.forall_mem_cons.mp hnames
        obtain ⟨value, hvalue⟩ := Option.isSome_iff_exists.mp ((o.isSome_iff name).mpr hname)
        rw [List.filterMap_cons, hvalue, Option.map_some, List.map_cons, ih hrest]
  exact hnames o.order fun _ => id

/-- Values by name are what their entries tell. -/
theorem entries_inj : o.entries = o'.entries ↔ o = o' := by
  refine ⟨fun hentries => ?_, congrArg entries⟩
  have hvalue : o.value? = o'.value? := by
    funext name
    apply Option.ext
    intro value
    rw [← mem_entries, hentries, mem_entries]
  have horder : o.order = o'.order := by rw [← map_fst_entries, hentries, map_fst_entries]
  exact Ordered.ext hvalue horder

instance [DecidableEq β] : DecidableEq (Ordered β) := fun o o' =>
  decidable_of_iff (o.entries = o'.entries) entries_inj

end Ordered

end Shorthand
