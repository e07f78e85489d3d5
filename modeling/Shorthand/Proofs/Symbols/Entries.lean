import Mathlib.Data.List.Induction
import Mathlib.Data.List.Nodup
import Mathlib.Tactic.Common
import Shorthand.Symbols

/-!
# Values by name as tables

A map from names to values together with the order of the names is the same as a table: the list of
the names in their order, each with its value, in which no name stands twice.  `Ordered.Reads` says
that a table is read this way.  Every map has its table (`Ordered.reads_entries`), and every such
table is that of a map (`Ordered.entries_last`).  So what is done to the map can be told as what
becomes of the table: setting a value replaces the entry of the name, or adds one at the end
(`Ordered.entries_set`).

From this the constants of symbols are a table that is looked up, which is how the proofs about the
lowering speak of them.
-/

namespace Shorthand

namespace Symbols

/-! ## Tables -/

section tables

variable {β : Type} {table : List (String × β)}

theorem lookup_entry_cons (key : String) (value : β) (table : List (String × β)) (name : String) :
    ((key, value) :: table).lookup name = if name = key then some value else table.lookup name := by
  rw [List.lookup_cons]
  by_cases hname : name = key
  · simp [hname]
  · simp [hname, beq_eq_false_iff_ne.mpr hname]

theorem isSome_lookup_iff {name : String} :
    (table.lookup name).isSome = true ↔ name ∈ table.map Prod.fst := by
  induction table with
  | nil => simp
  | cons entry table ih =>
      obtain ⟨key, value⟩ := entry
      rw [lookup_entry_cons, List.map_cons, List.mem_cons]
      split
      · rename_i hname
        exact iff_of_true rfl (.inl hname)
      · rename_i hname
        exact ih.trans (or_iff_right hname).symm

theorem lookup_eq_none_iff {name : String} :
    table.lookup name = none ↔ name ∉ table.map Prod.fst := by
  rw [← isSome_lookup_iff, Option.not_isSome_iff_eq_none]

/-- The entries of a table without duplicates are what looking up its names gives. -/
theorem mem_iff_lookup_eq (h : (table.map Prod.fst).Nodup) {name : String} {value : β} :
    (name, value) ∈ table ↔ table.lookup name = some value := by
  induction table with
  | nil => simp
  | cons entry table ih =>
      obtain ⟨key, first⟩ := entry
      rw [List.map_cons, List.nodup_cons] at h
      rw [lookup_entry_cons, List.mem_cons, ih h.2]
      split
      · rename_i hname
        subst hname
        -- no later entry has the name
        have hnone : table.lookup name = none := lookup_eq_none_iff.mpr h.1
        simp [hnone, eq_comm]
      · rename_i hname
        simp [hname]

/-- A table without duplicates is what looking up its names gives, one after the other. -/
theorem eq_filterMap_lookup (h : (table.map Prod.fst).Nodup) :
    table = (table.map Prod.fst).filterMap fun name =>
      (table.lookup name).map fun value => (name, value) := by
  induction table with
  | nil => rfl
  | cons entry table ih =>
      obtain ⟨key, value⟩ := entry
      rw [List.map_cons, List.nodup_cons] at h
      have hkey : ((key, value) :: table).lookup key = some value := by
        rw [lookup_entry_cons, if_pos rfl]
      have hrest : ∀ name ∈ table.map Prod.fst,
          ((key, value) :: table).lookup name = table.lookup name := by
        intro name hname
        rw [lookup_entry_cons, if_neg (ne_of_mem_of_not_mem hname h.1)]
      have htable : ((table.map Prod.fst).filterMap fun name =>
          (((key, value) :: table).lookup name).map fun value => (name, value)) = table := by
        conv_rhs => rw [ih h.2]
        exact List.filterMap_congr fun name hname => by rw [hrest name hname]
      rw [List.map_cons, List.filterMap_cons, hkey, Option.map_some, htable]

/-- The table with the entry of a name set: in place if there is one, otherwise at the end. -/
def put (table : List (String × β)) (name : String) (value : β) : List (String × β) :=
  if (table.lookup name).isSome then
    table.map fun entry => if entry.1 == name then (name, value) else entry
  else table ++ [(name, value)]

/-- An entry that is set again keeps its place, and a new one comes last. -/
theorem names_put (table : List (String × β)) (name : String) (value : β) :
    (put table name value).map Prod.fst =
      if (table.lookup name).isSome then table.map Prod.fst else table.map Prod.fst ++ [name] := by
  unfold put
  split
  · rw [List.map_map]
    refine List.map_congr_left fun entry _ => ?_
    by_cases hname : entry.1 = name
    · simp [hname]
    · simp [hname]
  · simp

theorem nodup_put (h : (table.map Prod.fst).Nodup) (name : String) (value : β) :
    ((put table name value).map Prod.fst).Nodup := by
  rw [names_put]
  split
  · exact h
  · rename_i hnew
    rw [isSome_lookup_iff] at hnew
    rw [List.nodup_append']
    exact ⟨h, List.nodup_singleton _, List.disjoint_singleton.mpr hnew⟩

private theorem lookup_replace (table : List (String × β)) (name : String) (value : β)
    (other : String) :
    (table.map fun entry => if entry.1 == name then (name, value) else entry).lookup other =
      if other = name then (table.lookup name).map fun _ => value else table.lookup other := by
  induction table with
  | nil => simp
  | cons entry table ih =>
      obtain ⟨key, old⟩ := entry
      rw [List.map_cons, lookup_entry_cons key old table other,
        lookup_entry_cons key old table name]
      by_cases hkey : key = name
      · subst hkey
        rw [if_pos (beq_self_eq_true key), lookup_entry_cons, ih]
        split <;> simp
      · rw [if_neg (mt beq_iff_eq.mp hkey), lookup_entry_cons, ih, if_neg (Ne.symm hkey)]
        by_cases hother : other = key
        · simp [hother, hkey]
        · simp [hother]

/-- Setting an entry changes what its name stands for, and no other. -/
theorem lookup_put (table : List (String × β)) (name : String) (value : β) (other : String) :
    (put table name value).lookup other =
      if other = name then some value else table.lookup other := by
  unfold put
  split
  · rename_i hold
    obtain ⟨old, hold⟩ := Option.isSome_iff_exists.mp hold
    rw [lookup_replace, hold]
    rfl
  · rename_i hnew
    rw [Option.not_isSome_iff_eq_none] at hnew
    rw [List.lookup_append, lookup_entry_cons]
    by_cases hother : other = name
    · simp [hother, hnew]
    · simp [hother]

end tables

end Symbols

/-! ## Maps and their tables -/

namespace Ordered

open Symbols

variable {β : Type} {o : Ordered β} {table : List (String × β)} {name : String} {value : β}

/-- The table has the names in this order, and looking a name up gives its value. -/
structure Reads (o : Ordered β) (table : List (String × β)) : Prop where
  names_eq : table.map Prod.fst = o.order
  lookup_eq (name : String) : table.lookup name = o.value? name

namespace Reads

theorem nodup (h : o.Reads table) : (table.map Prod.fst).Nodup := by
  rw [h.names_eq]
  exact o.nodup

/-- A table is what the order and the values tell. -/
theorem eq_entries (h : o.Reads table) : table = o.entries := by
  rw [eq_filterMap_lookup h.nodup, entries, h.names_eq]
  simp only [h.lookup_eq]

theorem set (h : o.Reads table) (name : String) (value : β) :
    (o.set name value).Reads (put table name value) := by
  constructor
  · rw [names_put, h.names_eq, h.lookup_eq]
    rfl
  · intro other
    rw [lookup_put, h.lookup_eq]
    rfl

end Reads

theorem nodup_entries (o : Ordered β) : (o.entries.map Prod.fst).Nodup := by
  rw [map_fst_entries]
  exact o.nodup

theorem lookup_entries (o : Ordered β) (name : String) : o.entries.lookup name = o.value? name := by
  apply Option.ext
  intro value
  rw [← mem_entries]
  exact (mem_iff_lookup_eq o.nodup_entries).symm

theorem reads_entries (o : Ordered β) : o.Reads o.entries := ⟨o.map_fst_entries, o.lookup_entries⟩

theorem entries_set (o : Ordered β) (name : String) (value : β) :
    (o.set name value).entries = put o.entries name value :=
  (o.reads_entries.set name value).eq_entries.symm

/-- A new name comes last. -/
theorem entries_set_of_none (hnew : o.value? name = none) :
    (o.set name value).entries = o.entries ++ [(name, value)] := by
  rw [entries_set, put, lookup_entries, hnew, if_neg (by simp)]

/-- The entries are set, one after the other. -/
def last (table : List (String × β)) : Ordered β :=
  table.foldl (fun o entry => o.set entry.1 entry.2) empty

theorem last_append (table : List (String × β)) (name : String) (value : β) :
    last (table ++ [(name, value)]) = (last table).set name value := by
  rw [last, List.foldl_append]
  rfl

/-- A table in which no name stands twice is kept as it is. -/
theorem entries_last (h : (table.map Prod.fst).Nodup) : (last table).entries = table := by
  induction table using List.reverseRecOn with
  | nil => rfl
  | append_singleton table entry ih =>
      rw [List.map_append, List.map_singleton, List.nodup_append_comm, List.singleton_append,
        List.nodup_cons] at h
      have htable := ih h.2
      have hnew : (last table).value? entry.1 = none := by
        rw [← lookup_entries, htable, lookup_eq_none_iff]
        exact h.1
      rw [last_append, entries_set_of_none hnew, htable]

end Ordered

/-! ## The tables of symbols -/

namespace Symbols

theorem lookup_constants (symbols : Symbols) (name : String) :
    symbols.constants.lookup name = symbols.constant? name :=
  symbols.texts.lookup_entries name

@[simp] theorem storage?_empty (name : String) : empty.storage? name = none := rfl

theorem nodup_constants (symbols : Symbols) : (symbols.constants.map Prod.fst).Nodup :=
  symbols.texts.nodup_entries

theorem nodup_declared (symbols : Symbols) : (symbols.declared.map Prod.fst).Nodup :=
  symbols.storages.nodup_entries

theorem constants_setConstant (symbols : Symbols) (name value : String) :
    (symbols.setConstant name value).constants = put symbols.constants name value :=
  symbols.texts.entries_set name value

/-- The symbols with other constants. -/
def withConstants (symbols : Symbols) (constants : List (String × String)) : Symbols :=
  { symbols with texts := .last constants }

theorem constants_withConstants (symbols : Symbols) {constants : List (String × String)}
    (h : (constants.map Prod.fst).Nodup) :
    (symbols.withConstants constants).constants = constants :=
  Ordered.entries_last h

@[simp] theorem storage?_withConstants (symbols : Symbols) (constants : List (String × String))
    (name : String) : (symbols.withConstants constants).storage? name = symbols.storage? name :=
  rfl

theorem withConstants_constants (symbols : Symbols) :
    symbols.withConstants symbols.constants = symbols := by
  have hentries := Ordered.entries_last symbols.nodup_constants
  rw [withConstants, Ordered.entries_inj.mp hentries]

theorem setConstant_eq (symbols : Symbols) (name text : String) :
    symbols.setConstant name text = symbols.withConstants (put symbols.constants name text) := by
  rw [← constants_setConstant]
  exact (symbols.setConstant name text).withConstants_constants.symm

end Symbols

end Shorthand
