import Shorthand.Proofs.Symbols.Entries

/-!
# What symbols hold after their history

Constants are defined and variables declared in any order, again and again.  What the symbols hold
then is told by the calls that were made: every constant once, at the place of its first definition
and with the text of its last one, and every variable once, at the place and with the storage of its
first declaration (`performAll_eq_history`).  Neither of the two tables depends on the calls that
are meant for the other.

## Strategy

A definition sets the text of its name, and a declaration sets storage where there is none
(`Ordered.keep`).  So the texts are those of all definitions, set one after the other
(`Ordered.last`), and the storage is that of all declarations, kept one after the other
(`Ordered.first`): each call is one more step, and leaves what the other calls are meant for as it
is (`Agrees.perform`).  What a name stands for after such steps and where it stands are found by
adding one entry at the end.
-/

namespace Shorthand

/-! ## Entries one after the other -/

namespace Ordered

open Symbols

variable {β : Type} {o : Ordered β} {entries : List (String × β)} {name : String}

/-- The value of a name is set if it has none. -/
def keep (o : Ordered β) (name : String) (value : β) : Ordered β :=
  if (o.value? name).isSome then o else o.set name value

/-- The entries are kept, one after the other. -/
def first (entries : List (String × β)) : Ordered β :=
  entries.foldl (fun o entry => o.keep entry.1 entry.2) empty

theorem first_append (entries : List (String × β)) (name : String) (value : β) :
    first (entries ++ [(name, value)]) = (first entries).keep name value := by
  rw [first, List.foldl_append]
  rfl

theorem value?_keep (o : Ordered β) (name : String) (value : β) (other : String) :
    (o.keep name value).value? other =
      (o.value? other).or (if other = name then some value else none) := by
  unfold keep
  split
  · rename_i hold
    obtain ⟨old, hold⟩ := Option.isSome_iff_exists.mp hold
    by_cases hother : other = name
    · simp [hother, hold]
    · simp [hother]
  · rename_i hnew
    rw [Option.not_isSome_iff_eq_none] at hnew
    by_cases hother : other = name
    · simp [hother, hnew, set]
    · simp [hother, set]

theorem order_keep (o : Ordered β) (name : String) (value : β) :
    (o.keep name value).order = o.orderWith name := by
  unfold keep
  split
  · rename_i hold
    rw [orderWith, if_pos hold]
  · rfl

/-- A name stands for its last entry. -/
theorem value?_last (entries : List (String × β)) (name : String) :
    (last entries).value? name = entries.reverse.lookup name := by
  induction entries using List.reverseRecOn with
  | nil => rfl
  | append_singleton entries entry ih =>
      rw [last_append, List.reverse_append, List.reverse_singleton, List.singleton_append,
        lookup_entry_cons, ← ih]
      rfl

/-- A name stands for its first entry. -/
theorem value?_first (entries : List (String × β)) (name : String) :
    (first entries).value? name = entries.lookup name := by
  induction entries using List.reverseRecOn with
  | nil => rfl
  | append_singleton entries entry ih =>
      rw [first_append, value?_keep, ih, List.lookup_append, lookup_entry_cons, List.lookup_nil]

/-- A name that comes again does not change the order, and a new one comes last. -/
theorem eraseDups_append_singleton (names : List String) (name : String) :
    (names ++ [name]).eraseDups =
      if name ∈ names then names.eraseDups else names.eraseDups ++ [name] := by
  rw [List.eraseDups_append]
  by_cases hmem : name ∈ names
  · simp [hmem, List.removeAll]
  · simp [hmem, List.removeAll, List.eraseDups_cons]

/-- The names in the order in which they come first have one more. -/
theorem orderWith_eq_eraseDups {names : List String} (h : o.order = names.eraseDups)
    (name : String) : o.orderWith name = (names ++ [name]).eraseDups := by
  rw [orderWith, eraseDups_append_singleton]
  simp only [o.isSome_iff, h, List.mem_eraseDups]

theorem order_last (entries : List (String × β)) :
    (last entries).order = (entries.map Prod.fst).eraseDups := by
  induction entries using List.reverseRecOn with
  | nil => rfl
  | append_singleton entries entry ih =>
      rw [last_append, List.map_append]
      exact orderWith_eq_eraseDups ih entry.1

theorem order_first (entries : List (String × β)) :
    (first entries).order = (entries.map Prod.fst).eraseDups := by
  induction entries using List.reverseRecOn with
  | nil => rfl
  | append_singleton entries entry ih =>
      rw [first_append, order_keep, List.map_append]
      exact orderWith_eq_eraseDups ih entry.1

end Ordered

namespace Symbols

/-! ## Calls -/

/-- A call that changes symbols. -/
inductive Operation where
  /-- Gives a constant its text. -/
  | define (name value : String)
  | declare (name : String) (storage : Storage)
deriving DecidableEq

/-- The symbols after a call.  A declaration that fails leaves them as they are. -/
def perform (symbols : Symbols) : Operation → Symbols
  | .define name value => symbols.setConstant name value
  | .declare name storage =>
      match symbols.declare name storage with
      | .ok declared => declared
      | .error _ => symbols

/-- The symbols after calls. -/
def performAll (symbols : Symbols) (operations : List Operation) : Symbols :=
  operations.foldl perform symbols

namespace Operation

/-- The constant that is defined, with its text. -/
def definition? : Operation → Option (String × String)
  | define name value => some (name, value)
  | declare _ _ => none

/-- The variable that is declared, with its storage. -/
def declaration? : Operation → Option (String × Storage)
  | define _ _ => none
  | declare name storage => some (name, storage)

end Operation

/-- The definitions among the calls. -/
def definitions (operations : List Operation) : List (String × String) :=
  operations.filterMap Operation.definition?

/-- The declarations among the calls, also those that fail. -/
def declarations (operations : List Operation) : List (String × Storage) :=
  operations.filterMap Operation.declaration?

section calls

variable {symbols : Symbols} {operations : List Operation}

theorem performAll_append (symbols : Symbols) (operations more : List Operation) :
    symbols.performAll (operations ++ more) = (symbols.performAll operations).performAll more :=
  List.foldl_append

theorem definitions_append (operations : List Operation) (operation : Operation) :
    definitions (operations ++ [operation]) =
      definitions operations ++ operation.definition?.toList := by
  rw [definitions, List.filterMap_append]
  cases operation <;> rfl

theorem declarations_append (operations : List Operation) (operation : Operation) :
    declarations (operations ++ [operation]) =
      declarations operations ++ operation.declaration?.toList := by
  rw [declarations, List.filterMap_append]
  cases operation <;> rfl

/-- A declaration keeps the storage that a name has. -/
theorem perform_declare (symbols : Symbols) (name : String) (storage : Storage) :
    symbols.perform (.declare name storage) =
      { symbols with storages := symbols.storages.keep name storage } := by
  unfold perform declare storage? Ordered.keep
  by_cases hold : (symbols.storages.value? name).isSome = true
  · simp only [if_pos hold]
  · simp only [if_neg hold]

theorem declare_eq_perform (symbols : Symbols) (name : String) (storage : Storage) :
    symbols.declare name storage =
      if (symbols.storage? name).isSome then .error (.withTexts .variableDuplicate [name])
      else .ok (symbols.perform (.declare name storage)) := by
  by_cases hold : (symbols.storage? name).isSome = true
  · simp only [declare, if_pos hold]
  · simp only [perform, declare, if_neg hold]

/-- The symbols hold what the calls tell. -/
structure Agrees (symbols : Symbols) (operations : List Operation) : Prop where
  texts : symbols.texts = .last (definitions operations)
  storages : symbols.storages = .first (declarations operations)

theorem Agrees.perform (h : symbols.Agrees operations) (operation : Operation) :
    (symbols.perform operation).Agrees (operations ++ [operation]) := by
  constructor
  · rw [definitions_append]
    cases operation with
    | define name value =>
        rw [Operation.definition?, Option.toList_some, Ordered.last_append, ← h.texts]
        rfl
    | declare name storage =>
        rw [Operation.definition?, Option.toList_none, List.append_nil, perform_declare]
        exact h.texts
  · rw [declarations_append]
    cases operation with
    | define name value =>
        rw [Operation.declaration?, Option.toList_none, List.append_nil]
        exact h.storages
    | declare name storage =>
        rw [Operation.declaration?, Option.toList_some, Ordered.first_append, ← h.storages,
          perform_declare]

/-- The symbols hold what the calls tell, whatever calls are made. -/
theorem agrees_performAll (operations : List Operation) :
    (empty.performAll operations).Agrees operations := by
  induction operations using List.reverseRecOn with
  | nil => exact ⟨rfl, rfl⟩
  | append_singleton operations operation ih =>
      rw [performAll_append]
      exact ih.perform operation

theorem Agrees.isDeclared_iff (h : symbols.Agrees operations) {name : String} :
    (symbols.storage? name).isSome = true ↔ name ∈ (declarations operations).map Prod.fst := by
  rw [storage?, h.storages, Ordered.value?_first, isSome_lookup_iff]

/-- After any calls every constant is listed once, in the order of the first definitions, with the
text of its last one, and every variable once, in the order of the first declarations, with the
storage of its first one.  What a name stands for is what is listed with it.  A declaration fails if
and only if its name was declared before, and then no call that is made later shows that it was
made.  Neither table depends on the calls that are meant for the other. -/
theorem performAll_eq_history (operations : List Operation) :
    let symbols := empty.performAll operations
    let defined := definitions operations
    let declared := declarations operations
    (symbols.constants.map Prod.fst = (defined.map Prod.fst).eraseDups ∧
      (symbols.constants.map Prod.fst).Nodup ∧
      (∀ name, symbols.constant? name = defined.reverse.lookup name) ∧
      ∀ name value, (name, value) ∈ symbols.constants ↔ symbols.constant? name = some value) ∧
    (symbols.declared.map Prod.fst = (declared.map Prod.fst).eraseDups ∧
      (symbols.declared.map Prod.fst).Nodup ∧
      (∀ name, symbols.storage? name = declared.lookup name) ∧
      ∀ name storage, (name, storage) ∈ symbols.declared ↔ symbols.storage? name = some storage) ∧
    (∀ name storage, symbols.declare name storage =
      if name ∈ declared.map Prod.fst then .error (.withTexts .variableDuplicate [name])
      else .ok (empty.performAll (operations ++ [.declare name storage]))) ∧
    (∀ name storage later, name ∈ declared.map Prod.fst →
      empty.performAll (operations ++ .declare name storage :: later) =
        empty.performAll (operations ++ later)) ∧
    (∀ others, definitions others = defined →
      (empty.performAll others).constants = symbols.constants) ∧
    ∀ others, declarations others = declared →
      (empty.performAll others).declared = symbols.declared := by
  intro symbols defined declared
  have hagrees : symbols.Agrees operations := agrees_performAll operations
  have htexts : symbols.texts = .last defined := hagrees.texts
  have hstorages : symbols.storages = .first declared := hagrees.storages
  refine ⟨⟨?_, symbols.nodup_constants, ?_, fun name value => symbols.texts.mem_entries⟩,
    ⟨?_, symbols.nodup_declared, ?_, fun name storage => symbols.storages.mem_entries⟩,
    ?_, ?_, ?_, ?_⟩
  · rw [constants, Ordered.map_fst_entries, htexts, Ordered.order_last]
  · intro name
    rw [constant?, htexts, Ordered.value?_last]
  · rw [Symbols.declared, Ordered.map_fst_entries, hstorages, Ordered.order_first]
  · intro name
    rw [storage?, hstorages, Ordered.value?_first]
  · intro name storage
    rw [declare_eq_perform, performAll_append]
    simp only [hagrees.isDeclared_iff]
    rfl
  · intro name storage later hbefore
    have hsame : symbols.perform (.declare name storage) = symbols := by
      have hold := hagrees.isDeclared_iff.mpr hbefore
      rw [storage?] at hold
      rw [perform_declare, Ordered.keep, if_pos hold]
    rw [performAll_append, performAll_append]
    change (symbols.perform (.declare name storage)).performAll later = symbols.performAll later
    rw [hsame]
  · intro others hothers
    rw [constants, constants, (agrees_performAll others).texts, hothers, htexts]
  · intro others hothers
    rw [Symbols.declared, Symbols.declared, (agrees_performAll others).storages, hothers, hstorages]

example :
    let symbols := empty.performAll [.define "b" "1", .declare "z" ⟨4, .word, []⟩, .define "a" "2",
      .declare "z" ⟨1, .byte, []⟩, .define "b" "3"]
    symbols.constants = [("b", "3"), ("a", "2")] ∧ symbols.declared = [("z", ⟨4, .word, []⟩)] := by
  decide

end calls

end Symbols

end Shorthand
