import Mathlib.Algebra.BigOperators.Ring.List
import Mathlib.Algebra.Ring.Int.Defs
import Mathlib.Data.List.Forall2
import Shorthand.Expression.Execute
import Shorthand.Proofs.Lowering.Definitions

/-!
# The storage of variables

A declaration of a variable leaves its trace in three places: an entry in the table of symbols, with
the size of the storage, the directive that reserves the storage, and the section of the listing
to which it is added.  The four kinds of declarations come to size and directive in their own ways.
What one declaration leaves is described by `Declaration.IsStored`, which follows from the plain
function `storageOf?` alone.

A step either leaves the variables as they are or adds one (`Change.variables`).  Hence the sections
list what the table has, in the order of the declarations, and each variable in words starts at a
multiple of four bytes (`variables_of_compile`).
-/

namespace Shorthand

open Lowering

/-! ## What a directive reserves -/

/-- The number of bytes that the directive of a variable reserves, unless it is for a text. -/
def Variable.reserved? (v : Variable) : Option Nat :=
  if v.directive = ".skip" then
    match v.args with
    | [size] => size.toNat?
    | _ => none
  else if v.directive = ".word" then some (4 * v.args.length)
  else if v.directive = ".byte" then some v.args.length
  else none

theorem Variable.reserved?_skip (name : String) (align : Align) (size : Nat) :
    (⟨name, align, ".skip", [toString size]⟩ : Variable).reserved? = some size :=
  Nat.toNat?_repr size

theorem Variable.reserved?_valueDirective (name : String) (align : Align) (width : Width)
    (texts : List String) :
    (⟨name, align, valueDirective width, texts⟩ : Variable).reserved? =
      some (width.bytes * texts.length) := by
  cases width with
  | word => rfl
  | byte => exact congrArg some (Nat.one_mul _).symm

/-! ## What a declaration leaves -/

/-- The unit and the size of a declaration that has as many values as a size says. -/
def Declaration.elements? : Declaration → Option (Width × Immediate)
  | .array width _ size => some (width, size)
  | .buffer _ size => some (.byte, size)
  | .scalar _ _ _ | .string _ _ | .const _ _ => none

/-- Whether a text is declared. -/
def Declaration.isText : Declaration → Bool
  | .string _ _ => true
  | .scalar _ _ _ | .array _ _ _ | .buffer _ _ | .const _ _ => false

/-- The storage of as many values as the size says: the size expression has a value in 64 bits, and
neither the number of bytes nor the product that it is computed with leaves the range of a positive
number in 32 bits. -/
def Storage.IsCounted [Interpreter] (storage : Storage) (known : Constants) (width : Width)
    (size : Immediate) : Prop :=
  1 ≤ storage.size ∧ storage.size ≤ 2 ^ 31 - 1 ∧
    ∃ (text : String) (count : Int64), sizeExpression? size = some text ∧
      valueOf? known text = some count.toInt ∧
      storage.size = count.toInt * width.bytes ∧
      storage.size = (count * Int64.ofNat width.bytes).toInt

/-- The variable and the storage are those of the declaration, with the constants that are known at
it. -/
structure Declaration.IsStored [Interpreter] (declaration : Declaration) (known : Constants)
    (v : Variable) (storage : Storage) : Prop where
  name : v.name = declaration.name
  align : v.align = storage.align
  /-- Storage in words is a number of whole words. -/
  placed : storage.align = .word ∧ 4 ∣ storage.size ∨ storage.align = .byte
  /-- The directive reserves the size that the symbols record. -/
  reserved : declaration.isText = false → v.reserved?.map Int.ofNat = some storage.size
  counted : ∀ width size, declaration.elements? = some (width, size) →
    storage.IsCounted known width size

namespace Lowering

theorem placed_alignOf (width : Width) (count : Int) :
    alignOf width = .word ∧ (4 : Int) ∣ width.bytes * count ∨ alignOf width = .byte := by
  cases width with
  | word => exact .inl ⟨rfl, Int.dvd_mul_right 4 count⟩
  | byte => exact .inr rfl

/-- A size that is accepted is small enough to be multiplied by the unit in 64 bits. -/
theorem isCounted_of_sizeOf? [Interpreter] {known : Constants} {width : Width} {size : Immediate}
    {count : Int}
    (align : Align) (init : List String) (h : sizeOf? known size width.bytes = some count) :
    Storage.IsCounted ⟨count * width.bytes, align, init⟩ known width size := by
  obtain ⟨hvalue, hcheck⟩ := Option.filter_eq_some_iff.mp h
  obtain ⟨text, htext, hvalue⟩ := Option.bind_eq_some_iff.mp hvalue
  have hcount : 1 ≤ count ∧ count ≤ sizeLimit / width.bytes := by
    simp only [Bool.not_eq_true', Bool.or_eq_false_iff, decide_eq_false_iff_not] at hcheck
    omega
  have hbytes : count * width.bytes ≤ 2 ^ 31 - 1 ∧ 1 ≤ count * width.bytes ∧
      count ≤ 2 ^ 31 - 1 := by
    cases width <;> simp only [Width.bytes, sizeLimit] at hcount ⊢ <;> omega
  have hcount64 : (Int64.ofInt count).toInt = count :=
    Int64.toInt_ofInt_of_le (by omega) (by omega)
  have hunit64 : (Int64.ofNat width.bytes).toInt = width.bytes :=
    Int64.toInt_ofNat_of_lt (by cases width <;> decide)
  refine ⟨hbytes.2.1, hbytes.1, text, Int64.ofInt count, htext, ?_, ?_, ?_⟩
  · rw [hcount64, hvalue]
  · rw [hcount64]
  · rw [Int64.toInt_mul, hcount64, hunit64, Int.bmod_eq_of_le (by omega) (by omega)]

theorem isStored_array [Interpreter] {known : Constants} {width : Width} {size : Immediate}
    {count : Int}
    (declaration : Declaration) (helements : declaration.elements? = some (width, size))
    (hcount : sizeOf? known size width.bytes = some count) :
    declaration.IsStored known
      ⟨declaration.name, alignOf width, ".skip", [toString (count * width.bytes)]⟩
      ⟨count * width.bytes, alignOf width, []⟩ := by
  have hcounted := isCounted_of_sizeOf? (alignOf width) [] hcount
  refine ⟨rfl, rfl, ?_, fun _ => ?_, ?_⟩
  · rw [Int.mul_comm]
    exact placed_alignOf width count
  · have hpositive : 0 < count * (width.bytes : Int) := hcounted.1
    obtain ⟨bytes, hbytes⟩ := Int.eq_ofNat_of_zero_le (Int.le_of_lt hpositive)
    rw [hbytes]
    exact congrArg (Option.map Int.ofNat) (Variable.reserved?_skip _ _ bytes)
  · intro width' size' h
    rw [helements] at h
    cases h
    exact hcounted

/-- What is stored for a declaration is as it says. -/
theorem isStored_of_storageOf? [Interpreter] {known : Constants} {declaration : Declaration}
    {v : Variable} {storage : Storage} (h : storageOf? known declaration = some (v, storage)) :
    declaration.IsStored known v storage := by
  cases declaration with
  | const name value => cases h
  | scalar width name init =>
      simp only [storageOf?] at h
      split at h
      · cases h
        refine ⟨rfl, rfl, ?_, fun _ => ?_, fun _ _ helements => by cases helements⟩
        · simpa using placed_alignOf width 1
        · exact congrArg (Option.map Int.ofNat) (Variable.reserved?_skip name _ width.bytes)
      · obtain ⟨texts, -, hentry⟩ := Option.bind_eq_some_iff.mp h
        cases hentry
        refine ⟨rfl, rfl, placed_alignOf width texts.length, fun _ => ?_,
          fun _ _ helements => by cases helements⟩
        rw [Variable.reserved?_valueDirective, Option.map_some]
        exact congrArg some (Int.natCast_mul ..)
  | array width name size =>
      obtain ⟨count, hcount, hentry⟩ := Option.bind_eq_some_iff.mp h
      cases hentry
      exact isStored_array (.array width name size) rfl hcount
  | buffer name size =>
      obtain ⟨count, hcount, hentry⟩ := Option.bind_eq_some_iff.mp h
      cases hentry
      exact isStored_array (.buffer name size) rfl hcount
  | string name literal =>
      cases h
      refine ⟨rfl, rfl, .inr rfl, fun hstring => ?_, fun _ _ helements => ?_⟩
      · cases hstring
      · cases helements

/-! ## The variables of a state -/

variable {predefined : Constants} {state state' : State} {statement : Statement}

/-- The states have the same variables. -/
structure State.SameVariables (state state' : State) : Prop where
  declared : state'.symbols.declared = state.symbols.declared
  words : state'.words = state.words
  bytes : state'.bytes = state.bytes

theorem State.sameVariables_closed (state : State) : state.SameVariables state.closed :=
  ⟨congrArg Symbols.declared state.symbols_closed, state.words_closed, state.bytes_closed⟩

/-- A statement leaves the variables as they are, or it declares one that is new. -/
theorem Change.variables [Interpreter] (hchange : Change predefined state statement state') :
    statement.variableName? = none ∧ state.SameVariables state' ∨
      ∃ declaration v storage, statement = .declare declaration ∧
        declaration.isVariable = true ∧
        storageOf? state.symbols.constants declaration = some (v, storage) ∧
        state.symbols.storage? v.name = none ∧
        (state.reserve v storage).SameVariables state' := by
  cases hchange with
  | compile | body | closeBlock =>
      have hclosed := state.sameVariables_closed
      exact .inl ⟨rfl, hclosed.declared, hclosed.words, hclosed.bytes⟩
  | const hscope hconstants hstate =>
      obtain ⟨defined, events, rfl⟩ := hstate
      exact .inl ⟨rfl, rfl, rfl, rfl⟩
  | @reserve declaration entry events hvariable hentry =>
      obtain ⟨hstorage, hnew⟩ := reserve?_eq_some_iff.mp hentry
      exact .inr ⟨declaration, entry.1, entry.2, rfl, hvariable, hstorage, hnew, rfl, rfl, rfl⟩
  | simple hsimple hscope hleaf =>
      have hnone : statement.variableName? = none := by
        cases statement <;> first | rfl | cases hsimple
      exact .inl ⟨hnone, rfl, rfl, rfl⟩
  | branch | loop | otherwise | closeFrame | commentOutside | commentConstants | commentBody =>
      exact .inl ⟨rfl, rfl, rfl, rfl⟩

/-! ## The order of the variables -/

/-- The entries of the table that are placed in a section. -/
def entriesAt (align : Align) (declared : List (String × Storage)) : List (String × Storage) :=
  declared.filter fun entry => entry.2.align == align

/-- The variable has the name and the place of the entry. -/
def Lists (entry : String × Storage) (v : Variable) : Prop :=
  v.name = entry.1 ∧ v.align = entry.2.align

/-- The two lists of variables follow the table. -/
structure State.Ordered (state : State) : Prop where
  words : List.Forall₂ Lists (entriesAt .word state.symbols.declared) state.words.reverse
  bytes : List.Forall₂ Lists (entriesAt .byte state.symbols.declared) state.bytes.reverse
  /-- There is no third section, and storage in words is a number of whole words. -/
  placed : ∀ entry ∈ state.symbols.declared,
    entry.2.align = .word ∧ 4 ∣ entry.2.size ∨ entry.2.align = .byte

theorem State.Ordered.start : State.start.Ordered := ⟨.nil, .nil, nofun⟩

theorem State.Ordered.congr (h : state.Ordered) (hsame : state.SameVariables state') :
    state'.Ordered := by
  refine ⟨?_, ?_, ?_⟩
  · rw [hsame.declared, hsame.words]
    exact h.words
  · rw [hsame.declared, hsame.bytes]
    exact h.bytes
  · rw [hsame.declared]
    exact h.placed

theorem State.Ordered.reserve [Interpreter] (h : state.Ordered) {declaration : Declaration}
    {known : Constants} {v : Variable} {storage : Storage}
    (hstored : declaration.IsStored known v storage) (hnew : state.symbols.storage? v.name = none) :
    (state.reserve v storage).Ordered := by
  have hlists : Lists (v.name, storage) v := ⟨rfl, hstored.align⟩
  have hdeclared := State.declared_reserve hnew storage
  have hplaced : ∀ entry ∈ (state.reserve v storage).symbols.declared,
      entry.2.align = .word ∧ 4 ∣ entry.2.size ∨ entry.2.align = .byte := by
    intro entry hentry
    rw [hdeclared] at hentry
    rcases List.mem_append.mp hentry with hold | hnew
    · exact h.placed entry hold
    · rw [List.mem_singleton.mp hnew]
      exact hstored.placed
  rcases hstored.placed with ⟨hword, -⟩ | hbyte
  · have halign : v.align = .word := hstored.align.trans hword
    refine ⟨?_, ?_, hplaced⟩
    · rw [hdeclared]
      simpa [State.reserve, entriesAt, halign, hword] using
        List.rel_append h.words (.cons hlists .nil)
    · rw [hdeclared]
      simpa [State.reserve, entriesAt, halign, hword, Align.word, Align.byte] using h.bytes
  · have halign : v.align = .byte := hstored.align.trans hbyte
    refine ⟨?_, ?_, hplaced⟩
    · rw [hdeclared]
      simpa [State.reserve, entriesAt, halign, hbyte, Align.word, Align.byte] using h.words
    · rw [hdeclared]
      simpa [State.reserve, entriesAt, halign, hbyte, Align.word, Align.byte] using
        List.rel_append h.bytes (.cons hlists .nil)

theorem Lowers.ordered [Interpreter] {statements : List Statement}
    (h : Lowers predefined state statements state') (hordered : state.Ordered) :
    state'.Ordered := by
  induction h with
  | done state => exact hordered
  | step hchange _ ih =>
      apply ih
      rcases hchange.variables with
        ⟨-, hsame⟩ | ⟨declaration, v, storage, -, -, hstorage, hnew, hsame⟩
      · exact hordered.congr hsame
      · exact (hordered.reserve (isStored_of_storageOf? hstorage) hnew).congr hsame

/-- The table lists the variables in the order of their declarations. -/
theorem Lowers.declared_names [Interpreter] {statements : List Statement}
    (h : Lowers predefined state statements state') :
    state'.symbols.declared.map Prod.fst =
      state.symbols.declared.map Prod.fst ++ statements.filterMap Statement.variableName? := by
  induction h with
  | done state => exact (List.append_nil _).symm
  | step hchange _ ih =>
      rw [ih]
      rcases hchange.variables with
        ⟨hnone, hsame⟩ | ⟨declaration, v, storage, rfl, hvariable, hstorage, hnew, hsame⟩
      · rw [hsame.declared, List.filterMap_cons_none hnone]
      · have hname : Statement.variableName? (.declare declaration) = some v.name := by
          rw [Statement.variableName?, if_pos hvariable, name_of_storageOf? hstorage]
        rw [hsame.declared, State.declared_reserve hnew, List.filterMap_cons_some hname]
        simp

/-! ## The variables stay -/

/-- The second state has the variables of the first one, perhaps with others. -/
structure State.Keeps (state state' : State) : Prop where
  declared : state.symbols.declared ⊆ state'.symbols.declared
  words : state.words ⊆ state'.words
  bytes : state.bytes ⊆ state'.bytes

theorem State.Keeps.refl (state : State) : state.Keeps state :=
  ⟨fun _ => id, fun _ => id, fun _ => id⟩

theorem State.Keeps.trans {middle : State} (h : state.Keeps middle) (h' : middle.Keeps state') :
    state.Keeps state' :=
  ⟨List.Subset.trans h.declared h'.declared, List.Subset.trans h.words h'.words,
    List.Subset.trans h.bytes h'.bytes⟩

theorem State.SameVariables.keeps (h : state.SameVariables state') : state.Keeps state' :=
  ⟨fun _ => (h.declared ▸ ·), fun _ => (h.words ▸ ·), fun _ => (h.bytes ▸ ·)⟩

theorem State.keeps_reserve {v : Variable} (hnew : state.symbols.storage? v.name = none)
    (storage : Storage) : state.Keeps (state.reserve v storage) := by
  refine ⟨?_, ?_, ?_⟩
  · rw [State.declared_reserve hnew]
    exact List.subset_append_left ..
  · simp only [State.reserve]
    split
    · exact List.subset_cons_self ..
    · exact List.Subset.refl _
  · simp only [State.reserve]
    split
    · exact List.Subset.refl _
    · exact List.subset_cons_self ..

theorem Lowers.keeps [Interpreter] {statements : List Statement}
    (h : Lowers predefined state statements state') : state.Keeps state' := by
  induction h with
  | done state => exact .refl state
  | step hchange _ ih =>
      refine .trans ?_ ih
      rcases hchange.variables with ⟨-, hsame⟩ | ⟨declaration, v, storage, -, -, -, hnew, hsame⟩
      · exact hsame.keeps
      · exact (State.keeps_reserve hnew storage).trans hsame.keeps

/-- A declaration adds its variable. -/
theorem Change.adds [Interpreter] {declaration : Declaration}
    (hchange : Change predefined state (.declare declaration) state')
    (hvariable : declaration.isVariable = true) :
    ∃ v storage, storageOf? state.symbols.constants declaration = some (v, storage) ∧
      (declaration.name, storage) ∈ state'.symbols.declared ∧
      v ∈ state'.words ++ state'.bytes := by
  rcases hchange.variables with
    ⟨hnone, -⟩ | ⟨declaration', v, storage, heq, -, hstorage, hnew, hsame⟩
  · simp [Statement.variableName?, hvariable] at hnone
  · cases heq
    refine ⟨v, storage, hstorage, ?_, ?_⟩
    · rw [hsame.declared, State.declared_reserve hnew, ← name_of_storageOf? hstorage]
      exact List.mem_append_right _ (List.mem_singleton_self _)
    · rw [hsame.words, hsame.bytes]
      by_cases halign : (v.align == .word) = true <;> simp [State.reserve, halign]

/-! ## The variables of a listing -/

variable {statements : List Located} {listing : Listing} {events : List Event}

theorem ordered_of_lower [Interpreter]
    (hlower : lower predefined statements = .ok (listing, events)) :
    List.Forall₂ Lists (entriesAt .word listing.symbols.declared) listing.words ∧
      List.Forall₂ Lists (entriesAt .byte listing.symbols.declared) listing.bytes ∧
      (∀ entry ∈ listing.symbols.declared,
        entry.2.align = .word ∧ 4 ∣ entry.2.size ∨ entry.2.align = .byte) ∧
      listing.symbols.declared.map Prod.fst =
        (statements.map Located.statement).filterMap Statement.variableName? ∧
      (listing.symbols.declared.map Prod.fst).Nodup := by
  obtain ⟨final, hrun, hconclude⟩ := lowers_of_lower hlower
  obtain ⟨-, -, main, -, rfl⟩ := conclude_ok_iff.mp hconclude
  have hordered := (hrun.ordered .start).congr final.sameVariables_closed
  refine ⟨hordered.words, hordered.bytes, hordered.placed, ?_,
    Symbols.nodup_declared _⟩
  exact (congrArg (List.map Prod.fst) final.sameVariables_closed.declared).trans
    hrun.declared_names

/-- The variable of a declaration is in the listing, as it was known at the declaration. -/
theorem exists_isStored_of_lower [Interpreter]
    (hlower : lower predefined statements = .ok (listing, events))
    {before after : List Statement} {declaration : Declaration}
    (hsplit : statements.map Located.statement = before ++ .declare declaration :: after)
    (hvariable : declaration.isVariable = true) :
    ∃ v storage, (declaration.name, storage) ∈ listing.symbols.declared ∧
      v ∈ listing.words ++ listing.bytes ∧
      declaration.IsStored (constantsAfter predefined before) v storage := by
  obtain ⟨final, hrun, hconclude⟩ := lowers_of_lower hlower
  obtain ⟨-, -, main, -, rfl⟩ := conclude_ok_iff.mp hconclude
  rw [hsplit] at hrun
  obtain ⟨first, hbefore, hrun⟩ := Lowers.append_iff.mp hrun
  obtain ⟨second, hchange, hafter⟩ := Lowers.cons_iff.mp hrun
  obtain ⟨v, storage, hstorage, hdeclared, hmem⟩ := hchange.adds hvariable
  have hkeeps := hafter.keeps.trans final.sameVariables_closed.keeps
  have hconstants : first.symbols.constants = constantsAfter predefined before :=
    hbefore.constants
  rw [hconstants] at hstorage
  refine ⟨v, storage, hkeeps.declared hdeclared, ?_, isStored_of_storageOf? hstorage⟩
  simp only [listingOf, List.mem_append, List.mem_reverse] at hmem ⊢
  exact hmem.imp (fun h => hkeeps.words h) fun h => hkeeps.bytes h

end Lowering

/-- The number of bytes between the first variable of a section and one that stands after the given
ones. -/
def bytesOf (entries : List (String × Storage)) : Int :=
  (entries.map fun entry => entry.2.size).sum

theorem four_dvd_bytesOf {entries : List (String × Storage)}
    (h : ∀ entry ∈ entries, 4 ∣ entry.2.size) : 4 ∣ bytesOf entries := by
  refine List.dvd_sum fun size hsize => ?_
  obtain ⟨entry, hentry, rfl⟩ := List.mem_map.mp hsize
  exact h entry hentry

/-- **Symbols, directives and sections agree.**  In a program that is compiled, the table has the
variables in the order of their declarations, none twice; each section of the listing has those that
are placed in it, in the same order; for each declaration, the directive reserves the size that the
table records, and a size that is computed is positive and computed without overflow; and each
variable in words has an address that is a multiple of four. -/
theorem variables_of_compile [Interpreter] {compiler : Compiler} {source : Source}
    {listing : Listing} (hcompile : (compiler.compile source).outcome = .ok listing) :
    let statements := (parse compiler.handlers source).statements.map Located.statement
    listing.symbols.declared.map Prod.fst = statements.filterMap Statement.variableName? ∧
      (listing.symbols.declared.map Prod.fst).Nodup ∧
      (∀ entry ∈ listing.symbols.declared, entry.2.align = .word ∨ entry.2.align = .byte) ∧
      List.Forall₂ Lists (entriesAt .word listing.symbols.declared) listing.words ∧
      List.Forall₂ Lists (entriesAt .byte listing.symbols.declared) listing.bytes ∧
      (∀ before declaration after, statements = before ++ .declare declaration :: after →
        declaration.isVariable = true →
          ∃ v storage, (declaration.name, storage) ∈ listing.symbols.declared ∧
            v ∈ listing.words ++ listing.bytes ∧
            declaration.IsStored (constantsAfter compiler.predefined before) v storage) ∧
      ∃ origin : Nat, Text.Integer.unsigned? Listing.wordOrigin = some origin ∧
        ∀ before entry after, entriesAt .word listing.symbols.declared = before ++ entry :: after →
          4 ∣ (origin : Int) + bytesOf before := by
  obtain ⟨events, hlower⟩ := lower_of_compile hcompile
  obtain ⟨hwords, hbytes, hplaced, hnames, hnodup⟩ := ordered_of_lower hlower
  refine ⟨hnames, hnodup, fun entry hentry => (hplaced entry hentry).imp_left And.left, hwords,
    hbytes, fun before declaration after => exists_isStored_of_lower hlower,
    4096, by decide +kernel, fun before entry after hsplit => ?_⟩
  have hbefore : 4 ∣ bytesOf before := by
    refine four_dvd_bytesOf fun entry' hentry' => ?_
    have hmem : entry' ∈ entriesAt .word listing.symbols.declared := by
      rw [hsplit]
      exact List.mem_append_left _ hentry'
    obtain ⟨hdeclared, hword⟩ := List.mem_filter.mp hmem
    rcases hplaced entry' hdeclared with ⟨-, hsize⟩ | hbyte
    · exact hsize
    · rw [hbyte] at hword
      cases hword
  omega

/-- A program with variables of every kind, the first ones before its bodies. -/
def mixedVariables : Source :=
  ⟨["int a", "byte b = 'x', 2", "compile:", "const N = 4", "string s = \"hi\"", "main:",
    "int[N] c", "end", "var[$(N*2)] buf", "int d = 1, 2"], none⟩

theorem mixedVariables_stored :
    ∃ listing, (Compiler.standard.compile mixedVariables).outcome = .ok listing ∧
      listing.symbols.declared.map Prod.fst = ["a", "b", "s", "c", "buf", "d"] ∧
      List.Forall₂ Lists (entriesAt .word listing.symbols.declared) listing.words ∧
      ∃ v storage, ("c", storage) ∈ listing.symbols.declared ∧
        (Declaration.array .word "c" (.name "N")).IsStored [("N", "4")] v storage := by
  have hok : (Compiler.standard.compile mixedVariables).outcome.isOk = true := by decide +kernel
  cases hcompile : (Compiler.standard.compile mixedVariables).outcome with
  | error rejection =>
      rw [hcompile] at hok
      cases hok
  | ok listing =>
      obtain ⟨hnames, -, -, hwords, -, hstored, -⟩ := variables_of_compile hcompile
      have hsplit : (parse Compiler.standard.handlers mixedVariables).statements.map
          Located.statement =
            [.declare (.scalar .word "a" []),
              .declare (.scalar .byte "b" [.char "'x'", .number "2"]), .block .compile true,
              .declare (.const "N" "4"), .declare (.string "s" "\"hi\""), .block .main true] ++
            .declare (.array .word "c" (.name "N")) ::
            [.close, .declare (.buffer "buf" (.expr "$(N*2)")),
              .declare (.scalar .word "d" [.number "1", .number "2"])] := by
        decide +kernel
      obtain ⟨v, storage, hdeclared, -, hv⟩ := hstored _ _ _ hsplit rfl
      have hknown : constantsAfter Compiler.standard.predefined
          [.declare (.scalar .word "a" []),
            .declare (.scalar .byte "b" [.char "'x'", .number "2"]), .block .compile true,
            .declare (.const "N" "4"), .declare (.string "s" "\"hi\""), .block .main true] =
          [("N", "4")] := by
        decide +kernel
      rw [hknown] at hv
      refine ⟨listing, rfl, ?_, hwords, v, storage, hdeclared, hv⟩
      rw [hnames, hsplit]
      rfl

end Shorthand
